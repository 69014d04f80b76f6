import CloudApi.Json.Basic
import CloudApi.Text.Quoted
import CloudApi.Text.Split

/-! # Writing documents

`compact` writes a document without blanks; `pretty` gives every item and every member a line of
its own, indented by two spaces a level, and leaves empty containers on one line.  Quotes,
backslashes and control characters are escaped in texts; everything else stands for itself. -/

namespace CloudApi.Json

/-- The written form of a character inside a text. -/
def escapedChar (c : Char) : List Char :=
  match c with
  | '"' => ['\\', '"']
  | '\\' => ['\\', '\\']
  | '\x08' => ['\\', 'b']
  | '\t' => ['\\', 't']
  | '\n' => ['\\', 'n']
  | '\x0c' => ['\\', 'f']
  | '\r' => ['\\', 'r']
  | c =>
    if c.toNat < 0x20 then
      ['\\', 'u', '0', '0'] ++ (if c.toNat < 0x10 then ['0'] else []) ++ Text.hexDigits c.toNat
    else [c]

/-- A text between quotes. -/
def writeText (s : String) : String :=
  String.ofList ('"' :: s.toList.flatMap escapedChar ++ ['"'])

mutual

/-- A document without blanks. -/
def compact : Json → String
  | .null => "null"
  | .bool true => "true"
  | .bool false => "false"
  | .number n => n.text
  | .text s => writeText s
  | .array items => "[" ++ Text.join "," (compactItems items) ++ "]"
  | .object members => "\x7b" ++ Text.join "," (compactMembers members) ++ "\x7d"

def compactItems : List Json → List String
  | [] => []
  | j :: rest => compact j :: compactItems rest

def compactMembers : List (String × Json) → List String
  | [] => []
  | (k, j) :: rest => (writeText k ++ ":" ++ compact j) :: compactMembers rest

end

/-- The beginning of a line at a level of nesting. -/
def indent (level : Nat) : String := "\n" ++ String.ofList (List.replicate (2 * level) ' ')

/-- The lines of a container between its brackets. -/
def block (opening closing : String) (level : Nat) (lines : List String) : String :=
  if lines = [] then opening ++ closing
  else
    opening ++ Text.join "," (lines.map (indent (level + 1) ++ ·)) ++ indent level ++ closing

mutual

/-- A document at a level of nesting, one line for each item and member. -/
def prettyAt (level : Nat) : Json → String
  | .array items => block "[" "]" level (prettyItems (level + 1) items)
  | .object members => block "\x7b" "\x7d" level (prettyMembers (level + 1) members)
  | .null => "null"
  | .bool true => "true"
  | .bool false => "false"
  | .number n => n.text
  | .text s => writeText s

def prettyItems (level : Nat) : List Json → List String
  | [] => []
  | j :: rest => prettyAt level j :: prettyItems level rest

def prettyMembers (level : Nat) : List (String × Json) → List String
  | [] => []
  | (k, j) :: rest => (writeText k ++ ": " ++ prettyAt level j) :: prettyMembers level rest

end

/-- A document on several lines. -/
def pretty (j : Json) : String := prettyAt 0 j

end CloudApi.Json
