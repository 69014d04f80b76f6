import CloudApi.Json.Basic
import CloudApi.Text.Blank

/-! # Reading documents

A strict reader: one document, blanks around its tokens, nothing after it.  Blanks are space,
tab, line feed and carriage return.  A text holds no control characters and no half of a
surrogate pair, and at most `depthLimit` containers stand one inside another.

The readers of a document, of the items of an array and of the members of an object take a
number of steps that each of their calls lowers; the length of the input is always enough. -/

namespace CloudApi.Json

/-- The largest number of containers one inside another. -/
def depthLimit : Nat := 127

/-- What stands after the blanks at the front. -/
def skipSpace (cs : List Char) : List Char := cs.dropWhile Text.isSpace

/-! ### Texts -/

/-- The character that a letter after a backslash stands for. -/
def unescape? : Char → Option Char
  | '"' => some '"'
  | '\\' => some '\\'
  | '/' => some '/'
  | 'b' => some '\x08'
  | 'f' => some '\x0c'
  | 'n' => some '\n'
  | 'r' => some '\r'
  | 't' => some '\t'
  | _ => none

/-- The number that four digits of base sixteen stand for. -/
def unit? (a b c d : Char) : Option Nat := Text.valueFrom? Text.hexValue? 16 0 [a, b, c, d]

/-- The code point of a unit and, if it is the first half of a pair, of the unit after it;
nothing if a half stands alone. -/
def codePoint? (u : Nat) (rest : List Char) : Option (Nat × List Char) :=
  if 0xDC00 ≤ u ∧ u ≤ 0xDFFF then none
  else if 0xD800 ≤ u ∧ u ≤ 0xDBFF then
    match rest with
    | '\\' :: 'u' :: a :: b :: c :: d :: rest' =>
      match unit? a b c d with
      | some v =>
        if 0xDC00 ≤ v ∧ v ≤ 0xDFFF then
          some (0x10000 + (u - 0xD800) * 0x400 + (v - 0xDC00), rest')
        else none
      | none => none
    | _ => none
  else some (u, rest)

/-- The characters up to the closing quote, and what stands after it. -/
def readText : Nat → List Char → Option (List Char × List Char)
  | 0, _ => none
  | _ + 1, [] => none
  | fuel + 1, c :: cs =>
    if c = '"' then some ([], cs)
    else if c = '\\' then
      match cs with
      | 'u' :: a :: b :: x :: y :: rest => do
        let (n, rest) ← codePoint? (← unit? a b x y) rest
        let (s, rest) ← readText fuel rest
        return (Char.ofNat n :: s, rest)
      -- a `u` without four digits is no escape either
      | e :: rest => do
        let d ← unescape? e
        let (s, rest) ← readText fuel rest
        return (d :: s, rest)
      | [] => none
    -- a control character stands in a text only as an escape
    else if c.toNat < 0x20 then none
    else do
      let (s, rest) ← readText fuel cs
      return (c :: s, rest)

/-! ### Documents -/

mutual

/-- The document at the front of a text, and what stands after it. -/
def readValue : Nat → Nat → List Char → Option (Json × List Char)
  | 0, _, _ => none
  | fuel + 1, depth, cs =>
    match skipSpace cs with
    | 'n' :: 'u' :: 'l' :: 'l' :: rest => some (.null, rest)
    | 't' :: 'r' :: 'u' :: 'e' :: rest => some (.bool true, rest)
    | 'f' :: 'a' :: 'l' :: 's' :: 'e' :: rest => some (.bool false, rest)
    | '"' :: rest => do
      let (s, rest) ← readText (rest.length + 1) rest
      return (.text (String.ofList s), rest)
    | '[' :: rest =>
      -- an empty container counts as a level too
      if depth = 0 then none
      else
        match skipSpace rest with
        | ']' :: rest => some (.array [], rest)
        | rest => do
          let (items, rest) ← readItems fuel (depth - 1) rest
          return (.array items, rest)
    | '\x7b' :: rest =>
      if depth = 0 then none
      else
        match skipSpace rest with
        | '\x7d' :: rest => some (.object [], rest)
        | rest => do
          let (members, rest) ← readMembers fuel (depth - 1) rest
          return (Json.ofMembers members, rest)
    | cs => do
      let (n, rest) ← Number.read cs
      return (.number n, rest)

/-- The items of an array, at least one, and what stands after the closing bracket. -/
def readItems : Nat → Nat → List Char → Option (List Json × List Char)
  | 0, _, _ => none
  | fuel + 1, depth, cs => do
    let (item, rest) ← readValue fuel depth cs
    match skipSpace rest with
    | ',' :: rest =>
      let (items, rest) ← readItems fuel depth rest
      return (item :: items, rest)
    | ']' :: rest => return ([item], rest)
    | _ => none

/-- The members of an object, at least one, and what stands after the closing brace. -/
def readMembers : Nat → Nat → List Char → Option (List (String × Json) × List Char)
  | 0, _, _ => none
  | fuel + 1, depth, cs =>
    match skipSpace cs with
    | '"' :: rest => do
      let (name, rest) ← readText (rest.length + 1) rest
      match skipSpace rest with
      | ':' :: rest =>
        let (value, rest) ← readValue fuel depth rest
        match skipSpace rest with
        | ',' :: rest =>
          let (members, rest) ← readMembers fuel depth rest
          return ((String.ofList name, value) :: members, rest)
        | '\x7d' :: rest => return ([(String.ofList name, value)], rest)
        | _ => none
      | _ => none
    | _ => none

end

/-- The document that a whole text is, if it is one. -/
def read (s : String) : Option Json :=
  let cs := s.toList
  -- two steps at most go by until another character is taken
  match readValue (2 * cs.length + 2) depthLimit cs with
  | some (j, rest) => if skipSpace rest = [] then some j else none
  | none => none

end CloudApi.Json
