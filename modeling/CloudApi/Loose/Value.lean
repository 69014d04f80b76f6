import CloudApi.Error
import CloudApi.Json.Basic

/-! # Loose values

Convenience operations take loosely typed input: texts, whole numbers, truth values, lists, and
maps with text keys.  `Loose.ofJson` reads a document as loose input; a missing value is the
empty list, and a number that is not a signed 64-bit one is kept as its text. -/

namespace CloudApi

/-- A loosely typed value.  The entries of a map are sorted by key and each key stands once. -/
inductive Loose where
  | text (s : String)
  | int (n : Int)
  | bool (b : Bool)
  | list (items : List Loose)
  | map (entries : List (String × Loose))
deriving BEq, Repr, Inhabited

namespace Loose

/-- What a value is called in errors. -/
def typeName : Loose → String
  | .text _ => "String"
  | .int _ => "Int"
  | .bool _ => "Bool"
  | .list _ => "List"
  | .map _ => "Map"

/-- The text that a value is sent as; lists and maps have none. -/
def scalarText? : Loose → Option String
  | .text s => some s
  | .int n => some (toString n)
  | .bool true => some "true"
  | .bool false => some "false"
  | .list _ | .map _ => none

/-- The map with these entries; the last of equal keys counts. -/
def ofEntries (entries : List (String × Loose)) : Loose := .map (Keyed.ofList entries)

/-- A signed 64-bit number. -/
def fitsSigned (n : Int) : Bool :=
  -(Number.signedLimit : Int) ≤ n && n < (Number.signedLimit : Int)

/-- A number as a loose value. -/
def ofNumber : Number → Loose
  -- a whole number beyond the range is not lost, but it is a number no more
  | .whole n => if fitsSigned n then .int n else .text (Number.whole n).text
  | x => .text x.text

mutual

/-- A document as a loose value. -/
def ofJson : Json → Loose
  | .null => .list []
  | .bool b => .bool b
  | .number n => ofNumber n
  | .text s => .text s
  | .array items => .list (ofItems items)
  | .object members => .map (ofMembers members)

def ofItems : List Json → List Loose
  | [] => []
  | j :: rest => ofJson j :: ofItems rest

def ofMembers : List (String × Json) → List (String × Loose)
  | [] => []
  | (k, j) :: rest => (k, ofJson j) :: ofMembers rest

end

end Loose

end CloudApi
