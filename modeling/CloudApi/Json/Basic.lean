import CloudApi.Json.Number
import CloudApi.Keyed

/-! # Documents

The structured documents that replies carry: null, truth values, numbers, texts, arrays, and
objects.  The members of an object are sorted by name and each name stands once; `Json.ofMembers`
is the function that makes them so. -/

namespace CloudApi

/-- A structured document. -/
inductive Json where
  | null
  | bool (b : Bool)
  | number (n : Number)
  | text (s : String)
  | array (items : List Json)
  | object (members : List (String × Json))
deriving BEq, Repr, Inhabited

namespace Json

/-- The object with these members, sorted by name; the last of equal names counts. -/
def ofMembers (members : List (String × Json)) : Json := .object (Keyed.ofList members)

/-- The value of a member of an object. -/
def get? : Json → String → Option Json
  | .object members, name => Keyed.get? members name
  | _, _ => none

/-- The text, if the document is one. -/
def text? : Json → Option String
  | .text s => some s
  | _ => none

/-- The document is an object. -/
def isObject : Json → Bool
  | .object _ => true
  | _ => false

end Json

end CloudApi
