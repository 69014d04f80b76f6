import CloudApi.Text.Case

/-! # Replies as they arrive

The status, the headers and the body of an answer. -/

namespace CloudApi

/-- An answer as it arrives. -/
structure RawReply where
  status : Nat
  headers : List (String × String) := []
  body : String
deriving DecidableEq, Repr

namespace RawReply

/-- The value of the first header of this name, the case of ASCII letters aside. -/
def header? (r : RawReply) (name : String) : Option String :=
  (r.headers.find? fun h => Text.sameIgnoringAsciiCase h.1 name).map (·.2)

/-- The status tells of success. -/
def isSuccess (r : RawReply) : Bool := 200 ≤ r.status && r.status ≤ 299

end RawReply

end CloudApi
