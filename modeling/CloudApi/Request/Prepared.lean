import CloudApi.Json.Basic
import CloudApi.Keyed

/-! # Prepared requests

A request that is ready to be signed and sent. -/

namespace CloudApi

/-- How a request is sent. -/
inductive Method where
  | get
  | post
deriving DecidableEq, Repr

/-- The word of the method on the wire. -/
def Method.wireName : Method → String
  | .get => "GET"
  | .post => "POST"

/-- The name of the method in documents. -/
def Method.name : Method → String
  | .get => "Get"
  | .post => "Post"

/-- A request: how and where it is sent, and its parameters in order. -/
structure Prepared where
  method : Method
  url : String
  params : Keyed String
deriving DecidableEq, Repr

namespace Prepared

/-- The value of the first parameter of this name. -/
def param? (r : Prepared) (name : String) : Option String := r.params.get? name

/-- The members of a request's document, in the order in which they are written. -/
def members (r : Prepared) : List (String × Json) :=
  [("method", .text r.method.name), ("url", .text r.url),
   ("params", .array (r.params.map fun p => .array [.text p.1, .text p.2]))]

end Prepared

end CloudApi
