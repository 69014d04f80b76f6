import CloudApi.Provider.Kind
import CloudApi.Text.Split

/-! # Errors

What can go wrong, by cause.  A value of the wrong shape, a name that is not accepted and a call
with the wrong arguments are found while a request is built; a setup error is found while a
service is resolved.  All of these are local: no request has been sent.  A refusal is the
provider's answer to a request, and a transport error means that no answer came.

`Error.message` is the wording of each of them. -/

namespace CloudApi

/-- A loose value does not have the shape that is asked for. -/
inductive ShapeError where
  | mismatch (expected got : String)
  | missingField (expected field : String)
  | atItem (index : Nat) (inner : ShapeError)
deriving DecidableEq, Repr

/-- A name or a number of identifiers is not accepted. -/
inductive NameError where
  | invalidFilter (resource value : String)
  | unknownSymbol (resource name : String)
  | tooManyIds (capability : String) (max got : Nat)
deriving DecidableEq, Repr

/-- A filter is called with the wrong arguments. -/
inductive CallError where
  | missingArgument (factory usage : String)
  | argumentCount (factory : String) (expected got : Nat)
deriving DecidableEq, Repr

/-- A service cannot be set up as asked. -/
inductive SetupError where
  | unknownService (service : String)
  | unsupportedVersion (service version : String) (supported : List String)
  | unknownCapability (service name : String)
  | missingEndpoint (service : String) (provider : Provider)
  | noPublicEndpoint (service : String)
  | invalidDescriptor (service problem : String)
deriving DecidableEq, Repr

/-- The families of a provider's error codes. -/
inductive RefusalKind where
  | notFound
  | unauthorized
  | invalidParameter
  | unsupportedOperation
  | throttled
  | limitExceeded
  | insufficientCapacity
  | resourceUnavailable
  | resourceInUse
  | conflict
  | internal
  /-- A code that is not recognised, or an answer that could not be decoded. -/
  | generic
deriving DecidableEq, Repr

/-- The provider answered with an error. -/
structure Refusal where
  provider : Provider
  kind : RefusalKind
  code : String
  text : String
  status : Nat
deriving DecidableEq, Repr

/-- The connection failed; what made it fail may be told beside it. -/
structure TransportError where
  text : String
  cause : Option String := none
deriving DecidableEq, Repr

/-- Everything that a client operation can fail with. -/
inductive Error where
  | name (e : NameError)
  | shape (e : ShapeError)
  | call (e : CallError)
  | setup (e : SetupError)
  | refused (e : Refusal)
  | transport (e : TransportError)
deriving DecidableEq, Repr

/-- The wording of a shape error. -/
def ShapeError.message : ShapeError → String
  | .mismatch expected got => "Type mismatch: expected " ++ expected ++ ", got " ++ got
  | .missingField expected field => "Missing field '" ++ field ++ "' in " ++ expected
  | .atItem index inner => "List item at index " ++ toString index ++ ": " ++ inner.message

/-- The wording of a name error. -/
def NameError.message : NameError → String
  | .invalidFilter resource value => "Invalid " ++ resource ++ " filter name '" ++ value ++ "'"
  | .unknownSymbol resource name => "Unknown " ++ resource ++ " filter symbol '" ++ name ++ "'"
  | .tooManyIds capability max got =>
    capability ++ " accepts at most " ++ toString max ++ " identifier(s), got " ++ toString got

/-- The wording of a call error. -/
def CallError.message : CallError → String
  | .missingArgument factory usage => factory ++ " name must be provided, use " ++ usage
  | .argumentCount factory expected got =>
    factory ++ " expects " ++ toString expected ++ " argument(s), got " ++ toString got

/-- The wording of a setup error. -/
def SetupError.message : SetupError → String
  | .unknownService service => "Unknown service: " ++ service
  | .unsupportedVersion service version supported =>
    "API version " ++ version ++ " is not supported by " ++ service ++ " (supported: " ++
      Text.join ", " supported ++ ")"
  | .unknownCapability service name =>
    "Unknown capability '" ++ name ++ "' for service " ++ service
  | .missingEndpoint service provider =>
    "No endpoint configured for service " ++ service ++ " on " ++ provider.name
  | .noPublicEndpoint service => "Service " ++ service ++ " has no public endpoint pattern"
  | .invalidDescriptor service problem =>
    "Invalid service descriptor for " ++ service ++ ": " ++ problem

namespace RefusalKind

/-- What a kind is called. -/
def text : RefusalKind → String
  | .notFound => "not found"
  | .unauthorized => "unauthorized"
  | .invalidParameter => "invalid parameter"
  | .unsupportedOperation => "unsupported operation"
  | .throttled => "throttled"
  | .limitExceeded => "limit exceeded"
  | .insufficientCapacity => "insufficient capacity"
  | .resourceUnavailable => "resource unavailable"
  | .resourceInUse => "resource in use"
  | .conflict => "conflict"
  | .internal => "internal error"
  | .generic => "client error"

/-- The same request may succeed later. -/
def isTransient : RefusalKind → Bool
  | .throttled | .insufficientCapacity | .resourceUnavailable | .internal => true
  | _ => false

end RefusalKind

/-- The wording of a refusal. -/
def Refusal.message (r : Refusal) : String :=
  r.provider.name ++ " " ++ r.kind.text ++ " [" ++ r.code ++ "] (HTTP " ++ toString r.status ++
    "): " ++ r.text

/-- The wording of a transport error; its cause is told apart from it. -/
def TransportError.message (e : TransportError) : String := "Transport error: " ++ e.text

namespace Error

/-- The wording of an error. -/
def message : Error → String
  | .name e => e.message
  | .shape e => e.message
  | .call e => e.message
  | .setup e => e.message
  | .refused e => e.message
  | .transport e => e.message

/-- The error was found before any request was sent. -/
def isLocal : Error → Bool
  | .refused _ | .transport _ => false
  | _ => true

end Error

end CloudApi
