import CloudApi.Reply.Basic

/-! # Error codes of the compute service

Some codes have a kind of their own; the others are told by how they begin and end, and the rules
are tried in order. -/

namespace CloudApi.Ec2

/-- The codes with a kind of their own. -/
def codeKinds : List (String × RefusalKind) :=
  [("AuthFailure", .unauthorized), ("UnauthorizedOperation", .unauthorized),
   ("InvalidClientTokenId", .unauthorized), ("SignatureDoesNotMatch", .unauthorized),
   ("OptInRequired", .unauthorized), ("Blocked", .unauthorized),
   ("RequestLimitExceeded", .throttled), ("Throttling", .throttled),
   ("MissingParameter", .invalidParameter), ("InvalidQueryParameter", .invalidParameter),
   ("MissingAction", .invalidParameter),
   ("InvalidAction", .unsupportedOperation), ("UnsupportedOperation", .unsupportedOperation),
   ("Unsupported", .unsupportedOperation),
   ("VolumeInUse", .resourceInUse), ("DependencyViolation", .resourceInUse),
   ("InternalError", .internal), ("InternalFailure", .internal),
   ("ServiceUnavailable", .resourceUnavailable), ("Unavailable", .resourceUnavailable),
   ("IncorrectState", .conflict), ("IncorrectInstanceState", .conflict)]

/-- The kind of a code by how it begins and ends. -/
def kindByShape (code : String) : RefusalKind :=
  if Text.endsWith ".NotFound" code then .notFound
  else if Text.endsWith ".Malformed" code || Text.startsWith "InvalidParameter" code
      || Text.startsWith "InvalidFilter" code then .invalidParameter
  else if Text.endsWith ".InUse" code then .resourceInUse
  else if Text.endsWith ".Duplicate" code then .conflict
  else if Text.endsWith "LimitExceeded" code then .limitExceeded
  else if Text.startsWith "Insufficient" code && Text.endsWith "Capacity" code then
    .insufficientCapacity
  else .generic

/-- The kind of a code. -/
def kindOf (code : String) : RefusalKind := (codeKinds.lookup code).getD (kindByShape code)

/-- The scheme of a provider that answers with these codes. -/
def errors (provider : Provider) : ErrorScheme := ⟨provider, kindOf⟩

end CloudApi.Ec2
