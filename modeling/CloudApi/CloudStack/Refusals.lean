import CloudApi.Reply.Basic
import CloudApi.Text.Numeral

/-! # Error codes of the query service

Codes are numbers of at most sixteen bits. -/

namespace CloudApi.CloudStack

/-- The kind of a numeric code. -/
def kindOfNumber : Nat → RefusalKind
  | 401 | 531 => .unauthorized
  | 431 => .invalidParameter
  | 432 => .unsupportedOperation
  | 436 => .throttled
  | 530 => .internal
  | 532 => .limitExceeded
  | 533 => .insufficientCapacity
  | 534 | 535 => .resourceUnavailable
  | 536 => .resourceInUse
  | 537 => .conflict
  | _ => .generic

/-- Codes are below this limit. -/
def codeLimit : Nat := 65536

/-- The number that a code is: decimal digits after an optional plus sign, blanks at both ends
aside. -/
def codeNumber? (code : String) : Option Nat :=
  let digits :=
    match Text.trimList code.toList with
    | '+' :: digits => digits
    | digits => digits
  (Text.decimalValue? digits).filter (· < codeLimit)

/-- The kind of a code; one that is no such number is generic. -/
def kindOf (code : String) : RefusalKind := (codeNumber? code).elim .generic kindOfNumber

/-- The scheme of the provider that answers with these codes. -/
def errors : ErrorScheme := ⟨.cloudStack, kindOf⟩

end CloudApi.CloudStack
