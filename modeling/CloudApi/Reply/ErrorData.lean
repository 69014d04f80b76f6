import CloudApi.Text.Blank
import CloudApi.Text.Split

/-! # Error data

The code and the text of an error that a reply reports.  A reply that cannot be decoded is
reported by its status and by what is left of its body without markup. -/

namespace CloudApi

/-- The code and the text of a reported error. -/
structure ErrorData where
  code : String
  text : String
deriving DecidableEq, Repr

/-- Drop every tag: a `<` with the text up to and including the next `>`.  A `<` with no `>`
after it stays. -/
def dropTags (cs : List Char) : List Char :=
  match cs with
  | [] => []
  | c :: rest =>
    if c = '<' then
      match _h : Text.cut? '>' rest with
      | some (_, after) => dropTags after
      | none => c :: rest
    else c :: dropTags rest
termination_by cs.length
decreasing_by
  · obtain ⟨rfl, _⟩ := Text.cut?_eq_some _h
    simp
    omega
  · simp

/-- What is left of a body for a message: tags dropped, and blanks at both ends. -/
def sanitize (body : String) : String :=
  String.ofList (Text.trimList (dropTags body.toList))

namespace ErrorData

/-- How the text of a reply begins that cannot be decoded. -/
def decodeFailureStart : String := "cannot decode response: "

/-- The error data of a reply that cannot be decoded. -/
def decodeFailure (status : Nat) (body : String) : ErrorData :=
  ⟨toString status, decodeFailureStart ++ sanitize body⟩

end ErrorData

end CloudApi
