import CloudApi.Text.Blank
import CloudApi.Text.Split

/-! # Assignments

A name and its values in one argument, `NAME=VALUE,VALUE`.  The name ends at the first equals
sign; blanks around the name and around each value are dropped, and so are blank values.  At
least one value must be left. -/

namespace CloudApi.CommandLine

/-- Why an argument is no assignment. -/
inductive AssignmentError where
  | noSign (text : String)
  | noValues (name : String)
deriving DecidableEq, Repr

/-- The wording of the error. -/
def AssignmentError.message : AssignmentError → String
  | .noSign text => "Expected NAME=VALUE[,VALUE...], got '" ++ text ++ "'"
  | .noValues name => "No values given for '" ++ name ++ "'"

/-- The values between commas that are not blank, without the blanks around them. -/
def valuesOf (cs : List Char) : List (List Char) :=
  ((Text.pieces (· = ',') cs).map Text.trimList).filter (· ≠ [])

/-- The name and the values of an assignment. -/
def splitAssignment (text : String) : Except AssignmentError (String × List String) :=
  -- the first sign counts, even one inside quotes
  match Text.cut? '=' text.toList with
  | none => .error (.noSign text)
  | some (name, values) =>
    match valuesOf values with
    | [] => .error (.noValues (String.ofList name))
    | values => .ok (String.ofList (Text.trimList name), values.map String.ofList)

end CloudApi.CommandLine
