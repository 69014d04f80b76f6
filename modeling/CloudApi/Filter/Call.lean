import CloudApi.Text.Blank
import CloudApi.Text.Split

/-! # Call syntax

A call is an identifier with arguments in parentheses, such as `tag('Name')`.  An argument stands
between single or double quotes, or it is bare and runs to the next comma, blanks at its ends
dropped.  Quotes protect commas and blanks.

* `arguments_comma`, `arguments_blank` commas and blanks before an argument are passed over
* `arguments_of_quoted`, `arguments_of_bare` what is read where an argument begins -/

namespace CloudApi.Filter

/-- A letter of ASCII. -/
def isLetter (c : Char) : Bool := ('a' ≤ c && c ≤ 'z') || ('A' ≤ c && c ≤ 'Z')

/-- A letter or a digit of ASCII. -/
def isLetterOrDigit (c : Char) : Bool := isLetter c || ('0' ≤ c && c ≤ '9')

/-- The identifier of a call and what stands between its parentheses.  A call stands on one
line. -/
def callParts? (cs : List Char) : Option (List Char × List Char) :=
  let name := cs.takeWhile isLetterOrDigit
  match name, cs.dropWhile isLetterOrDigit with
  | first :: _, '(' :: inner =>
    if isLetter first && inner.getLast? == some ')' && !inner.contains '\n' then
      some (name, inner.dropLast)
    else none
  | _, _ => none

theorem length_cut?_lt {c : Char} {cs before after : List Char}
    (h : Text.cut? c cs = some (before, after)) : after.length < cs.length := by
  obtain ⟨rfl, _⟩ := Text.cut?_eq_some h
  simp
  omega

/-- What a quoted argument holds and what stands after it, if the text starts with a quote that
is closed. -/
def quotedArgument? : List Char → Option (List Char × List Char)
  | [] => none
  | c :: cs => if c = '\'' ∨ c = '"' then Text.cut? c cs else none

theorem length_quotedArgument?_lt {cs content rest : List Char}
    (h : quotedArgument? cs = some (content, rest)) : rest.length < cs.length := by
  cases cs with
  | nil => simp [quotedArgument?] at h
  | cons c cs =>
    simp only [quotedArgument?, Option.ite_none_right_eq_some] at h
    have := length_cut?_lt h.2
    simp only [List.length_cons]
    omega

/-- The arguments between the parentheses of a call. -/
def arguments (cs : List Char) : List (List Char) :=
  match cs with
  | [] => []
  | c :: rest =>
    if Text.isBlank c ∨ c = ',' then arguments rest
    else
      match _h : quotedArgument? (c :: rest) with
      | some (content, after) => content :: arguments after
      | none =>
        Text.dropEnd Text.isBlank (c :: rest.takeWhile (· ≠ ',')) ::
          arguments (rest.dropWhile (· ≠ ','))
termination_by cs.length
decreasing_by
  · simp
  · simpa using length_quotedArgument?_lt _h
  · have := (List.dropWhile_suffix (l := rest) (· ≠ ',')).length_le
    simp only [List.length_cons]
    omega

/-- The name and the arguments of a call. -/
def call? (text : String) : Option (String × List String) :=
  (callParts? text.toList).map fun (name, inner) =>
    (String.ofList name, (arguments inner).map String.ofList)

theorem arguments_comma (cs : List Char) : arguments (',' :: cs) = arguments cs := by
  rw [arguments]
  simp

theorem arguments_blank {c : Char} (h : Text.isBlank c = true) (cs : List Char) :
    arguments (c :: cs) = arguments cs := by
  rw [arguments]
  simp [h]

/-- Where an argument begins, a quote that is closed is read first. -/
theorem arguments_of_quoted {c : Char} {rest content after : List Char}
    (hc : ¬ (Text.isBlank c = true ∨ c = ','))
    (h : quotedArgument? (c :: rest) = some (content, after)) :
    arguments (c :: rest) = content :: arguments after := by
  rw [arguments, if_neg hc]
  split
  · next found =>
    rw [h, Option.some.injEq, Prod.mk.injEq] at found
    rw [found.1, found.2]
  · next found =>
    rw [h] at found
    cases found

theorem arguments_of_bare {c : Char} {rest : List Char} (hc : ¬ (Text.isBlank c = true ∨ c = ','))
    (h : quotedArgument? (c :: rest) = none) :
    arguments (c :: rest) =
      Text.dropEnd Text.isBlank (c :: rest.takeWhile (· ≠ ',')) ::
        arguments (rest.dropWhile (· ≠ ',')) := by
  rw [arguments, if_neg hc]
  split
  · next found =>
    rw [h] at found
    cases found
  · rfl

end CloudApi.Filter
