import CloudApi.Proofs.ErrorEnvelopes
import CloudApi.Proofs.WholeNumbers

/-!
# Numeric codes of errors

The code of an error may be written as a number or as the text of a number. Both come to the same
text, and this text is read as a number again before the kind is looked up. A number that is
negative or has more than sixteen bits is not read, so it cannot come out as another number that has
a kind of its own.

## Key results

- `codeNumber?_toString`: which whole numbers are codes
- `kindOf_toString`: the kind of a number is that of the table if the table could hold it
- `numeric_code_in_either_spelling`: what this means for replies
-/

namespace CloudApi.CloudStack

/-! ### From the text to the kind -/

/-- A written number has no blanks. -/
theorem trimList_toString (n : Int) :
    Text.trimList (toString n).toList = (toString n).toList := by
  apply Text.trimList_eq_self
  · intro c hc
    exact Text.isBlank_eq_false (Text.signOrDigit_of_mem_toString (List.mem_of_mem_head? hc))
  · intro c hc
    exact Text.isBlank_eq_false (Text.signOrDigit_of_mem_toString (List.mem_of_getLast? hc))

/-- A whole number is read from its text if it has no sign and fits sixteen bits. -/
theorem codeNumber?_toString (n : Int) :
    codeNumber? (toString n) = if 0 ≤ n ∧ n ≤ 65535 then some n.toNat else none := by
  -- a plus in front would be skipped, but no number is printed with one
  have unsigned : ∀ digits, (toString n).toList ≠ '+' :: digits := by
    intro digits text
    have plus := Text.signOrDigit_of_mem_toString (n := n) (c := '+') (text ▸ List.mem_cons_self)
    exact absurd plus (by decide)
  rw [codeNumber?, trimList_toString]
  split
  · next digits text => exact absurd text (unsigned digits)
  · rw [Text.toList_toString]
    by_cases sign : 0 ≤ n
    · have whole : n.natAbs = n.toNat := by omega
      rw [if_pos sign, Text.decimalValue?_toDigits, whole]
      by_cases fits : n ≤ 65535
      · have inside : n.toNat < codeLimit := by
          rw [codeLimit]
          omega
        rw [if_pos ⟨sign, fits⟩, Option.filter_some, if_pos (decide_eq_true inside)]
      · have outside : ¬n.toNat < codeLimit := by
          rw [codeLimit]
          omega
        rw [if_neg fun both => fits both.2, Option.filter_some, if_neg (by simpa using outside)]
    · -- a sign is no digit
      rw [if_neg sign, if_neg fun both => sign both.1]
      rfl

/-- The kind of a whole number is that of the table, and a number that the table cannot hold is of
no special kind. -/
theorem kindOf_toString (n : Int) :
    kindOf (toString n) = if 0 ≤ n ∧ n ≤ 65535 then kindOfNumber n.toNat else .generic := by
  rw [kindOf, codeNumber?_toString]
  split <;> rfl

/-! ### Replies -/

/-- Without a status of success, a reply with a whole number for a code, in the member of the
command or, if there is none, in the common one, is refused with this number in digits and with the
message beside it, whether the number is written as such or as a text, and whatever else there is.
The kind is that of the number in the table, and none of the special ones if the number is negative
or has more than sixteen bits. A number of 64 bits is taken from the body as it is written there. -/
theorem numeric_code_in_either_spelling {raw : RawReply} {command : String} {document member : Json}
    {n : Int} {message : String} (least : -2 ^ 63 ≤ n) (largest : n < 2 ^ 64)
    (read : Format.json.parse raw.body = some document)
    (place : document.get? (responseProperty command) = some member ∨
      document.get? (responseProperty command) = none ∧
        document.get? "errorresponse" = some member)
    (code : member.get? "errorcode" = some (.number (.whole n)) ∨
      member.get? "errorcode" = some (.text (toString n)))
    (text : member.get? "errortext" = some (.text message))
    (failed : ¬(200 ≤ raw.status ∧ raw.status ≤ 299)) (questions : List Question) :
    let r := ((HeldReply.ofRaw raw command .json).askAll questions).2
    let kind := if 0 ≤ n ∧ n ≤ 65535 then kindOfNumber n.toNat else .generic
    let refusal : Refusal := ⟨.cloudStack, kind, toString n, message, raw.status⟩
    (r.check errors).1 = .error refusal ∧
    r.result errors = .error refusal ∧
    ∀ (fuel depth : Nat) (rest : List Char), Text.HeadFails Number.carriesOn rest →
      Json.readValue (fuel + 1) depth ((toString n).toList ++ rest) =
        some (.number (.whole n), rest) := by
  intro r kind refusal
  -- in either place it is the member that is looked at
  have looked : (document.get? (responseProperty command)).or (document.get? "errorresponse") =
      some member := by
    rcases place with own | ⟨none, common⟩
    · rw [own, Option.some_or]
    · rw [none, Option.none_or, common]
  -- in either spelling it tells the same code
  have tells : member.TellsError ⟨toString n, message⟩ := by
    refine ⟨?_, text⟩
    rcases code with number | digits
    · exact .inr ⟨.whole n, number, rfl⟩
    · exact .inl digits
  have reported : (Reply.ofRaw raw command .json).reported = ⟨toString n, message⟩ :=
    Reply.reported_of_tells read (looked ▸ tells_some_iff.mpr tells)
  obtain ⟨-, checked, answered⟩ := HeldReply.refused_askAll failed command .json questions errors
  have refused : errors.refusal raw.status ⟨toString n, message⟩ = refusal := by
    show Refusal.mk .cloudStack (kindOf (toString n)) _ _ _ = _
    rw [kindOf_toString]
  rw [reported, refused] at checked answered
  exact ⟨checked, answered, fun fuel depth rest stop =>
    Json.readValue_toString least largest stop fuel depth⟩

/-! A known code, and one of seventeen bits, the lowest sixteen of which are that code: each as a
number in the member of the command, and as a text in the common one. -/

private def numberReply (digits : String) : RawReply where
  status := 431
  body := "\x7b\"listzonesresponse\":" ++
    "\x7b\"errorcode\":" ++ digits ++ ",\"errortext\":\"no\",\"uuids\":[]\x7d\x7d"

private def textReply (digits : String) : RawReply where
  status := 431
  body := "\x7b\"errorresponse\":" ++
    "\x7b\"errorcode\":\"" ++ digits ++ "\",\"errortext\":\"no\"\x7d\x7d"

private def numberMember (n : Int) : Json :=
  .object [("errorcode", .number (.whole n)), ("errortext", .text "no"), ("uuids", .array [])]

private def textMember (digits : String) : Json :=
  .object [("errorcode", .text digits), ("errortext", .text "no")]

theorem known_and_long_code_in_either_spelling :
    (HeldReply.ofRaw (numberReply "436") "listZones" .json).result errors =
      .error ⟨.cloudStack, .throttled, "436", "no", 431⟩ ∧
    (HeldReply.ofRaw (textReply "436") "listZones" .json).result errors =
      .error ⟨.cloudStack, .throttled, "436", "no", 431⟩ ∧
    (HeldReply.ofRaw (numberReply "65972") "listZones" .json).result errors =
      .error ⟨.cloudStack, .generic, "65972", "no", 431⟩ ∧
    (HeldReply.ofRaw (textReply "65972") "listZones" .json).result errors =
      .error ⟨.cloudStack, .generic, "65972", "no", 431⟩ := by
  have failed : ¬(200 ≤ 431 ∧ 431 ≤ 299) := by decide
  -- only that the body is read is left to each reply
  have number {n : Int} (least : -2 ^ 63 ≤ n) (largest : n < 2 ^ 64)
      (read : Format.json.parse (numberReply (toString n)).body =
        some (.object [("listzonesresponse", numberMember n)])) :
      (HeldReply.ofRaw (numberReply (toString n)) "listZones" .json).result errors =
        .error ⟨.cloudStack, if 0 ≤ n ∧ n ≤ 65535 then kindOfNumber n.toNat else .generic,
          toString n, "no", 431⟩ :=
    (numeric_code_in_either_spelling least largest read (.inl rfl) (.inl rfl) rfl failed []).2.1
  have text {n : Int} (least : -2 ^ 63 ≤ n) (largest : n < 2 ^ 64)
      (read : Format.json.parse (textReply (toString n)).body =
        some (.object [("errorresponse", textMember (toString n))])) :
      (HeldReply.ofRaw (textReply (toString n)) "listZones" .json).result errors =
        .error ⟨.cloudStack, if 0 ≤ n ∧ n ≤ 65535 then kindOfNumber n.toNat else .generic,
          toString n, "no", 431⟩ :=
    (numeric_code_in_either_spelling least largest read (.inr ⟨rfl, rfl⟩) (.inr rfl) rfl failed
      []).2.1
  refine ⟨?_, ?_, ?_, ?_⟩
  · exact number (n := 436) (by decide) (by decide) (by cbv)
  · exact text (n := 436) (by decide) (by decide) (by cbv)
  · exact number (n := 65972) (by decide) (by decide) (by cbv)
  · exact text (n := 65972) (by decide) (by decide) (by cbv)

end CloudApi.CloudStack
