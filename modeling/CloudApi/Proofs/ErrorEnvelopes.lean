import CloudApi.CloudStack.Refusals
import CloudApi.Proofs.HeldReplies
import Mathlib

/-!
# Where an error is looked for

A document that is an object reports an error by a code and a message, in the member that would
hold the answer to the command or in one that is common to all commands. Only one of the two is
looked at, and whether the member of the command is there settles which. So a member of the command
without a code or a message hides what the common member says.

## Key results

- `jsonErrorData_eq_some_iff`: the error data of a document are those of the member looked at
- `Reply.reported_json`: and these are what a reply reports
- `error_is_looked_for_in_one_member`: the first member that tells an error counts, unless the
  member of the command is there and tells none
- `empty_answer_hides_common_error`: then the reply is reported as one that cannot be decoded
-/

namespace CloudApi

/-- The document is an object with a code, which is a text or a number, and with a message. -/
structure Json.TellsError (j : Json) (data : ErrorData) : Prop where
  code : j.get? "errorcode" = some (.text data.code) ∨
    ∃ n : Number, j.get? "errorcode" = some (.number n) ∧ n.text = data.code
  message : j.get? "errortext" = some (.text data.text)

/-- There is a member, and it tells this error. -/
def Tells (member : Option Json) (data : ErrorData) : Prop :=
  ∃ j, member = some j ∧ j.TellsError data

@[simp] theorem not_tells_none (data : ErrorData) : ¬Tells none data := by
  simp [Tells]

@[simp] theorem tells_some_iff {j : Json} {data : ErrorData} :
    Tells (some j) data ↔ j.TellsError data := by
  simp [Tells]

/-- What is reported is told by the first of two members that tells an error; only if neither does,
it is something else. -/
structure FirstToTell (own common : Option Json) (otherwise reported : ErrorData) : Prop where
  ofOwn : ∀ data, Tells own data → reported = data
  ofCommon : (∀ data, ¬Tells own data) → ∀ data, Tells common data → reported = data
  ofNeither : (∀ data, ¬Tells own data) → (∀ data, ¬Tells common data) → reported = otherwise

/-- Where only the first member that is there is looked at, this is so unless the first one tells
no error and the second one does. -/
theorem FirstToTell.of_or {own common : Option Json} {otherwise reported : ErrorData}
    (told : ∀ data, Tells (own.or common) data → reported = data)
    (silent : (∀ data, ¬Tells (own.or common) data) → reported = otherwise)
    (seen : own = none ∨ (∃ data, Tells own data) ∨ ∀ data, ¬Tells common data) :
    FirstToTell own common otherwise reported := by
  cases own with
  -- without a member of the command it is the common one that is looked at
  | none =>
    rw [Option.none_or] at told silent
    exact ⟨fun data h => absurd h (not_tells_none data), fun _ => told, fun _ => silent⟩
  | some j =>
    rw [Option.some_or] at told silent
    refine ⟨told, ?_, fun none _ => silent none⟩
    intro none data tells
    -- the common member is hidden by the first one only where it tells nothing
    rcases seen with absent | ⟨_, tellsOwn⟩ | noneCommon
    · cases absent
    · exact absurd tellsOwn (none _)
    · exact absurd tells (noneCommon data)

namespace Format

theorem codeText?_eq_some_iff {j : Json} {code : String} :
    codeText? j = some code ↔ j = .text code ∨ ∃ n : Number, j = .number n ∧ n.text = code := by
  cases j <;> simp [codeText?]

theorem text?_eq_some_iff {j : Json} {s : String} : j.text? = some s ↔ j = .text s := by
  cases j <;> simp [Json.text?]

/-- The error data of a document are those of the one member that is looked at. -/
theorem jsonErrorData_eq_some_iff {document : Json} {property : String} {data : ErrorData} :
    jsonErrorData document property = some data ↔
      Tells ((document.get? property).or (document.get? "errorresponse")) data := by
  obtain ⟨code, message⟩ := data
  simp only [jsonErrorData, commonError, Option.bind_eq_bind, Option.bind_eq_some_iff,
    Option.pure_def, Option.some.injEq, ErrorData.mk.injEq, codeText?_eq_some_iff,
    text?_eq_some_iff]
  -- a code may be a text or a number; either way it comes to the same text
  constructor
  · rintro ⟨j, found, _, hasCode, _, isCode, _, hasMessage, _, rfl, rfl, rfl⟩
    refine ⟨j, found, ?_, hasMessage⟩
    rcases isCode with rfl | ⟨n, rfl, written⟩
    · exact .inl hasCode
    · exact .inr ⟨n, hasCode, written⟩
  · rintro ⟨j, found, hasCode | ⟨n, hasCode, written⟩, hasMessage⟩
    · exact ⟨j, found, _, hasCode, code, .inl rfl, _, hasMessage, message, rfl, rfl, rfl⟩
    · exact ⟨j, found, _, hasCode, code, .inr ⟨n, rfl, written⟩, _, hasMessage, message, rfl, rfl,
        rfl⟩

end Format

/-! ### Replies -/

namespace Reply

variable {raw : RawReply} {document : Json}

/-- A reply reports the error data of its document, if it has any. -/
theorem reported_json (read : Format.json.parse raw.body = some document) (command : String) :
    (ofRaw raw command .json).reported =
      (Format.jsonErrorData document (responseProperty command)).getD
        (.decodeFailure raw.status raw.body) := by
  have document? : (ofRaw raw command .json).document? = some document := read
  rw [reported, document?]
  rfl

/-- What is told in the member that is looked at is reported, -/
theorem reported_of_tells (read : Format.json.parse raw.body = some document) {command : String}
    {data : ErrorData}
    (told : Tells ((document.get? (responseProperty command)).or (document.get? "errorresponse"))
      data) : (ofRaw raw command .json).reported = data := by
  rw [reported_json read, Format.jsonErrorData_eq_some_iff.mpr told, Option.getD_some]

/-- and if nothing is told there, that the reply cannot be decoded. -/
theorem reported_of_not_tells (read : Format.json.parse raw.body = some document) {command : String}
    (silent : ∀ data,
      ¬Tells ((document.get? (responseProperty command)).or (document.get? "errorresponse")) data) :
    (ofRaw raw command .json).reported = .decodeFailure raw.status raw.body := by
  have none : Format.jsonErrorData document (responseProperty command) = none := by
    rw [Option.eq_none_iff_forall_ne_some]
    intro data found
    exact silent data (Format.jsonErrorData_eq_some_iff.mp found)
  rw [reported_json read, none, Option.getD_none]

end Reply

/-- Without a status of success, a reply whose body is an object is refused with what it reports,
whatever it was asked before. The first member that tells an error says what that is, the one of
the command or else the common one, and that the reply cannot be decoded is reported only if neither
does: this holds wherever the member of the command is absent or tells an error, or the common one
tells none. A member of the command that is there and tells no error is reported as one that cannot
be decoded, whatever the common member tells. -/
theorem error_is_looked_for_in_one_member {raw : RawReply} {document : Json}
    (read : Format.json.parse raw.body = some document)
    (failed : ¬(200 ≤ raw.status ∧ raw.status ≤ 299)) (command : String)
    (questions : List Question) (scheme : ErrorScheme) :
    let r := ((HeldReply.ofRaw raw command .json).askAll questions).2
    let reported := (Reply.ofRaw raw command .json).reported
    let failure := ErrorData.decodeFailure raw.status raw.body
    let own := document.get? (responseProperty command)
    let common := document.get? "errorresponse"
    (r.errorData?.1 = some reported ∧
      (r.check scheme).1 = .error (scheme.refusal raw.status reported) ∧
      r.result scheme = .error (scheme.refusal raw.status reported)) ∧
    (own = none ∨ (∃ data, Tells own data) ∨ (∀ data, ¬Tells common data) →
      FirstToTell own common failure reported) ∧
    (∀ j, own = some j → (∀ data, ¬j.TellsError data) → reported = failure) := by
  intro r reported failure own common
  -- one member is looked at: that of the command if it is there
  have told : ∀ data, Tells (own.or common) data → reported = data :=
    fun data => Reply.reported_of_tells read
  have silent : (∀ data, ¬Tells (own.or common) data) → reported = failure :=
    Reply.reported_of_not_tells read
  refine ⟨HeldReply.refused_askAll failed command .json questions scheme,
    FirstToTell.of_or told silent, ?_⟩
  intro j present none
  apply silent
  -- the member is there, so it is the one that is looked at
  rw [present, Option.some_or]
  intro data tells
  exact none data (tells_some_iff.mp tells)

/-! A reply that tells an error in the common member, beside a member of the command that is empty,
and the same reply to another command. -/

private def maskedReply : RawReply where
  status := 400
  body := "\x7b\"listzonesresponse\":\x7b\x7d," ++
    "\"errorresponse\":\x7b\"errorcode\":436,\"errortext\":\"slow\"\x7d\x7d"

private def maskedError : Json :=
  .object [("errorcode", .number (.whole 436)), ("errortext", .text "slow")]

private def maskedDocument : Json :=
  .object [("errorresponse", maskedError), ("listzonesresponse", .object [])]

private theorem parse_maskedReply : Format.json.parse maskedReply.body = some maskedDocument := by
  cbv

private theorem maskedError_tells : maskedError.TellsError ⟨"436", "slow"⟩ :=
  ⟨.inr ⟨.whole 436, rfl, rfl⟩, rfl⟩

theorem common_error_is_told_to_other_command :
    (HeldReply.ofRaw maskedReply "listVolumes" .json).result CloudStack.errors =
      .error ⟨.cloudStack, .throttled, "436", "slow", 400⟩ := by
  obtain ⟨⟨-, -, refused⟩, first, -⟩ := error_is_looked_for_in_one_member parse_maskedReply
    (by decide) "listVolumes" [] CloudStack.errors
  have reported : (Reply.ofRaw maskedReply "listVolumes" .json).reported = ⟨"436", "slow"⟩ :=
    (first (.inl rfl)).ofCommon (fun data => not_tells_none data) ⟨"436", "slow"⟩
      (tells_some_iff.mpr maskedError_tells)
  rw [reported] at refused
  exact refused

/-- It is not so that a whole error in the common member is always reported. -/
theorem empty_answer_hides_common_error :
    (Reply.ofRaw maskedReply "listZones" .json).reported = .decodeFailure 400 maskedReply.body ∧
    Tells (maskedDocument.get? "errorresponse") ⟨"436", "slow"⟩ ∧
    ¬∀ (raw : RawReply) (command : String) (document : Json),
      Format.json.parse raw.body = some document → ¬(200 ≤ raw.status ∧ raw.status ≤ 299) →
      FirstToTell (document.get? (responseProperty command)) (document.get? "errorresponse")
        (.decodeFailure raw.status raw.body) (Reply.ofRaw raw command .json).reported := by
  have hidden : (Reply.ofRaw maskedReply "listZones" .json).reported =
      .decodeFailure 400 maskedReply.body := by
    have none : Format.jsonErrorData maskedDocument (responseProperty "listZones") = none := rfl
    rw [Reply.reported_json parse_maskedReply, none]
    rfl
  have told : Tells (maskedDocument.get? "errorresponse") ⟨"436", "slow"⟩ :=
    tells_some_iff.mpr maskedError_tells
  refine ⟨hidden, told, fun claimed => ?_⟩
  -- the empty member tells no error
  have own : ∀ data, ¬Tells (maskedDocument.get? (responseProperty "listZones")) data := by
    rintro data ⟨j, found, tells⟩
    obtain rfl : .object [] = j := Option.some.inj found
    cases tells.message
  have reported := (claimed maskedReply "listZones" maskedDocument parse_maskedReply
    (by decide)).ofCommon own ⟨"436", "slow"⟩ told
  rw [hidden] at reported
  have code : toString 400 = "436" := congrArg ErrorData.code reported
  exact absurd code (by decide)

end CloudApi
