import CloudApi.Reply.Held

/-!
# Held replies

The cells of a held reply cannot be seen: whatever it has been asked before, each question is
answered as if the body were read anew. The invariant is `HeldReply.Faithful`, that a filled cell
holds what the reply says; every question keeps it, whichever cells it fills.

## Key results

- `tells_document`, `tells_answer`, `tells_errorData`, `tells_check`: each question is answered by
  what the reply says
- `tells_askAll`: so are many questions, one after the other
- `result_eq`: and so is the last one
- `HeldReply.refused_askAll`: a reply that is no success is refused with the error that it reports
- `held_reply_is_judged_by_status`: the status alone says whether a reply is an error, and what
  is answered or refused follows from the body
-/

namespace CloudApi

/-- What a held reply can be asked. -/
inductive Question where
  | document
  | answer
  | errorData
  | hasError
  /-- Is it a refusal, in this scheme of codes? -/
  | check (scheme : ErrorScheme)

/-- What a question is answered with. -/
inductive Finding where
  | document (document : Option Json)
  | answer (answer : Option Json)
  | errorData (data : Option ErrorData)
  | hasError (isError : Bool)
  | check (checked : Except Refusal Unit)

/-- What a reply says to a question when its body is read anew. -/
def Reply.finding (r : Reply) : Question → Finding
  | .document => .document r.document?
  | .answer => .answer r.answer?
  | .errorData => .errorData r.errorData?
  | .hasError => .hasError r.hasError
  | .check scheme => .check (r.check scheme)

namespace HeldReply

/-- Ask a question. -/
def ask (r : HeldReply) : Question → Finding × HeldReply
  | .document => (.document r.document?.1, r.document?.2)
  | .answer => (.answer r.answer?.1, r.answer?.2)
  | .errorData => (.errorData r.errorData?.1, r.errorData?.2)
  | .hasError => (.hasError r.hasError.1, r.hasError.2)
  | .check scheme => (.check (r.check scheme).1, (r.check scheme).2)

/-- Ask questions in order. -/
def askAll (r : HeldReply) : List Question → List Finding × HeldReply
  | [] => ([], r)
  | question :: rest =>
    let (finding, r) := r.ask question
    let (findings, r) := r.askAll rest
    (finding :: findings, r)

/-- What a cell holds is what the reply says. -/
structure Faithful (r : HeldReply) : Prop where
  document : ∀ found, r.document = some found → found = r.reply.document?
  error : ∀ found, r.error = some found → found = r.reply.errorData?

/-- The result of asking `r`: the answer is `answer`, and the same reply is held faithfully. -/
structure Tells {α : Type} (r : HeldReply) (answer : α) (result : α × HeldReply) : Prop where
  answer : result.1 = answer
  reply : result.2.reply = r.reply
  faithful : result.2.Faithful

/-! ### One question

What is found is kept at the same moment, so a question that fills a cell fills it with its
answer. -/

variable {r : HeldReply}

theorem faithful_ofRaw (raw : RawReply) (command : String) (format : Format) :
    (ofRaw raw command format).Faithful := by
  constructor <;> (intro found h; exact nomatch h)

theorem tells_document (h : r.Faithful) : Tells r r.reply.document? r.document? := by
  unfold document?
  cases hd : r.document with
  | some found => exact ⟨h.document found hd, rfl, h⟩
  | none =>
    -- the body is read, and the cell for the error is left alone
    refine ⟨rfl, rfl, ⟨?_, h.error⟩⟩
    intro found e
    exact (Option.some.inj e).symm

theorem tells_answer (h : r.Faithful) : Tells r r.reply.answer? r.answer? := by
  have read := tells_document h
  refine ⟨?_, read.reply, read.faithful⟩
  show r.document?.1.bind (·.get? r.document?.2.reply.property) = r.reply.answer?
  rw [read.answer, read.reply]
  rfl

private theorem tells_findError (h : r.Faithful) : Tells r r.reply.errorData? r.findError := by
  unfold findError Reply.errorData?
  split
  · -- a success has no error, and nothing is looked at
    exact ⟨rfl, rfl, h⟩
  · -- otherwise the document is read first, which may fill its cell
    have read := tells_document h
    refine ⟨?_, read.reply, read.faithful⟩
    show some ((r.document?.1.bind fun document =>
        r.document?.2.reply.format.errorData document r.document?.2.reply.property).getD
      (.decodeFailure r.document?.2.reply.raw.status r.document?.2.reply.raw.body)) =
        some r.reply.reported
    rw [read.answer, read.reply]
    rfl

theorem tells_errorData (h : r.Faithful) : Tells r r.reply.errorData? r.errorData? := by
  unfold errorData?
  cases he : r.error with
  -- the cell holds what an earlier question has found, and the invariant says that it is right
  | some found => exact ⟨h.error found he, rfl, h⟩
  | none =>
    have looked := tells_findError h
    refine ⟨looked.answer, looked.reply, ⟨looked.faithful.document, ?_⟩⟩
    intro found e
    -- looking may have filled the other cell, but the reply is still the same
    rw [← Option.some.inj e]
    exact looked.answer.trans (congrArg Reply.errorData? looked.reply.symm)

theorem tells_hasError (h : r.Faithful) : Tells r r.reply.hasError r.hasError := by
  have told := tells_errorData h
  exact ⟨congrArg Option.isSome told.answer, told.reply, told.faithful⟩

theorem tells_check (h : r.Faithful) (scheme : ErrorScheme) :
    Tells r (r.reply.check scheme) (r.check scheme) := by
  have told := tells_errorData h
  unfold HeldReply.check Reply.check
  -- the check looks at nothing but the error data
  rw [← told.answer]
  generalize r.errorData? = found at told ⊢
  obtain ⟨data, r'⟩ := found
  have same : r'.reply = r.reply := told.reply
  cases data with
  | none => exact ⟨rfl, same, told.faithful⟩
  | some data => exact ⟨by simp only [same], same, told.faithful⟩

/-! ### Many questions -/

/-- A question is answered by what the reply says. -/
theorem tells_ask (h : r.Faithful) (question : Question) :
    Tells r (r.reply.finding question) (r.ask question) := by
  -- each question has its own lemma; here the answers are only put under one type
  cases question with
  | document =>
    have told := tells_document h
    exact ⟨congrArg Finding.document told.answer, told.reply, told.faithful⟩
  | answer =>
    have told := tells_answer h
    exact ⟨congrArg Finding.answer told.answer, told.reply, told.faithful⟩
  | errorData =>
    have told := tells_errorData h
    exact ⟨congrArg Finding.errorData told.answer, told.reply, told.faithful⟩
  | hasError =>
    have told := tells_hasError h
    exact ⟨congrArg Finding.hasError told.answer, told.reply, told.faithful⟩
  | check scheme =>
    have told := tells_check h scheme
    exact ⟨congrArg Finding.check told.answer, told.reply, told.faithful⟩

/-- Questions are answered by what the reply says, whatever was asked before each of them. -/
theorem tells_askAll (h : r.Faithful) (questions : List Question) :
    Tells r (questions.map r.reply.finding) (r.askAll questions) := by
  induction questions generalizing r with
  | nil => exact ⟨rfl, rfl, h⟩
  | cons question rest ih =>
    have first := tells_ask h question
    have others := ih first.faithful
    refine ⟨?_, others.reply.trans first.reply, others.faithful⟩
    show (r.ask question).1 :: ((r.ask question).2.askAll rest).1 = _
    rw [first.answer, others.answer, first.reply, List.map_cons]

/-- The last question is answered by what the reply says. -/
theorem result_eq (h : r.Faithful) (scheme : ErrorScheme) :
    r.result scheme = r.reply.result scheme := by
  have checked := tells_check h scheme
  have answered := tells_answer checked.faithful
  show (r.check scheme).1.map (fun _ => (r.check scheme).2.answer?.1) = r.reply.result scheme
  rw [checked.answer, answered.answer, checked.reply]
  rfl

end HeldReply

/-! ### What a reply says -/

theorem RawReply.isSuccess_iff {raw : RawReply} :
    raw.isSuccess = true ↔ 200 ≤ raw.status ∧ raw.status ≤ 299 := by
  simp [isSuccess]

namespace Reply

theorem hasError_iff {r : Reply} :
    r.hasError = true ↔ ¬(200 ≤ r.raw.status ∧ r.raw.status ≤ 299) := by
  rw [← RawReply.isSuccess_iff]
  by_cases h : r.raw.isSuccess = true <;> simp [hasError, errorData?, h]

theorem check_eq (r : Reply) (scheme : ErrorScheme) :
    r.check scheme =
      if 200 ≤ r.raw.status ∧ r.raw.status ≤ 299 then .ok ()
      else .error (scheme.refusal r.raw.status r.reported) := by
  simp only [← RawReply.isSuccess_iff]
  by_cases h : r.raw.isSuccess = true <;> simp [check, errorData?, h]

end Reply

/-- Without a status of success a reply is refused with the error that it reports, whatever it was
asked before. -/
theorem HeldReply.refused_askAll {raw : RawReply}
    (failed : ¬(200 ≤ raw.status ∧ raw.status ≤ 299)) (command : String) (format : Format)
    (questions : List Question) (scheme : ErrorScheme) :
    let r := ((ofRaw raw command format).askAll questions).2
    let data := (Reply.ofRaw raw command format).reported
    r.errorData?.1 = some data ∧
    (r.check scheme).1 = .error (scheme.refusal raw.status data) ∧
    r.result scheme = .error (scheme.refusal raw.status data) := by
  intro r data
  have asked := tells_askAll (faithful_ofRaw raw command format) questions
  -- the questions may have filled cells, but they have not changed the reply
  have same : r.reply = .ofRaw raw command format := asked.reply
  have unsuccessful : ¬raw.isSuccess = true := fun h => failed (RawReply.isSuccess_iff.mp h)
  have checked : (Reply.ofRaw raw command format).check scheme =
      .error (scheme.refusal raw.status data) :=
    (Reply.check_eq _ scheme).trans (if_neg failed)
  refine ⟨?_, ?_, ?_⟩
  · rw [(tells_errorData asked.faithful).answer, same]
    exact if_neg unsuccessful
  · rw [(tells_check asked.faithful scheme).answer, same]
    exact checked
  · rw [result_eq asked.faithful, same, Reply.result, checked]
    rfl

/-- Whatever a held reply has been asked, it is an error exactly if its status lies outside of 200
to 299. With a status of success it gives the answer to its command, or none if the body cannot be
read or holds no answer; an answer that is null is an answer. With any other status it gives the
refusal with the code and the text of the error in its body, or with the status for a code and the
body without markup for a text. -/
theorem held_reply_is_judged_by_status (raw : RawReply) (command : String) (format : Format)
    (questions : List Question) (scheme : ErrorScheme) :
    let r := ((HeldReply.ofRaw raw command format).askAll questions).2
    let succeeded := 200 ≤ raw.status ∧ raw.status ≤ 299
    let document := format.parse raw.body
    let answer := document.bind (·.get? (responseProperty command))
    let reported := document.bind (format.errorData · (responseProperty command))
    let data := reported.getD
      ⟨toString raw.status, "cannot decode response: " ++ sanitize raw.body⟩
    let refusal : Refusal :=
      ⟨scheme.provider, scheme.kindOf data.code, data.code, data.text, raw.status⟩
    (r.hasError.1 = true ↔ ¬succeeded) ∧
    r.answer?.1 = answer ∧
    (r.check scheme).1 = (if succeeded then .ok () else .error refusal) ∧
    r.result scheme = (if succeeded then .ok answer else .error refusal) := by
  intro r succeeded document answer reported data refusal
  -- after any questions the reply is the one that arrived, and its cells tell the truth of it
  have asked := HeldReply.tells_askAll (HeldReply.faithful_ofRaw raw command format) questions
  have same : r.reply = .ofRaw raw command format := asked.reply
  have checked : (Reply.ofRaw raw command format).check scheme =
      if succeeded then .ok () else .error refusal := Reply.check_eq _ scheme
  -- so each answer is that of the reply itself, which has no cells
  refine ⟨?_, ?_, ?_, ?_⟩
  · rw [(HeldReply.tells_hasError asked.faithful).answer, same]
    exact Reply.hasError_iff
  · rw [(HeldReply.tells_answer asked.faithful).answer, same]
    rfl
  · rw [(HeldReply.tells_check asked.faithful scheme).answer, same]
    exact checked
  · rw [HeldReply.result_eq asked.faithful, same, Reply.result, checked]
    split <;> rfl

/-! An answer may be null. Of the two replies with an error envelope, one in each format, the one
that has failed is refused, and the other one answers nothing. -/

private def nullAnswer : RawReply :=
  { status := 200, body := "\x7b\"listzonesresponse\":null\x7d" }

private def envelopeOfSuccess : RawReply where
  status := 200
  body := "\x7b\"errorresponse\":\x7b\"errorcode\":436,\"errortext\":\"no\"\x7d\x7d"

private def envelopeOfFailure : RawReply where
  status := 403
  body := "<ErrorResponse><Error><Code>Blocked</Code><Message>no</Message></Error></ErrorResponse>"

example :
    ((HeldReply.ofRaw nullAnswer "listzones" .json).askAll [.hasError, .errorData]).2.result
      (.generic .cloudStack) = .ok (some .null) := by
  cbv

example :
    ((HeldReply.ofRaw envelopeOfSuccess "listzones" .json).askAll [.errorData]).2.result
      (.generic .cloudStack) = .ok none := by
  cbv

example :
    ((HeldReply.ofRaw envelopeOfFailure "regions" .xml).askAll [.answer]).2.result
      (.generic .aws) = .error ⟨.aws, .generic, "Blocked", "no", 403⟩ := by
  cbv

end CloudApi
