import CloudApi.Ec2.Refusals
import CloudApi.Proofs.HeldReplies
import CloudApi.Proofs.MarkupDocuments

/-!
# The first of several errors

A document that reports errors lists them, in one of two places. One error stands in the value of
the list as it is, and several stand in an array; what else is in the list only settles that the
list is an object. Either way the first error is found, and its code and its message are the texts
of the elements of these names.

## Key results

- `firstOf_single`: the first of some values that are not arrays, however many they are
- `FirstError.exists_firstOf`: the first error of a list, with its code and its message
- `ReportsError.reported_eq`: it is what a reply with this document reports
- `first_error_is_reported`: and what the reply is refused with
-/

namespace CloudApi.Markup

/-- A list of errors, the first of which has one code and one message, with no elements in them.
What else is in the list and in the errors is left open. -/
inductive FirstError (list : Content) (data : ErrorData) : Prop
  | intro {first code message : Content} {others : List Content}
      (errors : list.named "Error" = first :: others)
      (codes : first.named "Code" = [code]) (plainCode : code.elements = [])
      (messages : first.named "Message" = [message]) (plainMessage : message.elements = [])
      (codeText : code.ownText = data.code) (messageText : message.ownText = data.text)

/-- A document that lists errors: inside the one list of its root, or right inside its root. -/
inductive ReportsError (doc : Content) (data : ErrorData) : Prop
  | response {response list : Content} (single : doc.elements = [("Response", response)])
      (lists : response.named "Errors" = [list]) (first : FirstError list data)
  | errorResponse {list : Content} (single : doc.elements = [("ErrorResponse", list)])
      (first : FirstError list data)

/-- The first of some values is found whether it stands alone or in an array. -/
theorem firstOf_single {j : Json} (h : ∀ items, j ≠ .array items) (js : List Json) :
    Format.firstOf (single (j :: js)) = some j := by
  cases js with
  | cons k js => rfl
  | nil =>
    cases j with
    | array items => exact absurd rfl (h items)
    | null | bool | number | text | object => rfl

/-- The first error of a list, and the code and the message in it. -/
theorem FirstError.exists_firstOf {list : Content} {data : ErrorData} (h : FirstError list data)
    (name : String) :
    ∃ listed error : Json, (list.reading name).get? "Error" = some listed ∧
      Format.firstOf listed = some error ∧ error.get? "Code" = some (.text data.code) ∧
      error.get? "Message" = some (.text data.text) := by
  -- one code and one message, each without elements, so their values are their texts
  obtain @⟨first, code, message, others, errors, codes, plainCode, messages, plainMessage,
    codeText, messageText⟩ := h
  have hasCode : (first.reading "Error").get? "Code" = some (.text data.code) := by
    rw [Content.get?_reading_of_named codes (by decide),
      Content.reading_of_elements_eq_nil plainCode rfl, codeText]
  have hasMessage : (first.reading "Error").get? "Message" = some (.text data.text) := by
    rw [Content.get?_reading_of_named messages (by decide),
      Content.reading_of_elements_eq_nil plainMessage rfl, messageText]
  -- it is an object, so an array in its place holds several errors
  have alone : ∀ items, first.reading "Error" ≠ .array items := by
    intro items e
    rw [e] at hasCode
    cases hasCode
  refine ⟨single (first.reading "Error" :: others.map (·.reading "Error")), first.reading "Error",
    ?_, firstOf_single alone _, hasCode, hasMessage⟩
  rw [Content.get?_reading (m := "Error") (by simp [errors]) (by decide), errors, List.map_cons]
  exact gathered_eq_some (List.cons_ne_nil _ _)

/-- Where the list of errors is found, its first error is. -/
theorem FirstError.xmlErrorData_eq {list : Content} {data : ErrorData} (h : FirstError list data)
    {document : Json} (name : String)
    (found : ((document.get? "response").bind (·.get? "Errors")).or
      (document.get? "errorresponse") = some (list.reading name)) :
    Format.xmlErrorData document = some data := by
  obtain ⟨listed, error, errors, first, code, message⟩ := h.exists_firstOf name
  simp only [Format.xmlErrorData, Format.commonError, found, errors, first, code, message,
    Json.text?, Option.bind_eq_bind, Option.bind_some, Option.pure_def]

/-- A reply with such a document reports the first error. -/
theorem ReportsError.reported_eq {raw : RawReply} {doc : Content} {data : ErrorData}
    (h : ReportsError doc data) (read : events (withoutMark raw.body.toList) = some doc.events)
    (command : String) : (Reply.ofRaw raw command .xml).reported = data := by
  -- either form leads to the same list of errors; it stands at another place
  have found : ∃ document, (Reply.ofRaw raw command .xml).document? = some document ∧
      Format.xmlErrorData document = some data := by
    cases h with
    | @response response list single lists first =>
      have root : Text.lowercase "Response" = "response" := rfl
      refine ⟨_, document?_of_single read single command, first.xmlErrorData_eq "Errors" ?_⟩
      -- the root is an object, since it holds the list
      have member : (response.reading "Response").get? "Errors" = some (list.reading "Errors") :=
        Content.get?_reading_of_named lists (by decide) "Response"
      rw [root]
      show ((some (response.reading "Response")).bind (·.get? "Errors")).or _ = _
      rw [Option.bind_some, member, Option.some_or]
    | @errorResponse list single first =>
      have root : Text.lowercase "ErrorResponse" = "errorresponse" := rfl
      refine ⟨_, document?_of_single read single command,
        first.xmlErrorData_eq "ErrorResponse" ?_⟩
      rw [root]
      rfl
  obtain ⟨document, document?, data?⟩ := found
  rw [Reply.reported, document?, Option.bind_some]
  show (Format.xmlErrorData document).getD _ = data
  rw [data?, Option.getD_some]

/-- Without a status of success, a reply whose document lists errors in either place is refused
with the code and the message of the first one, and of the kind of this code. It does not matter
how many errors follow, what is in them, and what else stands beside the errors, the list and the
code and the message. -/
theorem first_error_is_reported {raw : RawReply} {doc : Content} {data : ErrorData}
    (read : events (withoutMark raw.body.toList) = some doc.events) (told : ReportsError doc data)
    (failed : ¬(200 ≤ raw.status ∧ raw.status ≤ 299)) (command : String)
    (questions : List Question) (scheme : ErrorScheme) :
    let r := ((HeldReply.ofRaw raw command .xml).askAll questions).2
    let refusal : Refusal :=
      ⟨scheme.provider, scheme.kindOf data.code, data.code, data.text, raw.status⟩
    r.errorData?.1 = some data ∧
    (r.check scheme).1 = .error refusal ∧
    r.result scheme = .error refusal := by
  intro r refusal
  -- which error is reported is settled by the body, the rest by the status
  have reported : (Reply.ofRaw raw command .xml).reported = data := told.reported_eq read command
  have refused := HeldReply.refused_askAll failed command .xml questions scheme
  rw [reported] at refused
  exact refused

/-! Two errors and something else in a list, and one error without a list. -/

private def twoErrors : RawReply where
  status := 401
  body := "<?v?><Response><Errors><Warning/><Error><Code>AuthFailure</Code>" ++
    "<Message>no <![CDATA[access]]></Message><Type/></Error><Error>?</Error></Errors>" ++
    "<RequestID>7</RequestID></Response>"

private def authFailure : Content :=
  .element "Code" (.aside (.text "AuthFailure") .nil)
    (.element "Message" (.aside (.text "no") (.aside (.literal "access") .nil))
      (.empty "Type" .nil))

private def twoErrorsList : Content :=
  .empty "Warning" (.element "Error" authFailure
    (.element "Error" (.aside (.text "?") .nil) .nil))

private def twoErrorsDocument : Content :=
  .aside .other (.element "Response"
    (.element "Errors" twoErrorsList (.element "RequestID" (.aside (.text "7") .nil) .nil)) .nil)

private def oneError : RawReply where
  status := 503
  body := "<ErrorResponse><Error><Message>busy</Message><Code>Unavailable</Code></Error>" ++
    "</ErrorResponse>"

private def oneErrorList : Content :=
  .element "Error" (.element "Message" (.aside (.text "busy") .nil)
    (.element "Code" (.aside (.text "Unavailable") .nil) .nil)) .nil

theorem first_of_two_errors_is_reported :
    ((HeldReply.ofRaw twoErrors "DescribeRegions" .xml).askAll [.answer]).2.result
      (Ec2.errors .aws) =
      .error ⟨.aws, .unauthorized, "AuthFailure", "noaccess", 401⟩ ∧
    (HeldReply.ofRaw oneError "DescribeVolumes" .xml).result (Ec2.errors .eucalyptus) =
      .error ⟨.eucalyptus, .resourceUnavailable, "Unavailable", "busy", 503⟩ := by
  have listed : FirstError twoErrorsList ⟨"AuthFailure", "noaccess"⟩ :=
    .intro rfl rfl rfl rfl rfl (by decide) (by decide)
  have alone : FirstError oneErrorList ⟨"Unavailable", "busy"⟩ :=
    .intro rfl rfl rfl rfl rfl (by decide) (by decide)
  have two : events (withoutMark twoErrors.body.toList) = some twoErrorsDocument.events := by
    decide +kernel
  have one : events (withoutMark oneError.body.toList) =
      some (Content.element "ErrorResponse" oneErrorList .nil).events := rfl
  constructor
  · exact (first_error_is_reported two (.response rfl rfl listed) (by decide) "DescribeRegions"
      [.answer] (Ec2.errors .aws)).2.2
  · exact (first_error_is_reported one (.errorResponse rfl alone) (by decide) "DescribeVolumes"
      [] (Ec2.errors .eucalyptus)).2.2

end CloudApi.Markup
