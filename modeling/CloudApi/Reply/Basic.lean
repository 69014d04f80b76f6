import CloudApi.Error
import CloudApi.Reply.Format
import CloudApi.Reply.Raw
import CloudApi.Text.Quoted

/-! # Decoded replies

A reply belongs to the command it answers.  The command's answer is the member of the document
that is named after the command, in small letters, with `response` at its end.  A reply with a
status of success is never an error; any other reply always is one, and an `ErrorScheme` says of
which kind. -/

namespace CloudApi

/-- How a provider's error codes fall into kinds. -/
structure ErrorScheme where
  provider : Provider
  kindOf : String → RefusalKind

namespace ErrorScheme

/-- The scheme in which every code is generic. -/
def generic (provider : Provider) : ErrorScheme := ⟨provider, fun _ => .generic⟩

/-- The refusal that error data of a reply with this status stand for. -/
def refusal (scheme : ErrorScheme) (status : Nat) (data : ErrorData) : Refusal :=
  ⟨scheme.provider, scheme.kindOf data.code, data.code, data.text, status⟩

end ErrorScheme

/-- How the name of a member ends that holds the answer to a command. -/
def answerEnding : String := "response"

/-- The name of the member that holds the answer to a command. -/
def responseProperty (command : String) : String := Text.lowercase command ++ answerEnding

/-- A reply to a command, the command in small letters. -/
structure Reply where
  raw : RawReply
  command : String
  format : Format

namespace Reply

/-- The reply to a command. -/
def ofRaw (raw : RawReply) (command : String) (format : Format) : Reply :=
  ⟨raw, Text.lowercase command, format⟩

/-- The name of the member that holds the answer. -/
def property (r : Reply) : String := r.command ++ answerEnding

/-- The document in the body. -/
def document? (r : Reply) : Option Json := r.format.parse r.raw.body

/-- The answer to the command, if the document holds one. -/
def answer? (r : Reply) : Option Json := r.document?.bind (·.get? r.property)

/-- The error that the reply reports: what its document says, or else that it cannot be
decoded. -/
def reported (r : Reply) : ErrorData :=
  (r.document?.bind fun document => r.format.errorData document r.property).getD
    (.decodeFailure r.raw.status r.raw.body)

/-- The error data of a reply; one with a status of success has none. -/
def errorData? (r : Reply) : Option ErrorData :=
  if r.raw.isSuccess then none else some r.reported

/-- The reply is an error. -/
def hasError (r : Reply) : Bool := r.errorData?.isSome

/-- Fail with the refusal if the reply is an error. -/
def check (r : Reply) (scheme : ErrorScheme) : Except Refusal Unit :=
  match r.errorData? with
  | some data => .error (scheme.refusal r.raw.status data)
  | none => .ok ()

/-- The answer to the command, or the refusal. -/
def result (r : Reply) (scheme : ErrorScheme) : Except Refusal (Option Json) :=
  (r.check scheme).map fun _ => r.answer?

/-- The description of a reply in diagnostics. -/
def describe (r : Reply) : String :=
  "ClientResponse \x7b command: " ++ Text.quoted r.command ++ ", status: " ++
    toString r.raw.status ++ ", format: " ++ Text.quoted r.format.name ++ " \x7d"

end Reply

end CloudApi
