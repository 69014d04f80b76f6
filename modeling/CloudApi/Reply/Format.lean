import CloudApi.Json.Reader
import CloudApi.Markup.Document
import CloudApi.Reply.ErrorData

/-! # Formats of replies

Replies are documents in one of two formats.  Each format says how a body is read and where a
reply that reports an error keeps the code and the text of it. -/

namespace CloudApi

/-- The format of a reply. -/
inductive Format where
  | json
  | xml
deriving DecidableEq, Repr

namespace Format

/-- What a format is called. -/
def name : Format → String
  | .json => "json"
  | .xml => "xml"

/-- Read a body.  A document in the first format must be an object. -/
def parse : Format → String → Option Json
  | .json, body => (Json.read body).filter Json.isObject
  | .xml, body => (Markup.parse body).toOption

/-- The member that holds an error whatever the command. -/
def commonError : String := "errorresponse"

/-- A code is a text, or a number, which stands for its text. -/
def codeText? : Json → Option String
  | .text s => some s
  | .number n => some n.text
  | _ => none

/-- The error data of an object with a code and a text. -/
def jsonErrorData (document : Json) (property : String) : Option ErrorData := do
  -- the common member is looked at only if the command's own is absent
  let body ← (document.get? property).or (document.get? commonError)
  let code ← codeText? (← body.get? "errorcode")
  let text ← (← body.get? "errortext").text?
  return ⟨code, text⟩

/-- The first of several, or the only one. -/
def firstOf : Json → Option Json
  | .array items => items.head?
  | j => some j

/-- The error data of the first error in a reply of either form. -/
def xmlErrorData (document : Json) : Option ErrorData := do
  let errors ← ((document.get? "response").bind (·.get? "Errors")).or
    (document.get? commonError)
  let error ← firstOf (← errors.get? "Error")
  let code ← (← error.get? "Code").text?
  let text ← (← error.get? "Message").text?
  return ⟨code, text⟩

/-- The error data of a document; `property` is the member that holds the command's answer. -/
def errorData : Format → Json → String → Option ErrorData
  | .json, document, property => jsonErrorData document property
  | .xml, document, _ => xmlErrorData document

end Format

end CloudApi
