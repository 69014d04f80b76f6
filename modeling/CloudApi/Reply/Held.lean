import CloudApi.Reply.Basic

/-! # Replies that are held

A reply can be asked for its document, its answer and its error, in any order and more than once.
The body is read when it is first needed, and the error is looked for when it is first asked for;
what is found is kept in a cell, and later questions are answered from there.  Each question gives
the reply back with the cells as they are after it.

`HeldReply.result` is asked last: it gives the answer or the refusal, and the reply is let go. -/

namespace CloudApi

/-- A reply and what has been found of it so far. -/
structure HeldReply where
  reply : Reply
  /-- The document in the body, once the body has been read. -/
  document : Option (Option Json) := none
  /-- The error data, once they have been looked for. -/
  error : Option (Option ErrorData) := none

namespace HeldReply

/-- The reply to a command, of which nothing has been found yet. -/
def ofRaw (raw : RawReply) (command : String) (format : Format) : HeldReply :=
  { reply := .ofRaw raw command format }

/-- The document in the body. -/
def document? (r : HeldReply) : Option Json × HeldReply :=
  match r.document with
  | some found => (found, r)
  | none =>
    let found := r.reply.format.parse r.reply.raw.body
    (found, { r with document := some found })

/-- The answer to the command, if the document holds one. -/
def answer? (r : HeldReply) : Option Json × HeldReply :=
  let (document, r) := r.document?
  (document.bind (·.get? r.reply.property), r)

/-- Look for the error data.  The body of a reply with a status of success is not read for it. -/
def findError (r : HeldReply) : Option ErrorData × HeldReply :=
  if r.reply.raw.isSuccess then (none, r)
  else
    let (document, r) := r.document?
    let data := document.bind fun document => r.reply.format.errorData document r.reply.property
    (some (data.getD (.decodeFailure r.reply.raw.status r.reply.raw.body)), r)

/-- The error data; a reply with a status of success has none. -/
def errorData? (r : HeldReply) : Option ErrorData × HeldReply :=
  match r.error with
  | some found => (found, r)
  | none =>
    let (found, r) := r.findError
    (found, { r with error := some found })

/-- The reply is an error. -/
def hasError (r : HeldReply) : Bool × HeldReply :=
  let (data, r) := r.errorData?
  (data.isSome, r)

/-- Fail with the refusal if the reply is an error. -/
def check (r : HeldReply) (scheme : ErrorScheme) : Except Refusal Unit × HeldReply :=
  let (data, r) := r.errorData?
  match data with
  | some data => (.error (scheme.refusal r.reply.raw.status data), r)
  | none => (.ok (), r)

/-- The answer to the command, or the refusal. -/
def result (r : HeldReply) (scheme : ErrorScheme) : Except Refusal (Option Json) :=
  let (checked, r) := r.check scheme
  checked.map fun _ => r.answer?.1

end HeldReply

end CloudApi
