import CloudApi.CloudStack.Refusals
import CloudApi.Ec2.Refusals
import CloudApi.Provider.Endpoint
import CloudApi.Reply.Held
import CloudApi.Request.Prepared
import CloudApi.Request.Query
import CloudApi.Service.Version

/-! # Protocols

How an envelope becomes a request, and in which format and with which codes the answer comes.
Of the two that are spoken here, one names the action and the version, numbers its parameters, and
is answered in markup; the other names the command, joins lists with commas, and asks for
objects.

* `params_prepare_ec2Query`, `params_prepare_cloudStackQuery` the parameters of the two -/

namespace CloudApi

/-- What a service speaks. -/
structure Protocol where
  name : String
  /-- The request for an envelope. -/
  prepare : Endpoint → Version → Envelope → Prepared
  /-- The format of the answers. -/
  format : Format
  /-- The scheme of the error codes. -/
  errors : ErrorScheme

namespace Protocol

/-- The protocol with numbered parameters.  It is spoken by more than one provider. -/
def ec2Query (provider : Provider) : Protocol where
  name := "ec2-query"
  prepare endpoint version e :=
    { method := .post
      url := endpoint.url
      params := [("Action", e.command), ("Version", version.date)] ++ e.query .indexed }
  format := .xml
  errors := Ec2.errors provider

/-- The protocol with joined lists. -/
def cloudStackQuery : Protocol where
  name := "cloudstack-query"
  prepare endpoint _ e :=
    { method := .get
      url := endpoint.url
      params := [("command", e.command), ("response", "json")] ++ e.query .joined }
  format := .json
  errors := CloudStack.errors

/-- The protocol that a provider's replies come in. -/
def ofProvider : Provider → Protocol
  | .cloudStack => .cloudStackQuery
  | provider => .ec2Query provider

@[simp] theorem params_prepare_ec2Query (provider : Provider) (endpoint : Endpoint)
    (version : Version) (e : Envelope) :
    ((ec2Query provider).prepare endpoint version e).params =
      ("Action", e.command) :: ("Version", version.date) :: e.query .indexed := rfl

@[simp] theorem params_prepare_cloudStackQuery (endpoint : Endpoint) (version : Version)
    (e : Envelope) :
    (cloudStackQuery.prepare endpoint version e).params =
      ("command", e.command) :: ("response", "json") :: e.query .joined := rfl

/-- The answer to a command in a reply, or the refusal. -/
def decode (p : Protocol) (command : String) (raw : RawReply) : Except Refusal (Option Json) :=
  (HeldReply.ofRaw raw command p.format).result p.errors

end Protocol

end CloudApi
