import CloudApi.Protocol
import CloudApi.Provider.Context
import CloudApi.Service.Descriptor

/-! # Resolving services

A resolver knows the services of a session.  Resolving one picks the version and the endpoint and
answers with a handler; there is one handler for each service and version, built at the first
call and kept.  A handler's `serial` tells it from all others of its resolver: it is the number
of handlers that were built before it.

Each call answers with the resolver as it is then, whether it fails or not. -/

namespace CloudApi

/-- A service and the protocol that it speaks. -/
structure Binding where
  descriptor : Descriptor
  protocol : Protocol

/-- What carries out the calls to one service at one version. -/
structure Handler where
  serial : Nat
  service : String
  version : Version
  endpoint : Endpoint
  protocol : Protocol

namespace Handler

/-- The request for an envelope, at the handler's endpoint unless another one is given. -/
def prepare (h : Handler) (e : Envelope) (override : Option Endpoint) : Prepared :=
  h.protocol.prepare (override.getD h.endpoint) h.version e

/-- The description of a handler in diagnostics. -/
def describe (h : Handler) : String :=
  "ApiHandler \x7b service: " ++ Text.quoted h.service ++
    ", version: ApiVersion(" ++ Text.quoted h.version.text ++
    "), endpoint: Endpoint(" ++ Text.quoted h.endpoint.text ++
    "), protocol: " ++ Text.quoted h.protocol.name ++ " \x7d"

end Handler

/-- The services of a session and the handlers that have been built, the first one first. -/
structure Resolver where
  context : Context
  bindings : Keyed Binding := []
  handlers : List Handler := []

namespace Resolver

/-- Register a service; a later one of the same name takes the place of an earlier one. -/
def withService (r : Resolver) (b : Binding) : Resolver :=
  { r with bindings := r.bindings.set b.descriptor.name b }

/-- The service of this name. -/
def binding (r : Resolver) (service : String) : Except SetupError Binding :=
  match r.bindings.get? service with
  | some b => .ok b
  | none => .error (.unknownService service)

/-- The version that the session uses of a service. -/
def versionOf (r : Resolver) (d : Descriptor) : Version := d.versionFor r.context.provider

/-- The public endpoint of a service in a region. -/
def publicEndpoint (d : Descriptor) (region : Option String) : Except SetupError Endpoint :=
  match d.dns with
  | some dns => .ok ⟨dns.hostFor region⟩
  | none => .error (.noPublicEndpoint d.name)

/-- The endpoint of a service: the public one if a region is given, or else as the session's
provider locates its services. -/
def endpoint (r : Resolver) (d : Descriptor) (region : Option String) :
    Except SetupError Endpoint :=
  match region with
  -- the region is taken as it is spelled
  | some region => publicEndpoint d (some region)
  | none =>
    match r.context.provider.endpointStyle with
    | .publicDns => publicEndpoint d r.context.region
    | .baseUrl =>
      match r.context.url? d.name with
      | some url => .ok (.ofBaseUrl url)
      | none => .error (.missingEndpoint d.name r.context.provider)

/-- The handler that has been built for a service and version. -/
def built? (r : Resolver) (service : String) (version : Version) : Option Handler :=
  r.handlers.find? fun h => h.service = service ∧ h.version = version

/-- A new handler for a service and version. -/
def build (r : Resolver) (b : Binding) (version : Version) : Except SetupError Handler := do
  b.descriptor.ensureSupported version
  let endpoint ← r.endpoint b.descriptor none
  return { serial := r.handlers.length, service := b.descriptor.name, version, endpoint
           protocol := b.protocol }

/-- The handler for a service and version, built if there is none. -/
def handler (r : Resolver) (b : Binding) (version : Version) :
    Except SetupError Handler × Resolver :=
  -- what has been built is used whatever the binding says now
  match r.built? b.descriptor.name version with
  | some h => (.ok h, r)
  | none =>
    match r.build b version with
    | .ok h => (.ok h, { r with handlers := r.handlers ++ [h] })
    | .error e => (.error e, r)

/-- The handler for a service at the version that the session uses. -/
def resolve (r : Resolver) (service : String) : Except SetupError Handler × Resolver :=
  match r.binding service with
  | .ok b => r.handler b (r.versionOf b.descriptor)
  | .error e => (.error e, r)

/-- The handler for a service at a version that is asked for. -/
def resolveVersion (r : Resolver) (service version : String) :
    Except SetupError Handler × Resolver :=
  match r.binding service with
  | .error e => (.error e, r)
  | .ok b =>
    match b.descriptor.versions.find? (·.text == version) with
    | some v => r.handler b v
    | none => (.error (Descriptor.unsupported service ⟨version⟩ b.descriptor.versions), r)

end Resolver

end CloudApi
