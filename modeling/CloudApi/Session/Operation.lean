import CloudApi.Session.Basic

/-! # Operations of a session

What can be asked of a session, one operation at a time, and what it answers.  An operation on a
facade names it by its index; an operation on a capability looks the capability up first, which
builds it if it has not been built.

`Session.perform` carries out one operation and `Session.run` a list of them. -/

namespace CloudApi

/-- What is asked of a capability. -/
inductive CapabilityRequest where
  /-- The capability itself. -/
  | itself
  /-- The envelope of a query. -/
  | envelope (q : Query)
  /-- The request for a query. -/
  | prepare (q : Query)
  /-- Send a query. -/
  | describe (q : Query)
  /-- The query that loose values stand for. -/
  | queryOfLoose (ids filters : Loose)
  /-- Send the query that loose values stand for. -/
  | describeLoose (ids filters : Loose)

/-- What is asked of a facade. -/
inductive FacadeRequest where
  /-- The names of its capabilities. -/
  | names
  /-- Where its calls go. -/
  | target
  /-- The same service in a region. -/
  | forRegion (region : String)
  /-- Something of one of its capabilities. -/
  | capability (name : String) (request : CapabilityRequest)
  /-- The request for an envelope. -/
  | prepare (e : Envelope)
  /-- Send an envelope. -/
  | call (e : Envelope)
  /-- The envelope that asks for attributes of the account. -/
  | accountAttributes (names : Loose)
  /-- Ask for attributes of the account. -/
  | describeAccountAttributes (names : Loose)
  /-- Ask for the regions of the account. -/
  | describeRegions
  /-- Ask for the zones available to the caller. -/
  | listZones
  /-- Ask for the accounts, of one domain if it is given. -/
  | listAccounts (domain : Option String)

/-- What is asked of a session. -/
inductive Operation where
  /-- A registered service. -/
  | binding (service : String)
  /-- The handler for a service. -/
  | resolve (service : String)
  /-- The handler for a service at a version. -/
  | resolveVersion (service version : String)
  /-- The endpoint of a service. -/
  | endpoint (service : String) (region : Option String)
  /-- A facade of a service; a session with a main service has that one's. -/
  | openFacade (service : String)
  /-- Something of a facade. -/
  | facade (index : Nat) (request : FacadeRequest)

/-- What an operation answers. -/
inductive Outcome where
  /-- The operation names a facade that has not been made. -/
  | noFacade
  | failed (e : Error)
  | binding (b : Binding)
  | handler (h : Handler)
  | endpoint (e : Endpoint)
  /-- A facade and its index. -/
  | facade (index : Nat) (f : Facade)
  | names (names : List String)
  | target (t : CallTarget)
  | capability (i : Instance Capability)
  | envelope (e : Envelope)
  | prepared (r : Prepared)
  | query (q : Query)
  | answer (j : Option Json)

namespace Outcome

/-- The outcome of a step that may fail. -/
def ofExcept {α : Type} (f : α → Outcome) : Except Error α → Outcome
  | .ok a => f a
  | .error e => .failed e

/-- The outcome of a failed set-up. -/
def failedSetup (e : SetupError) : Outcome := .failed (.setup e)

end Outcome

namespace Session

/-- The outcome of what has been sent, and the session with the link after it. -/
def received (s : Session) (result : Except Error (Option Json) × Link) : Outcome × Session :=
  (.ofExcept .answer result.1, { s with link := result.2 })

/-- Send an envelope to the target of a facade. -/
def sendTo (s : Session) (f : Facade) (e : Envelope) : Outcome × Session :=
  s.received (f.target.call e s.link)

/-- Answer a request to a capability. -/
def performCapability (s : Session) (i : Instance Capability) :
    CapabilityRequest → Outcome × Session
  | .itself => (.capability i, s)
  | .envelope q => (.ofExcept .envelope (i.value.envelope q), s)
  | .prepare q => (.ofExcept .prepared (i.value.prepare q), s)
  | .describe q => s.received (i.value.describe q s.link)
  | .queryOfLoose ids filters => (.ofExcept .query (i.value.queryOfLoose ids filters), s)
  | .describeLoose ids filters => s.received (i.value.describeLoose ids filters s.link)

/-- The outcome of a step that makes or finds a facade. -/
def facadeOutcome : Except SetupError Nat × Session → Outcome × Session
  | (.ok index, s) =>
    match s.facades[index]? with
    | some f => (.facade index f, s)
    | none => (.noFacade, s)
  | (.error e, s) => (.failedSetup e, s)

/-- Answer a request to the facade `f`, which has this index. -/
def performFacade (s : Session) (index : Nat) (f : Facade) : FacadeRequest → Outcome × Session
  | .names => (.names f.capabilityNames, s)
  | .target => (.target f.target, s)
  | .forRegion region => facadeOutcome (s.redirect f region)
  | .capability name request =>
    -- what the lookup builds is kept, even if the request then fails
    match f.capability name with
    | (.ok i, f) => (s.setFacade index f).performCapability i request
    | (.error e, f) => (.failedSetup e, s.setFacade index f)
  | .prepare e => (.prepared (f.target.prepare e), s)
  | .call e => s.sendTo f e
  | .accountAttributes names =>
    (.ofExcept .envelope ((Ec2.accountAttributes names).mapError .shape), s)
  | .describeAccountAttributes names =>
    match Ec2.accountAttributes names with
    | .ok e => s.sendTo f e
    | .error e => (.failed (.shape e), s)
  | .describeRegions => s.sendTo f Ec2.describeRegions
  | .listZones => s.sendTo f CloudStack.listZones
  | .listAccounts domain => s.sendTo f (CloudStack.listAccounts domain)

/-- The outcome of a step of the resolver. -/
def handlerOutcome (s : Session) : Except SetupError Handler × Resolver → Outcome × Session
  | (.ok h, resolver) => (.handler h, { s with resolver })
  | (.error e, resolver) => (.failedSetup e, { s with resolver })

/-- Carry out an operation. -/
def perform (s : Session) : Operation → Outcome × Session
  | .binding service =>
    (.ofExcept .binding ((s.resolver.binding service).mapError .setup), s)
  | .resolve service => s.handlerOutcome (s.resolver.resolve service)
  | .resolveVersion service version =>
    s.handlerOutcome (s.resolver.resolveVersion service version)
  | .endpoint service region =>
    let endpoint := do
      let b ← s.resolver.binding service
      s.resolver.endpoint b.descriptor region
    (.ofExcept .endpoint (endpoint.mapError .setup), s)
  | .openFacade service => facadeOutcome (s.openFacade service)
  | .facade index request =>
    match s.facades[index]? with
    | some f => s.performFacade index f request
    | none => (.noFacade, s)

/-- Carry out operations in order. -/
def run (s : Session) : List Operation → List Outcome × Session
  | [] => ([], s)
  | o :: rest =>
    let (outcome, s) := s.perform o
    let (outcomes, s) := s.run rest
    (outcome :: outcomes, s)

end Session

end CloudApi
