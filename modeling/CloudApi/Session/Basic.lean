import CloudApi.CloudStack.Service
import CloudApi.Ec2.Service
import CloudApi.Facade

/-! # Sessions

A session has a resolver, a link over which it sends requests, and the facades that have been
made, which are known by their index.  A session with a main service makes its facade once and
keeps it; a session of registered services makes a new facade at each call. -/

namespace CloudApi

/-- The service that a session is for. -/
structure MainService where
  name : String
  /-- The facade that is kept, once it has been made. -/
  facade : Option Nat := none

/-- A session. -/
structure Session where
  resolver : Resolver
  /-- The capabilities of the facades that the session makes. -/
  definitions : List Definition
  main : Option MainService := none
  facades : List Facade := []
  link : Link

/-- Why a session cannot be opened. -/
inductive OpenError where
  | region (e : Ec2.InvalidRegion)
  | unsupportedProvider (provider : Provider)
deriving DecidableEq, Repr

/-- The wording of the error. -/
def OpenError.message : OpenError → String
  | .region e => e.message
  | .unsupportedProvider provider => provider.name ++ " is not an AWS-compatible provider"

namespace Session

/-- The settings with the region, if there is one, in its usual spelling. -/
def checkRegion (context : Context) : Except OpenError Context :=
  match context.provider, context.region with
  | .aws, some region =>
    match Ec2.validateRegion region with
    | .ok region => .ok (context.withRegion region)
    | .error e => .error (.region e)
  | _, _ => .ok context

/-- A session for the compute service.  A region of the public cloud must be a known one. -/
def openCompute (context : Context) (transport : Transport) : Except OpenError Session := do
  if context.provider = .cloudStack then throw (.unsupportedProvider context.provider)
  let context ← checkRegion context
  return {
    resolver := Resolver.withService { context } (Ec2.binding context.provider)
    definitions := Ec2.definitions
    main := some { name := Ec2.service }
    link := { transport } }

/-- A session for the query service. -/
def openQuery (context : Context) (transport : Transport) : Session where
  resolver := Resolver.withService { context } CloudStack.binding
  definitions := CloudStack.definitions
  main := some { name := CloudStack.service }
  link := { transport }

/-- A session for services that are registered in order. -/
def openRegistered (context : Context) (bindings : List Binding) (definitions : List Definition)
    (transport : Transport) : Session where
  resolver := bindings.foldl Resolver.withService { context }
  definitions := definitions
  link := { transport }

/-- Add a facade; its index. -/
def addFacade (s : Session) (f : Facade) : Nat × Session :=
  (s.facades.length, { s with facades := s.facades ++ [f] })

/-- Make a facade of a service. -/
def makeFacade (s : Session) (service : String) : Except SetupError Nat × Session :=
  let (answer, resolver) := Facade.make s.resolver service s.definitions
  let s := { s with resolver }
  match answer with
  | .ok f =>
    let (index, s) := s.addFacade f
    (.ok index, s)
  | .error e => (.error e, s)

/-- The facade of the main service, made if it has not been; otherwise a new facade of
`service`. -/
def openFacade (s : Session) (service : String) : Except SetupError Nat × Session :=
  match s.main with
  | none => s.makeFacade service
  | some main =>
    match main.facade with
    -- whichever service is asked for
    | some index => (.ok index, s)
    | none =>
      match s.makeFacade main.name with
      | (.ok index, s) => (.ok index, { s with main := some { main with facade := some index } })
      -- a failure is not kept: the next call tries again
      | (.error e, s) => (.error e, s)

/-- Add the facade of another region to one that has been made. -/
def redirect (s : Session) (f : Facade) (region : String) : Except SetupError Nat × Session :=
  match f.forRegion s.resolver region with
  | .ok g =>
    let (index, s) := s.addFacade g
    (.ok index, s)
  | .error e => (.error e, s)

/-- Replace a facade. -/
def setFacade (s : Session) (index : Nat) (f : Facade) : Session :=
  { s with facades := s.facades.set index f }

end Session

end CloudApi
