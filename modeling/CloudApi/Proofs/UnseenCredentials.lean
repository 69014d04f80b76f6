import CloudApi.Proofs.Sending
import CloudApi.Proofs.SessionRuns

/-!
# Credentials are not seen

A session keeps its settings in its resolver, and reads nothing but the provider, the region and
the addresses of services off them. So other settings that agree in these may be put in their
place, before or after anything that is done with the session: this file shows that doing so
commutes with every step, and that opening a session commutes with it too.

## Key results

- `Resolver.handler_withContext`, `Facade.make_withContext`: what is resolved and made is the same
- `Session.perform_withContext`: so is the outcome of an operation
- `Session.actAll_withContext`: and so are those of all that is done with a session
- `Opening.session_cases`: sessions for such settings are opened alike
- `credentials_are_not_seen`: what can be seen of a session does not depend on credentials
-/

namespace CloudApi

/-- The settings differ from each other in nothing but the credentials. -/
structure Context.Alike (c c' : Context) : Prop where
  provider : c'.provider = c.provider
  region : c'.region = c.region
  url : ∀ service, c'.url? service = c.url? service

/-! ### Resolvers -/

namespace Resolver

/-- The resolver with other settings. -/
def withContext (c : Context) (r : Resolver) : Resolver := { r with context := c }

variable {r : Resolver} {c : Context}

/-- An endpoint is found by the provider, the region and the addresses. -/
theorem endpoint_withContext (h : r.context.Alike c) (d : Descriptor) (region : Option String) :
    (r.withContext c).endpoint d region = r.endpoint d region := by
  cases region with
  | some region => rfl
  | none =>
    unfold endpoint withContext
    dsimp only
    rw [h.provider, h.region, h.url]

theorem versionOf_withContext (h : r.context.Alike c) (d : Descriptor) :
    (r.withContext c).versionOf d = r.versionOf d :=
  congrArg d.versionFor h.provider

theorem build_withContext (h : r.context.Alike c) (b : Binding) (version : Version) :
    (r.withContext c).build b version = r.build b version := by
  unfold build
  rw [endpoint_withContext h]
  rfl

/-- The same handler is found or built, and kept beside the other settings. -/
theorem handler_withContext (h : r.context.Alike c) (b : Binding) (version : Version) :
    (r.withContext c).handler b version =
      Prod.map id (withContext c) (r.handler b version) := by
  have kept : (r.withContext c).built? b.descriptor.name version =
      r.built? b.descriptor.name version := rfl
  unfold handler
  rw [kept, build_withContext h]
  cases r.built? b.descriptor.name version with
  | some k => rfl
  | none => cases r.build b version <;> rfl

theorem resolve_withContext (h : r.context.Alike c) (service : String) :
    (r.withContext c).resolve service =
      Prod.map id (withContext c) (r.resolve service) := by
  have found : (r.withContext c).binding service = r.binding service := rfl
  unfold resolve
  rw [found]
  cases r.binding service with
  | error e => rfl
  | ok b =>
    dsimp only
    rw [versionOf_withContext h]
    exact handler_withContext h b _

theorem resolveVersion_withContext (h : r.context.Alike c) (service version : String) :
    (r.withContext c).resolveVersion service version =
      Prod.map id (withContext c) (r.resolveVersion service version) := by
  have found : (r.withContext c).binding service = r.binding service := rfl
  unfold resolveVersion
  rw [found]
  cases r.binding service with
  | error e => rfl
  | ok b =>
    dsimp only
    cases b.descriptor.versions.find? (·.text == version) with
    | none => rfl
    | some v => exact handler_withContext h b v

end Resolver

/-! ### Facades -/

namespace Facade

variable {r : Resolver} {c : Context}

theorem make_withContext (h : r.context.Alike c) (service : String)
    (definitions : List Definition) :
    make (r.withContext c) service definitions =
      Prod.map id (Resolver.withContext c) (make r service definitions) := by
  have found : (r.withContext c).binding service = r.binding service := rfl
  unfold make
  rw [found]
  cases r.binding service with
  | error e => rfl
  | ok b =>
    dsimp only
    cases definitions.find? (!b.descriptor.hasCapability ·.name) with
    | some d => rfl
    | none =>
      dsimp only
      -- only now are the settings looked at
      rw [Resolver.resolve_withContext h]
      rfl

theorem forRegion_withContext (h : r.context.Alike c) (f : Facade) (region : String) :
    f.forRegion (r.withContext c) region = f.forRegion r region := by
  have found : (r.withContext c).binding f.service = r.binding f.service := rfl
  unfold forRegion
  rw [found]
  cases r.binding f.service with
  | error e => rfl
  | ok b =>
    dsimp only [bind, Except.bind]
    rw [Resolver.endpoint_withContext h]

end Facade

/-! ### Operations -/

namespace Session

/-- The session with other settings. -/
def withContext (c : Context) (s : Session) : Session :=
  { s with resolver := s.resolver.withContext c }

variable {s : Session} {c : Context}

private theorem makeFacade_withContext (h : s.resolver.context.Alike c) (service : String) :
    (s.withContext c).makeFacade service =
      Prod.map id (withContext c) (s.makeFacade service) := by
  have made : Facade.make (s.withContext c).resolver service (s.withContext c).definitions =
      Prod.map id (Resolver.withContext c) (Facade.make s.resolver service s.definitions) :=
    Facade.make_withContext h service s.definitions
  unfold makeFacade
  rw [made]
  obtain ⟨e | f, resolver⟩ := Facade.make s.resolver service s.definitions <;> rfl

private theorem openFacade_withContext (h : s.resolver.context.Alike c) (service : String) :
    (s.withContext c).openFacade service =
      Prod.map id (withContext c) (s.openFacade service) := by
  have main : (s.withContext c).main = s.main := rfl
  unfold openFacade
  rw [main]
  cases s.main with
  | none => exact makeFacade_withContext h service
  | some m =>
    dsimp only
    cases m.facade with
    | some index => rfl
    | none =>
      -- the facade that is made now is kept, whatever the settings
      dsimp only
      rw [makeFacade_withContext h]
      obtain ⟨e | index, s'⟩ := s.makeFacade m.name <;> rfl

private theorem redirect_withContext (h : s.resolver.context.Alike c) (f : Facade)
    (region : String) :
    (s.withContext c).redirect f region =
      Prod.map id (withContext c) (s.redirect f region) := by
  have redirected : f.forRegion (s.withContext c).resolver region = f.forRegion s.resolver region :=
    Facade.forRegion_withContext h f region
  unfold redirect
  rw [redirected]
  cases f.forRegion s.resolver region <;> rfl

/-- The facade that is the outcome is found by its index, which is the same. -/
private theorem facadeOutcome_withContext (c : Context)
    (result : Except SetupError Nat × Session) :
    facadeOutcome (Prod.map id (withContext c) result) =
      Prod.map id (withContext c) (facadeOutcome result) := by
  obtain ⟨e | index, s⟩ := result
  · rfl
  · have facades : (s.withContext c).facades = s.facades := rfl
    simp only [facadeOutcome, Prod.map, id_eq, facades]
    cases s.facades[index]? <;> rfl

private theorem handlerOutcome_withContext (s : Session) (c : Context)
    (result : Except SetupError Handler × Resolver) :
    (s.withContext c).handlerOutcome (Prod.map id (Resolver.withContext c) result) =
      Prod.map id (withContext c) (s.handlerOutcome result) := by
  obtain ⟨e | h, resolver⟩ := result <;> rfl

/-- A capability has a call target of its own, and reads no settings. -/
private theorem performCapability_withContext (s : Session) (c : Context)
    (i : Instance Capability) (request : CapabilityRequest) :
    (s.withContext c).performCapability i request =
      Prod.map id (withContext c) (s.performCapability i request) := by
  cases request <;> rfl

private theorem performFacade_withContext (h : s.resolver.context.Alike c) (index : Nat)
    (f : Facade) (request : FacadeRequest) :
    (s.withContext c).performFacade index f request =
      Prod.map id (withContext c) (s.performFacade index f request) := by
  cases request with
  | forRegion region =>
    rw [performFacade, redirect_withContext h, facadeOutcome_withContext, performFacade]
  | capability name request =>
    simp only [performFacade]
    obtain ⟨e | i, f'⟩ := f.capability name
    · rfl
    · exact performCapability_withContext (s.setFacade index f') c i request
  | describeAccountAttributes names =>
    simp only [performFacade]
    cases Ec2.accountAttributes names <;> rfl
  | _ => rfl

/-- The outcome of an operation does not depend on what the settings differ in, and the session
after it is the same but for the settings. -/
theorem perform_withContext (h : s.resolver.context.Alike c) (o : Operation) :
    (s.withContext c).perform o = Prod.map id (withContext c) (s.perform o) := by
  cases o with
  | binding service => rfl
  | resolve service =>
    show (s.withContext c).handlerOutcome ((s.resolver.withContext c).resolve service) = _
    rw [Resolver.resolve_withContext h, handlerOutcome_withContext]
    rfl
  | resolveVersion service version =>
    show (s.withContext c).handlerOutcome
      ((s.resolver.withContext c).resolveVersion service version) = _
    rw [Resolver.resolveVersion_withContext h, handlerOutcome_withContext]
    rfl
  | endpoint service region =>
    have located (b : Binding) : (s.withContext c).resolver.endpoint b.descriptor region =
        s.resolver.endpoint b.descriptor region := Resolver.endpoint_withContext h _ _
    simp only [perform, located]
    rfl
  | openFacade service =>
    rw [perform, openFacade_withContext h, facadeOutcome_withContext, perform]
  | facade index request =>
    have facades : (s.withContext c).facades = s.facades := rfl
    simp only [perform, facades]
    cases s.facades[index]? with
    | none => rfl
    | some f => exact performFacade_withContext h index f request

/-! ### All that is done with a session -/

/-- What is done with a session: one of its operations, or that a facade of any of its services is
made, with any capabilities. -/
inductive Action where
  | operation (o : Operation)
  | makeFacade (service : String) (definitions : List Definition)

/-- Do something. -/
def act (s : Session) : Action → Outcome × Session
  | .operation o => s.perform o
  | .makeFacade service definitions =>
    match Facade.make s.resolver service definitions with
    | (.ok f, resolver) =>
      (.facade s.facades.length f, { s with resolver, facades := s.facades ++ [f] })
    | (.error e, resolver) => (.failedSetup e, { s with resolver })

/-- Do several things in order. -/
def actAll (s : Session) : List Action → List Outcome × Session
  | [] => ([], s)
  | a :: rest =>
    let (outcome, s) := s.act a
    let (outcomes, s) := s.actAll rest
    (outcome :: outcomes, s)

private theorem change_act (hs : s.Sound) (a : Action) : s.Change (s.act a).2 := by
  cases a with
  | operation o => exact change_perform hs o
  | makeFacade service definitions =>
    rcases made : Facade.make s.resolver service definitions with ⟨e | f, resolver⟩
    · simp only [act, made]
      exact .resolved resolver (grows_make hs.resolver made)
    · obtain ⟨g, sound, own⟩ := sound_make hs.resolver made
      simp only [act, made]
      exact .made f resolver s.main g sound own (.inl rfl)

private theorem act_withContext (h : s.resolver.context.Alike c) (a : Action) :
    (s.withContext c).act a = Prod.map id (withContext c) (s.act a) := by
  cases a with
  | operation o => exact perform_withContext h o
  | makeFacade service definitions =>
    have made : Facade.make (s.withContext c).resolver service definitions =
        Prod.map id (Resolver.withContext c) (Facade.make s.resolver service definitions) :=
      Facade.make_withContext h service definitions
    simp only [act, made]
    obtain ⟨e | f, resolver⟩ := Facade.make s.resolver service definitions <;> rfl

/-- The outcomes of all that is done do not depend on what the settings differ in. The settings
stay as they are, so they differ in no more after each step. -/
theorem actAll_withContext (hs : s.Sound) (h : s.resolver.context.Alike c)
    (actions : List Action) :
    (s.withContext c).actAll actions = Prod.map id (withContext c) (s.actAll actions) ∧
    (s.actAll actions).2.resolver.context = s.resolver.context := by
  induction actions generalizing s with
  | nil => exact ⟨rfl, rfl⟩
  | cons a rest ih =>
    -- the settings stay as they are, so they still differ in the credentials alone
    have change := change_act hs a
    have same : (s.act a).2.resolver.context = s.resolver.context :=
      (change.continues hs).resolver.context
    obtain ⟨others, kept⟩ := ih (change.sound hs) (same.symm ▸ h)
    refine ⟨?_, kept.trans same⟩
    simp only [actAll, act_withContext h a, Prod.map, others]
    rfl

end Session

/-! ### Openings -/

/-- How a session is opened: for the compute service, for the query service, or for services that
are registered in order. -/
inductive Opening where
  | compute
  | query
  | registered (bindings : List Binding) (definitions : List Definition)

namespace Opening

open Session

/-- Open a session. -/
def session (o : Opening) (context : Context) (transport : Transport) :
    Except OpenError Session :=
  match o with
  | .compute => openCompute context transport
  | .query => .ok (openQuery context transport)
  | .registered bindings definitions =>
    .ok (openRegistered context bindings definitions transport)

/-- Open a session and do something with it. -/
def run (o : Opening) (context : Context) (transport : Transport) (actions : List Action) :
    Except OpenError (List Outcome × Session) :=
  (o.session context transport).map (·.actAll actions)

theorem opened {o : Opening} {context : Context} {transport : Transport} {s : Session}
    (h : o.session context transport = .ok s) : s.Opened := by
  cases o with
  | compute => exact .compute h
  | query => exact Except.ok.inj h ▸ .query context transport
  | registered bindings definitions =>
    exact Except.ok.inj h ▸ .registered context bindings definitions transport

variable {c c' : Context}

/-- The region is judged alike, and put into its usual spelling. -/
private theorem checkRegion_cases (h : c.Alike c') :
    (∃ e, checkRegion c = .error e ∧ checkRegion c' = .error e) ∨
    ∃ d d', checkRegion c = .ok d ∧ checkRegion c' = .ok d' ∧ d.Alike d' := by
  unfold checkRegion
  rw [h.provider, h.region]
  split
  · next region _ _ =>
    cases Ec2.validateRegion region with
    | error e => exact .inl ⟨_, rfl, rfl⟩
    | ok region => exact .inr ⟨_, _, rfl, rfl, ⟨h.provider, rfl, h.url⟩⟩
  · exact .inr ⟨c, c', rfl, rfl, h⟩

/-- Services are registered whatever the settings. -/
private theorem foldl_withService (r : Resolver) (d : Context) (bindings : List Binding) :
    bindings.foldl Resolver.withService (r.withContext d) =
      (bindings.foldl Resolver.withService r).withContext d := by
  induction bindings generalizing r with
  | nil => rfl
  | cons b rest ih => exact ih (r.withService b)

private theorem context_foldl_withService (r : Resolver) (bindings : List Binding) :
    (bindings.foldl Resolver.withService r).context = r.context := by
  induction bindings generalizing r with
  | nil => rfl
  | cons b rest ih => exact ih (r.withService b)

/-- Sessions for settings that differ in the credentials alone are opened alike: both fail with one
error, or they are the same but for such settings. -/
theorem session_cases (h : c.Alike c') (o : Opening) (transport : Transport) :
    (∃ e, o.session c transport = .error e ∧ o.session c' transport = .error e) ∨
    ∃ s d, o.session c transport = .ok s ∧ o.session c' transport = .ok (s.withContext d) ∧
      s.resolver.context.Alike d := by
  cases o with
  | query => exact .inr ⟨_, c', rfl, rfl, h⟩
  | registered bindings definitions =>
    -- registering a service does not look at the settings
    refine .inr ⟨_, c', rfl, ?_, ?_⟩
    · have registered := foldl_withService { context := c } c' bindings
      simp only [session, openRegistered, Session.withContext, ← registered]
      rfl
    · show (bindings.foldl Resolver.withService { context := c }).context.Alike c'
      rw [context_foldl_withService]
      exact h
  | compute =>
    simp only [session, openCompute, h.provider]
    split
    · exact .inl ⟨_, rfl, rfl⟩
    · -- the region is judged first, and alike
      obtain ⟨e, he, he'⟩ | ⟨d, d', hd, hd', alike⟩ := checkRegion_cases h
      · rw [he, he']
        exact .inl ⟨_, rfl, rfl⟩
      · rw [hd, hd']
        refine .inr ⟨_, d', rfl, ?_, alike⟩
        dsimp only [bind, Except.bind]
        rw [alike.provider]
        rfl

end Opening

/-! ### What is seen -/

/-- What can be seen of a session after all that has been done with it: the outcomes, the requests
that have been sent, and the settings apart from the credentials. -/
structure Seen where
  outcomes : List Outcome
  sent : List Prepared
  provider : Provider
  region : Option String
  url? : String → Option String

/-- What is seen of outcomes and the session after them. -/
def Seen.of (result : List Outcome × Session) : Seen where
  outcomes := result.1
  sent := result.2.link.sent
  provider := result.2.resolver.context.provider
  region := result.2.resolver.context.region
  url? := result.2.resolver.context.url?

/-- Settings that differ in the credentials alone look the same. -/
theorem Seen.of_withContext {outcomes : List Outcome} {s : Session} {c : Context}
    (h : s.resolver.context.Alike c) :
    Seen.of (outcomes, s.withContext c) = Seen.of (outcomes, s) := by
  have urls : c.url? = s.resolver.context.url? := funext h.url
  simp only [Seen.of, Session.withContext, Resolver.withContext, h.provider, h.region, urls]

/-- Let the settings of two sessions differ in nothing but the credentials, and the two be opened
and used in the same way, over the same transport. Then they fail to open with the same error, or
everything done with them has the same outcomes and sends the same requests. Nor does the
description of credentials depend on the secret key. -/
theorem credentials_are_not_seen :
    (∀ (c c' : Context), c.Alike c' →
      ∀ (o : Opening) (transport : Transport) (actions : List Session.Action),
        (o.run c' transport actions).map Seen.of = (o.run c transport actions).map Seen.of) ∧
    ∀ k k' : Credentials, k.accessKey = k'.accessKey → k.describe = k'.describe := by
  constructor
  · intro c c' h o transport actions
    unfold Opening.run
    -- the two fail alike, or they are opened alike and then used alike
    obtain ⟨e, failed, failed'⟩ | ⟨s, d, opened, opened', alike⟩ :=
      Opening.session_cases h o transport
    · rw [failed, failed']
    · have sound := (Opening.opened opened).sound
      obtain ⟨same, kept⟩ := Session.actAll_withContext sound alike actions
      have after : (s.actAll actions).2.resolver.context.Alike d := kept.symm ▸ alike
      rw [opened, opened']
      simp only [Except.map, same]
      exact congrArg Except.ok (Seen.of_withContext after)
  · intro k k' same
    unfold Credentials.describe
    rw [same]

/-! A session of the compute service, with two pairs of keys and without any, that describes
regions from another region than its own. -/

private def regionalSettings (keys : Option Credentials) : Context :=
  { Context.ofRegion "us_east_1" with credentials := keys }

private def elsewhere : List Session.Action :=
  [.operation (.openFacade "ec2"), .operation (.facade 0 (.forRegion "cn-north-1")),
   .makeFacade "ec2" [{ name := "tag", command := "DescribeTags" }],
   .operation (.facade 1 .describeRegions)]

theorem regions_are_described_with_any_keys :
    (Opening.compute.run (regionalSettings none) .unreached elsewhere).map
        (fun result => (Seen.of result).sent.map (·.url)) =
      .ok ["https://ec2.cn-north-1.amazonaws.com.cn/"] ∧
    (∀ k : Credentials,
      (Opening.compute.run (regionalSettings (some k)) .unreached elsewhere).map Seen.of =
        (Opening.compute.run (regionalSettings none) .unreached elsewhere).map Seen.of) ∧
    Credentials.describe ⟨"AKIDEXAMPLE", "s3cr3t"⟩ = Credentials.describe ⟨"AKIDEXAMPLE", ""⟩ := by
  refine ⟨?_, fun k => ?_, ?_⟩
  · rfl
  · have alike : (regionalSettings none).Alike (regionalSettings (some k)) :=
      ⟨rfl, rfl, fun _ => rfl⟩
    exact credentials_are_not_seen.1 _ _ alike .compute .unreached elsewhere
  · exact credentials_are_not_seen.2 ⟨"AKIDEXAMPLE", "s3cr3t"⟩ ⟨"AKIDEXAMPLE", ""⟩ rfl

end CloudApi
