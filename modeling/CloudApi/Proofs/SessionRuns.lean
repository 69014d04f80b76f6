import CloudApi.Proofs.FacadeCapabilities
import CloudApi.Proofs.HandlerCache
import CloudApi.Session.Operation
import Mathlib.Logic.Relation

/-!
# Runs of a session

What operations on a session can change, in any order and however many of them. The resolver
grows: it keeps its settings, its services and its handlers. Facades are added, and a facade that
has been made keeps its service, its definitions and its call target; only capabilities are built
in it.

The invariant is `Session.Sound`. `Session.Change` lists all that one operation can do to a
session, so that the invariant is proved case by case without opening the operations again.

## Key results

- `Facade.Sound.capability`: a facade gives the last capability defined under a name, with the
  facade's own call target
- `opens_openFacade`: what opening a facade can come to
- `change_perform`: what one operation can do
- `Change.sound`, `Change.continues`: it keeps the invariant and what has been made
- `Leads.sound`: so do many operations
-/

namespace CloudApi

/-! ### Resolvers that grow -/

namespace Resolver

/-- `r'` is consistent, and it has the settings, the services and the handlers of `r`. -/
structure Grows (r r' : Resolver) : Prop where
  same : r'.cleared = r.cleared
  kept : r.handlers <+: r'.handlers
  consistent : r'.Consistent

variable {r r' : Resolver}

theorem Consistent.grows (hr : r.Consistent) : r.Grows r := ⟨rfl, List.prefix_refl _, hr⟩

theorem Grows.context (g : r.Grows r') : r'.context = r.context := by
  show r'.cleared.context = r.cleared.context
  rw [g.same]

theorem Grows.binding (g : r.Grows r') (service : String) :
    r'.binding service = r.binding service := by
  show r'.cleared.binding service = r.cleared.binding service
  rw [g.same]

theorem Grows.versionOf (g : r.Grows r') (d : Descriptor) : r'.versionOf d = r.versionOf d := by
  show r'.cleared.versionOf d = r.cleared.versionOf d
  rw [g.same]

/-- Whether it fails or not, a resolution lets the resolver grow; a handler that it gives is
kept. -/
private theorem Resolves.grows {anew result : Except SetupError Handler × Resolver}
    (hr : r.Consistent) (resolved : Resolves r anew result) :
    r.Grows result.2 ∧ ∀ h, result.1 = .ok h → h ∈ result.2.handlers := by
  cases resolved with
  | failed e => exact ⟨hr.grows, nofun⟩
  | found h _ _ same kept mem hr' =>
    refine ⟨⟨same, kept, hr'⟩, ?_⟩
    intro k hk
    cases hk
    exact mem

theorem grows_resolve (hr : r.Consistent) (service : String) :
    r.Grows (r.resolve service).2 ∧
      ∀ h, (r.resolve service).1 = .ok h → h ∈ (r.resolve service).2.handlers :=
  (resolve_cases hr service).grows hr

theorem grows_resolveVersion (hr : r.Consistent) (service version : String) :
    r.Grows (r.resolveVersion service version).2 :=
  ((resolveVersion_cases hr service version).grows hr).1

private theorem handler_eq_ok {b : Binding} {version : Version} {h : Handler}
    (found : r.handler b version = (.ok h, r')) :
    h.service = b.descriptor.name ∧ h.version = version := by
  cases found ▸ found_handler r b version with
  | kept _ there => exact (built?_eq_some there).2
  | built _ _ new =>
    have known := build_eq_ok new
    exact ⟨known.1, known.2.1⟩

/-- A service is resolved to a handler for it, at the version of its descriptor's policy. -/
theorem resolve_eq_ok (hr : r.Consistent) {service : String} {h : Handler}
    (resolved : r.resolve service = (.ok h, r')) :
    h.service = service ∧
      ∀ b, r.binding service = .ok b → h.version = r.versionOf b.descriptor := by
  unfold resolve at resolved
  split at resolved
  case h_2 => cases resolved
  next b hb =>
  obtain ⟨hs, hv⟩ := handler_eq_ok resolved
  constructor
  · rw [hs]
    -- a service is registered under its descriptor's name
    unfold binding at hb
    cases hg : r.bindings.get? service with
    | none =>
      rw [hg] at hb
      exact nomatch hb
    | some b' =>
      rw [hg, Except.ok.injEq] at hb
      rw [← hb]
      exact hr.named service b' hg
  · intro b' hb'
    rw [hb, Except.ok.injEq] at hb'
    rw [← hb']
    exact hv

/-- A kept handler speaks the protocol of its service. -/
theorem Consistent.binding_of_mem (hr : r.Consistent) {h : Handler} (mem : h ∈ r.handlers) :
    ∃ b, r.binding h.service = .ok b ∧ h.protocol = b.protocol := by
  obtain ⟨b, hb, built⟩ := hr.current h mem
  refine ⟨b, ?_, (build_eq_ok built).2.2.2⟩
  simp only [binding, hb]

end Resolver

/-! ### Facades -/

namespace Facade

/-- The definition of a capability: the last one of its name. -/
def definition? (f : Facade) (name : String) : Option Definition :=
  f.definitions.reverse.find? (·.name == name)

/-- A facade that resolver `r` has made or redirected: its handler is kept by `r`, for its service
at the version of the policy, and it offers its definitions at its call target. -/
structure Sound (r : Resolver) (f : Facade) : Prop where
  handler : f.target.handler ∈ r.handlers
  service : f.target.handler.service = f.service
  version : ∀ b, r.binding f.service = .ok b →
    f.target.handler.version = r.versionOf b.descriptor
  offers : f.Offers f.service f.definitions

/-- `f'` is `f` with other capabilities built. -/
structure Same (f f' : Facade) : Prop where
  service : f'.service = f.service
  definitions : f'.definitions = f.definitions
  target : f'.target = f.target

theorem Same.refl (f : Facade) : f.Same f := ⟨rfl, rfl, rfl⟩

theorem Same.trans {f g h : Facade} (a : f.Same g) (b : g.Same h) : f.Same h :=
  ⟨b.service.trans a.service, b.definitions.trans a.definitions, b.target.trans a.target⟩

theorem Same.definition? {f f' : Facade} (s : f.Same f') (name : String) :
    f'.definition? name = f.definition? name := by
  simp only [Facade.definition?, s.definitions]

variable {r r' : Resolver} {f : Facade}

theorem sound_assemble {service : String} {definitions : List Definition} {t : CallTarget}
    (handler : t.handler ∈ r.handlers) (hs : t.handler.service = service)
    (version : ∀ b, r.binding service = .ok b → t.handler.version = r.versionOf b.descriptor) :
    (assemble service definitions t).Sound r where
  handler := handler
  service := hs
  version := version
  offers := offers_assemble service definitions t

theorem Sound.of_grows (hf : f.Sound r) (g : r.Grows r') : f.Sound r' where
  handler := g.kept.subset hf.handler
  service := hf.service
  version b hb := by
    rw [g.binding] at hb
    rw [g.versionOf]
    exact hf.version b hb
  offers := hf.offers

/-- The service of a facade is registered, and the facade's handler speaks its protocol. -/
theorem Sound.binding (hf : f.Sound r) (hr : r.Consistent) :
    ∃ b, r.binding f.service = .ok b ∧ f.target.handler.protocol = b.protocol ∧
      f.target.handler.version = r.versionOf b.descriptor := by
  obtain ⟨b, hb, protocol⟩ := hr.binding_of_mem hf.handler
  rw [hf.service] at hb
  exact ⟨b, hb, protocol, hf.version b hb⟩

/-- A facade gives the capability of the last definition of a name, with its own call target,
whether it has been built before or not. It fails, and stays as it is, if there is no such
definition. -/
theorem Sound.capability (hf : f.Sound r) (name : String) :
    (f.definition? name = none ∧ ∃ e, f.capability name = (.error e, f)) ∨
    ∃ d i f', f.definition? name = some d ∧ f.capability name = (.ok i, f') ∧
      i.value = ⟨d, f.target⟩ ∧ f.Same f' ∧ f'.Sound r := by
  rcases hf.offers.capability_cases name with
    ⟨undefined, failed⟩ | ⟨d, i, capabilities, got, last, value, offers⟩
  · have none : f.definition? name = none := by
      simpa [Facade.definition?] using undefined
    exact .inl ⟨none, _, failed⟩
  · exact .inr ⟨d, i, { f with capabilities }, isLast_iff.mp last, got, value, ⟨rfl, rfl, rfl⟩,
      ⟨hf.handler, hf.service, hf.version, offers⟩⟩

end Facade

/-! ### What one operation can do -/

namespace Session

/-- The facade that is kept for the main service goes to its handler's own endpoint. -/
def MainInPlace (s : Session) : Prop :=
  ∀ main index, s.main = some main → main.facade = some index →
    ∃ f, s.facades[index]? = some f ∧ f.target.override = none

/-- The state that a session is in after any operations. -/
structure Sound (s : Session) : Prop where
  resolver : s.resolver.Consistent
  facades : ∀ f ∈ s.facades, f.Sound s.resolver
  main : s.MainInPlace

/-- What one operation can do to a session. -/
inductive Change (s : Session) : Session → Prop where
  /-- Something is sent, or nothing happens. -/
  | sent (link : Link) : Change s { s with link }
  /-- A handler is looked up. -/
  | resolved (resolver : Resolver) (h : s.resolver.Grows resolver) :
    Change s { s with resolver }
  /-- A capability is looked up, and something may be sent. -/
  | built (index : Nat) (f f' : Facade) (link : Link) (h : s.facades[index]? = some f)
    (same : f.Same f') (sound : f'.Sound s.resolver) :
    Change s { s.setFacade index f' with link }
  /-- A facade is made, and may be kept for the main service. -/
  | made (f : Facade) (resolver : Resolver) (main : Option MainService)
    (h : s.resolver.Grows resolver) (sound : f.Sound resolver) (own : f.target.override = none)
    (keep : main = s.main ∨
      main = s.main.map fun m => { m with facade := some s.facades.length }) :
    Change s { s with resolver, main, facades := s.facades ++ [f] }
  /-- A facade is redirected. -/
  | redirected (f : Facade) (sound : f.Sound s.resolver) :
    Change s { s with facades := s.facades ++ [f] }

/-- `s'` has kept what `s` had. -/
structure Continues (s s' : Session) : Prop where
  resolver : s.resolver.Grows s'.resolver
  facades : ∀ (index : Nat) (f : Facade), s.facades[index]? = some f →
    ∃ f', s'.facades[index]? = some f' ∧ f.Same f'

theorem Change.refl (s : Session) : s.Change s := .sent s.link

theorem Sound.continues {s : Session} (hs : s.Sound) : s.Continues s :=
  ⟨hs.resolver.grows, fun _ f hf => ⟨f, hf, .refl f⟩⟩

theorem Continues.trans {s t u : Session} (a : s.Continues t) (b : t.Continues u) :
    s.Continues u where
  resolver :=
    ⟨b.resolver.same.trans a.resolver.same, a.resolver.kept.trans b.resolver.kept,
      b.resolver.consistent⟩
  facades index f hf := by
    obtain ⟨g, hg, fg⟩ := a.facades index f hf
    obtain ⟨h, hh, gh⟩ := b.facades index g hg
    exact ⟨h, hh, fg.trans gh⟩

variable {s s' : Session}

/-- Facades that are added come after those that have been made. -/
private theorem kept_append {fs : List Facade} (f : Facade) (index : Nat) (g : Facade)
    (hg : fs[index]? = some g) : ∃ g', (fs ++ [f])[index]? = some g' ∧ g.Same g' :=
  ⟨g, List.getElem?_append_left (List.getElem?_eq_some_iff.mp hg).1 ▸ hg, .refl g⟩

theorem Change.continues (hs : s.Sound) (h : s.Change s') : s.Continues s' := by
  cases h with
  | sent link => exact ⟨hs.resolver.grows, fun _ f hf => ⟨f, hf, .refl f⟩⟩
  | resolved resolver g => exact ⟨g, fun _ f hf => ⟨f, hf, .refl f⟩⟩
  | built index f f' link hf same sound =>
    refine ⟨hs.resolver.grows, fun i g hg => ?_⟩
    show ∃ g', (s.facades.set index f')[i]? = some g' ∧ g.Same g'
    -- the facade in its place has been replaced by one that differs in what is built
    by_cases hi : index = i
    · subst hi
      rw [hf, Option.some.injEq] at hg
      subst hg
      exact ⟨f', List.getElem?_set_self (List.getElem?_eq_some_iff.mp hf).1, same⟩
    · exact ⟨g, (List.getElem?_set_ne hi).trans hg, .refl g⟩
  | made f resolver main g sound own keep => exact ⟨g, kept_append f⟩
  | redirected f sound => exact ⟨hs.resolver.grows, kept_append f⟩

/-- What is kept for the main service stays in its place. -/
private theorem MainInPlace.of_continues (hm : s.MainInPlace) (h : s.Continues s')
    (main : s'.main = s.main) : s'.MainInPlace := by
  intro m index hmain hindex
  obtain ⟨f, hf, own⟩ := hm m index (main ▸ hmain) hindex
  obtain ⟨f', hf', same⟩ := h.facades index f hf
  exact ⟨f', hf', same.target ▸ own⟩

theorem Change.sound (hs : s.Sound) (h : s.Change s') : s'.Sound := by
  have kept := h.continues hs
  cases h with
  | sent link => exact ⟨hs.resolver, hs.facades, hs.main⟩
  | resolved resolver g =>
    exact ⟨g.consistent, fun f hf => (hs.facades f hf).of_grows g, hs.main⟩
  | built index f f' link hf same sound =>
    refine ⟨hs.resolver, fun g hg => ?_, hs.main.of_continues kept rfl⟩
    rcases List.mem_or_eq_of_mem_set hg with hg | rfl
    · exact hs.facades g hg
    · exact sound
  | redirected f sound =>
    refine ⟨hs.resolver, fun g hg => ?_, hs.main.of_continues kept rfl⟩
    rcases List.mem_append.mp hg with hg | hg
    · exact hs.facades g hg
    · exact List.mem_singleton.mp hg ▸ sound
  | made f resolver main g sound own keep =>
    refine ⟨g.consistent, fun k hk => ?_, ?_⟩
    · rcases List.mem_append.mp hk with hk | hk
      · exact (hs.facades k hk).of_grows g
      · exact List.mem_singleton.mp hk ▸ sound
    · rcases keep with keep | keep
      · exact hs.main.of_continues kept keep
      · -- the main service's facade is the one that has just been made
        intro m index hmain hindex
        obtain ⟨m', _, rfl⟩ := Option.map_eq_some_iff.mp (keep.symm.trans hmain)
        obtain rfl := Option.some.inj hindex
        exact ⟨f, List.getElem?_concat_length, own⟩

/-! ### Operations

Each operation is one of the changes above. -/

/-- A facade is made of a handler of its service, with the handler's own endpoint. -/
theorem sound_make {r r' : Resolver} (hr : r.Consistent) {service : String}
    {definitions : List Definition} {f : Facade}
    (h : Facade.make r service definitions = (.ok f, r')) :
    r.Grows r' ∧ f.Sound r' ∧ f.target.override = none := by
  cases Facade.make_eq_iff.mp h with
  | made registered declared resolved =>
    obtain ⟨g, kept⟩ := Resolver.grows_resolve hr service
    obtain ⟨hs, version⟩ := Resolver.resolve_eq_ok hr resolved
    rw [resolved] at g kept
    -- the resolver has kept the handler
    have mem := kept _ rfl
    refine ⟨g, Facade.sound_assemble mem hs fun b hb => ?_, rfl⟩
    rw [g.binding] at hb
    rw [g.versionOf]
    exact version b hb

/-- Where no facade can be made, the resolver may still grow. -/
theorem grows_make {r r' : Resolver} (hr : r.Consistent) {service : String}
    {definitions : List Definition} {e : SetupError}
    (h : Facade.make r service definitions = (.error e, r')) : r.Grows r' := by
  cases Facade.make_eq_iff.mp h with
  | unregistered => exact hr.grows
  | undeclared => exact hr.grows
  | unresolved registered declared failed =>
    have grown := (Resolver.grows_resolve hr service).1
    rw [failed] at grown
    exact grown

/-- A facade is redirected by another endpoint on the same handler. -/
theorem sound_forRegion {r : Resolver} {f g : Facade} {region : String} (hf : f.Sound r)
    (h : f.forRegion r region = .ok g) : g.Sound r := by
  obtain ⟨endpoint, rfl⟩ := Facade.redirected_eq h
  exact Facade.sound_assemble hf.handler hf.service hf.version

/-- Showing what a step has come to changes nothing. -/
theorem facadeOutcome_snd (result : Except SetupError Nat × Session) :
    (facadeOutcome result).2 = result.2 := by
  obtain ⟨e | index, s⟩ := result
  · rfl
  · unfold facadeOutcome
    dsimp only
    split <;> rfl

/-- What opening a facade can come to. -/
inductive Opens (s : Session) : Except SetupError Nat × Session → Prop where
  /-- It is the one that is kept for the main service. -/
  | kept (main : MainService) (index : Nat) (hm : s.main = some main)
    (hk : main.facade = some index) : Opens s (.ok index, s)
  /-- It is a new one, which is kept if there is a main service. -/
  | made (service : String) (f : Facade) (resolver : Resolver) (main : Option MainService)
    (made : Facade.make s.resolver service s.definitions = (.ok f, resolver))
    (keep : main = s.main ∨
      main = s.main.map fun m => { m with facade := some s.facades.length }) :
    Opens s (.ok s.facades.length, { s with resolver, main, facades := s.facades ++ [f] })
  /-- None can be made. -/
  | failed (service : String) (e : SetupError) (resolver : Resolver)
    (failed : Facade.make s.resolver service s.definitions = (.error e, resolver)) :
    Opens s (.error e, { s with resolver })

theorem opens_openFacade (s : Session) (service : String) : s.Opens (s.openFacade service) := by
  unfold openFacade
  cases hm : s.main with
  | none =>
    unfold makeFacade
    rcases made : Facade.make s.resolver service s.definitions with ⟨e | f, resolver⟩
    · exact .failed service e resolver made
    · exact .made service f resolver s.main made (.inl rfl)
  | some main =>
    -- one that is kept is given again
    cases hk : main.facade with
    | some index =>
      simp only [hk]
      exact .kept main index hm hk
    | none =>
      simp only [hk, makeFacade]
      rcases made : Facade.make s.resolver main.name s.definitions with ⟨e | f, resolver⟩
      · exact .failed main.name e resolver made
      · exact .made main.name f resolver _ made (.inr (by rw [hm]; rfl))

theorem Opens.change (hs : s.Sound) {result : Except SetupError Nat × Session}
    (h : s.Opens result) : s.Change result.2 := by
  cases h with
  | kept => exact .refl s
  | made service f resolver main made keep =>
    obtain ⟨g, sound, own⟩ := sound_make hs.resolver made
    exact .made f resolver main g sound own keep
  | failed service e resolver failed => exact .resolved resolver (grows_make hs.resolver failed)

/-- A capability's requests change nothing but the link. -/
private theorem exists_link_performCapability (s : Session) (i : Instance Capability)
    (request : CapabilityRequest) :
    ∃ link, (s.performCapability i request).2 = { s with link } := by
  cases request with
  | describe q => exact ⟨_, rfl⟩
  | describeLoose ids filters => exact ⟨_, rfl⟩
  | _ => exact ⟨s.link, rfl⟩

private theorem change_performFacade (hs : s.Sound) {index : Nat} {f : Facade}
    (hf : s.facades[index]? = some f) (request : FacadeRequest) :
    s.Change (s.performFacade index f request).2 := by
  have sound := hs.facades f (List.mem_of_getElem? hf)
  cases request with
  | forRegion region =>
    -- a region without an endpoint adds no facade
    rw [performFacade, facadeOutcome_snd, redirect]
    cases redirected : f.forRegion s.resolver region with
    | error e => exact .refl s
    | ok g => exact .redirected g (sound_forRegion sound redirected)
  | capability name request =>
    -- the lookup may build something, and the request may send something
    obtain ⟨_, e, missing⟩ | ⟨d, i, f', _, found, _, same, sound'⟩ := sound.capability name
    · simp only [performFacade, missing]
      exact .built index f f s.link hf (.refl f) sound
    · obtain ⟨link, h⟩ := exists_link_performCapability (s.setFacade index f') i request
      simp only [performFacade, found, h]
      exact .built index f f' link hf same sound'
  | describeAccountAttributes names =>
    cases ha : Ec2.accountAttributes names with
    | error e =>
      simp only [performFacade, ha]
      exact .refl s
    | ok e =>
      simp only [performFacade, ha]
      exact .sent _
  | call e => exact .sent _
  | describeRegions => exact .sent _
  | listZones => exact .sent _
  | listAccounts domain => exact .sent _
  | names => exact .refl s
  | target => exact .refl s
  | prepare e => exact .refl s
  | accountAttributes names => exact .refl s

private theorem change_handlerOutcome {result : Except SetupError Handler × Resolver}
    (h : s.resolver.Grows result.2) : s.Change (s.handlerOutcome result).2 := by
  obtain ⟨e | k, resolver⟩ := result
  · exact .resolved resolver h
  · exact .resolved resolver h

/-- What an operation can do to a session. -/
theorem change_perform (hs : s.Sound) (o : Operation) : s.Change (s.perform o).2 := by
  cases o with
  | binding service => exact .refl s
  | endpoint service region => exact .refl s
  | resolve service =>
    exact change_handlerOutcome (Resolver.grows_resolve hs.resolver service).1
  | resolveVersion service version =>
    exact change_handlerOutcome (Resolver.grows_resolveVersion hs.resolver service version)
  | openFacade service =>
    rw [perform, facadeOutcome_snd]
    exact (opens_openFacade s service).change hs
  | facade index request =>
    cases hf : s.facades[index]? with
    | some f =>
      simp only [perform, hf]
      exact change_performFacade hs hf request
    | none =>
      simp only [perform, hf]
      exact .refl s

/-! ### Many operations -/

/-- One step of a session: an operation, or that the facades made from now on have other
capabilities. -/
inductive Step (s : Session) : Session → Prop where
  | perform (o : Operation) : Step s (s.perform o).2
  | define (definitions : List Definition) : Step s { s with definitions }

/-- `s'` can be reached from `s` by some steps. -/
def Leads : Session → Session → Prop := Relation.ReflTransGen Step

theorem Step.sound (hs : s.Sound) (h : s.Step s') : s'.Sound ∧ s.Continues s' := by
  cases h with
  | perform o =>
    have change := change_perform hs o
    exact ⟨change.sound hs, change.continues hs⟩
  | define definitions =>
    exact ⟨⟨hs.resolver, hs.facades, hs.main⟩, ⟨hs.resolver.grows, hs.continues.facades⟩⟩

/-- The invariant holds after any steps, and what has been made is kept. -/
theorem Leads.sound (hs : s.Sound) (h : s.Leads s') : s'.Sound ∧ s.Continues s' := by
  induction h with
  | refl => exact ⟨hs, hs.continues⟩
  | tail _ step ih =>
    obtain ⟨sound, continues⟩ := ih
    obtain ⟨sound', continues'⟩ := step.sound sound
    exact ⟨sound', continues.trans continues'⟩

/-- Operations in order are steps. -/
theorem leads_run (s : Session) (operations : List Operation) :
    s.Leads (s.run operations).2 := by
  induction operations generalizing s with
  | nil => exact .refl
  | cons o rest ih => exact .head (.perform o) (ih (s.perform o).2)

/-! ### Sessions that have just been opened -/

/-- A session that has just been opened. -/
inductive Opened : Session → Prop where
  | compute {context : Context} {transport : Transport} {s : Session}
    (h : openCompute context transport = .ok s) : Opened s
  | query (context : Context) (transport : Transport) : Opened (openQuery context transport)
  | registered (context : Context) (bindings : List Binding) (definitions : List Definition)
    (transport : Transport) : Opened (openRegistered context bindings definitions transport)

private theorem sound_of_new (context : Context) (bindings : List Binding)
    (resolver : s.resolver = .ofBindings context bindings) (facades : s.facades = [])
    (main : ∀ m, s.main = some m → m.facade = none) : s.Sound where
  resolver := resolver ▸ Resolver.consistent_ofBindings context bindings
  facades := by simp [facades]
  main := by
    intro m index hm hindex
    -- nothing is kept yet
    rw [main m hm] at hindex
    exact nomatch hindex

theorem Opened.sound (h : s.Opened) : s.Sound := by
  cases h with
  | @compute context transport _ h =>
    unfold openCompute at h
    split at h
    · exact nomatch h
    · obtain ⟨checked, _, h⟩ := bind_eq_ok.mp h
      cases h
      refine sound_of_new checked [Ec2.binding checked.provider] rfl rfl ?_
      intro m hm
      rw [← Option.some.inj hm]
  | query context transport =>
    refine sound_of_new context [CloudStack.binding] rfl rfl ?_
    intro m hm
    rw [← Option.some.inj hm]
  | registered context bindings definitions transport =>
    exact sound_of_new context bindings rfl rfl fun m hm => nomatch hm

end Session

end CloudApi
