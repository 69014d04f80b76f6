import CloudApi.Ec2.Service
import CloudApi.Facade
import CloudApi.Proofs.Results

/-!
# The handler cache

A resolver keeps every handler that it has built and looks there before it checks anything. This
file shows that the cache cannot be seen: apart from which object it is, each answer is the one
that a resolver with an empty cache would give, errors included.

The invariant is `Resolver.Consistent`: each kept handler is what building it anew would come to,
the handlers are numbered as they stand, and no two are for the same service and version.
`Resolving.State` is a resolver with the facades that have been made with it.

## Key results

- `found_handler`: what looking a handler up can come to
- `handler_cases`: it is what building the handler anew would come to
- `Consistent.serial_eq_iff`: two kept handlers are one exactly if they are for the same service
  and version
- `settles_perform`, `valid_run`: the invariant holds after every call, and so after every run
- `run_resolves_as_if_anew`: answers do not depend on the cache, and the cache only grows
-/

namespace CloudApi

/-! ### Handlers apart from their identity -/

/-- The handler apart from which object it is. -/
def Handler.anonymous (h : Handler) : Handler := { h with serial := 0 }

/-- The call target with its handler apart from which object it is. -/
def CallTarget.anonymous (t : CallTarget) : CallTarget :=
  { t with handler := t.handler.anonymous }

/-- The capability with its handler apart from which object it is. -/
def Capability.anonymous (c : Capability) : Capability := { c with target := c.target.anonymous }

/-- The constructor of the images of what a constructor builds. -/
def Constructor.map {σ α β : Type} (f : α → β) (c : Constructor σ α) : Constructor σ β :=
  fun s => (f (c s).1, (c s).2)

/-- The registry of the images of what a registry holds. -/
def Registry.map {σ α β : Type} (f : α → β) (r : Registry σ α) : Registry σ β :=
  { service := r.service
    constructors := r.constructors.map fun e => (e.1, e.2.map f)
    built := r.built.map fun i => { serial := i.serial, name := i.name, value := f i.value } }

/-- The facade with its handler apart from which object it is. -/
def Facade.anonymous (f : Facade) : Facade :=
  { f with
    target := f.target.anonymous
    capabilities := f.capabilities.map Capability.anonymous }

private theorem insert_map {α β : Type} (f : α → β) (t : Keyed α) (name : String) (value : α) :
    (t.insert name value).map (fun e => (e.1, f e.2)) =
      Keyed.insert (t.map fun e => (e.1, f e.2)) name (f value) := by
  induction t with
  | nil => rfl
  | cons e rest ih =>
    obtain ⟨k, v⟩ := e
    simp only [Keyed.insert, List.map_cons]
    split
    · rfl
    · split
      · rfl
      · rw [List.map_cons, ih]

private theorem register_map {σ α β : Type} (f : α → β) (r : Registry σ α) (name : String)
    (c : Constructor σ α) : (r.register name c).map f = (r.map f).register name (c.map f) := by
  simp only [Registry.map, Registry.register, insert_map]

/-- A facade holds a handler only in its call target and those of its capabilities. -/
theorem assemble_anonymous (service : String) (definitions : List Definition) (t : CallTarget) :
    (Facade.assemble service definitions t).anonymous =
      Facade.assemble service definitions t.anonymous := by
  -- the definitions are registered one by one, and each takes the target along
  have registered (r : Registry Unit Capability) :
      (definitions.foldl (fun r d => r.register d.name (.plain ⟨d, t⟩)) r).map
          Capability.anonymous =
        definitions.foldl (fun r d => r.register d.name (.plain ⟨d, t.anonymous⟩))
          (r.map Capability.anonymous) := by
    induction definitions generalizing r with
    | nil => rfl
    | cons d rest ih =>
      rw [List.foldl_cons, List.foldl_cons, ih, register_map]
      rfl
  simp only [Facade.assemble, Facade.anonymous, registered]
  rfl

namespace Resolver

/-- The resolver with the same settings and services that has built nothing yet. -/
def cleared (r : Resolver) : Resolver := { r with handlers := [] }

/-- The resolver of services that have been registered in order. -/
def ofBindings (context : Context) (bindings : List Binding) : Resolver :=
  bindings.foldl withService { context }

/-! ### The invariant -/

/-- The state that a resolver is in once its services have been registered. -/
structure Consistent (r : Resolver) : Prop where
  /-- A service stands under its own name. -/
  named : ∀ service b, r.bindings.get? service = some b → b.descriptor.name = service
  /-- What has been built is what would be built now. -/
  current : ∀ h ∈ r.handlers, ∃ b, r.bindings.get? h.service = some b ∧
    r.cleared.build b h.version = .ok h.anonymous
  numbered : ∀ i (hi : i < r.handlers.length), r.handlers[i].serial = i
  distinct : r.handlers.Pairwise fun h k => ¬(h.service = k.service ∧ h.version = k.version)

/-- Registering keeps each service under its own name. -/
private theorem named_withService {r : Resolver} (b : Binding)
    (hr : ∀ service b, r.bindings.get? service = some b → b.descriptor.name = service)
    (service : String) (b' : Binding) (h : (r.withService b).bindings.get? service = some b') :
    b'.descriptor.name = service := by
  by_cases hs : service = b.descriptor.name
  · rw [hs, withService, Keyed.get?_set_self, Option.some.injEq] at h
    rw [← h, hs]
  · rw [withService, Keyed.get?_set_of_ne hs] at h
    exact hr service b' h

/-- Once its services are registered and nothing has been resolved, a resolver is consistent. -/
theorem consistent_ofBindings (context : Context) (bindings : List Binding) :
    (ofBindings context bindings).Consistent := by
  -- registering services builds nothing, whatever has been registered before
  suffices general : ∀ r : Resolver, r.handlers = [] →
      (∀ service b, r.bindings.get? service = some b → b.descriptor.name = service) →
      (bindings.foldl withService r).handlers = [] ∧
      ∀ service b, (bindings.foldl withService r).bindings.get? service = some b →
        b.descriptor.name = service by
    obtain ⟨empty, named⟩ := general { context } rfl (by simp)
    unfold ofBindings
    -- with no handlers the other three say nothing
    refine ⟨named, ?_, ?_, ?_⟩ <;> simp [empty]
  induction bindings with
  | nil => exact fun r he hn => ⟨he, hn⟩
  | cons b rest ih => exact fun r he hn => ih (r.withService b) he (named_withService b hn)

/-- A kept handler is known by its number. -/
theorem Consistent.eq_of_serial_eq {r : Resolver} (hr : r.Consistent) {h k : Handler}
    (hh : h ∈ r.handlers) (hk : k ∈ r.handlers) (same : h.serial = k.serial) : h = k := by
  obtain ⟨i, hi, rfl⟩ := List.getElem_of_mem hh
  obtain ⟨j, hj, rfl⟩ := List.getElem_of_mem hk
  rw [hr.numbered i hi, hr.numbered j hj] at same
  subst same
  rfl

/-- Two kept handlers are one exactly if they are for the same service and version. -/
theorem Consistent.serial_eq_iff {r : Resolver} (hr : r.Consistent) {h k : Handler}
    (hh : h ∈ r.handlers) (hk : k ∈ r.handlers) :
    h.serial = k.serial ↔ h.service = k.service ∧ h.version = k.version := by
  constructor
  · intro same
    rw [hr.eq_of_serial_eq hh hk same]
    exact ⟨rfl, rfl⟩
  · intro same
    -- the other way, two handlers of one service and version stand at one place
    obtain ⟨i, hi, rfl⟩ := List.getElem_of_mem hh
    obtain ⟨j, hj, rfl⟩ := List.getElem_of_mem hk
    rw [hr.numbered i hi, hr.numbered j hj]
    -- at two places they would differ in service or version
    have apart := List.pairwise_iff_getElem.mp hr.distinct
    rcases Nat.lt_trichotomy i j with hij | hij | hij
    · exact absurd same (apart i j hi hj hij)
    · exact hij
    · exact absurd ⟨same.1.symm, same.2.symm⟩ (apart j i hj hi hij)

/-! ### One resolution -/

/-- Building a handler reads what has been built only for the handler's number. -/
theorem build_eq_cleared (r : Resolver) (b : Binding) (version : Version) :
    r.build b version =
      (r.cleared.build b version).map fun h => { h with serial := r.handlers.length } := by
  have located : r.cleared.endpoint b.descriptor none = r.endpoint b.descriptor none := rfl
  simp only [build, bind, Except.bind, located]
  cases b.descriptor.ensureSupported version with
  | error e => rfl
  | ok _ =>
    cases r.endpoint b.descriptor none with
    | error e => rfl
    | ok endpoint => rfl

/-- What is known of a handler that has been built. -/
theorem build_eq_ok {r : Resolver} {b : Binding} {version : Version} {h : Handler}
    (hb : r.build b version = .ok h) :
    h.service = b.descriptor.name ∧ h.version = version ∧ h.serial = r.handlers.length ∧
      h.protocol = b.protocol := by
  unfold build at hb
  obtain ⟨_, _, hb⟩ := bind_eq_ok.mp hb
  obtain ⟨endpoint, _, hb⟩ := bind_eq_ok.mp hb
  cases hb
  exact ⟨rfl, rfl, rfl, rfl⟩

/-- A handler that has been built for an empty cache has the first number. -/
theorem anonymous_of_build_cleared {r : Resolver} {b : Binding} {v : Version} {h : Handler}
    (built : r.cleared.build b v = .ok h) : h.anonymous = h := by
  have zero : h.serial = 0 := (build_eq_ok built).2.2.1
  show { h with serial := 0 } = h
  rw [← zero]

/-- What is built is what would be built for an empty cache. -/
theorem build_cleared_of_build {r : Resolver} {b : Binding} {v : Version} {h : Handler}
    (built : r.build b v = .ok h) : r.cleared.build b v = .ok h.anonymous := by
  rw [build_eq_cleared] at built
  obtain ⟨h₀, anew, rfl⟩ := map_eq_ok.mp built
  rw [anew]
  exact congrArg Except.ok (anonymous_of_build_cleared anew).symm

/-- A handler that is kept is for the service and version that it is kept under. -/
theorem built?_eq_some {r : Resolver} {service : String} {v : Version} {h : Handler}
    (kept : r.built? service v = some h) :
    h ∈ r.handlers ∧ h.service = service ∧ h.version = v := by
  have key := List.find?_some kept
  simp only [decide_eq_true_eq] at key
  exact ⟨List.mem_of_find?_eq_some kept, key⟩

/-- What looking up a handler for a service and version can come to. -/
inductive Found (r : Resolver) (b : Binding) (v : Version) :
    Except SetupError Handler × Resolver → Prop where
  /-- One is kept; it is given as it is, and nothing changes. -/
  | kept (h : Handler) (there : r.built? b.descriptor.name v = some h) : Found r b v (.ok h, r)
  /-- A new one is built and added. -/
  | built (h : Handler) (absent : r.built? b.descriptor.name v = none)
    (new : r.build b v = .ok h) : Found r b v (.ok h, { r with handlers := r.handlers ++ [h] })
  /-- None is kept and none can be built, and nothing changes. -/
  | failed (e : SetupError) (absent : r.built? b.descriptor.name v = none)
    (refused : r.build b v = .error e) : Found r b v (.error e, r)

theorem found_handler (r : Resolver) (b : Binding) (v : Version) : r.Found b v (r.handler b v) := by
  unfold handler
  cases there : r.built? b.descriptor.name v with
  | some h => exact .kept h there
  | none =>
    cases new : r.build b v with
    | ok h => exact .built h there new
    | error e => exact .failed e there new

/-- What a resolution on `r` comes to, beside what it comes to on an empty cache: the same error
and the resolver as it was, or the same handler and a resolver that has kept all that `r` had. -/
inductive Resolves (r : Resolver) :
    Except SetupError Handler × Resolver → Except SetupError Handler × Resolver → Prop where
  | failed (e : SetupError) (r₀ : Resolver) : Resolves r (.error e, r₀) (.error e, r)
  | found (h : Handler) (r₀ r' : Resolver) (same : r'.cleared = r.cleared)
    (kept : r.handlers <+: r'.handlers) (mem : h ∈ r'.handlers) (hr' : r'.Consistent) :
    Resolves r (.ok h.anonymous, r₀) (.ok h, r')

/-- A new handler, for a service and version that there is none for, keeps the invariant. -/
private theorem consistent_append {r : Resolver} (hr : r.Consistent) {b : Binding}
    {version : Version} {h : Handler} (hb : r.bindings.get? b.descriptor.name = some b)
    (new : r.built? b.descriptor.name version = none) (built : r.build b version = .ok h)
    (anew : r.cleared.build b version = .ok h.anonymous) :
    { r with handlers := r.handlers ++ [h] }.Consistent := by
  obtain ⟨hs, hv, hn, _⟩ := build_eq_ok built
  -- the services are those of before; the rest is about the handlers
  refine ⟨hr.named, ?_, ?_, ?_⟩
  · intro k hk
    rcases List.mem_append.mp hk with hk | hk
    · exact hr.current k hk
    · rw [List.mem_singleton.mp hk, hs, hv]
      exact ⟨b, hb, anew⟩
  · intro i hi
    by_cases hold : i < r.handlers.length
    · rw [List.getElem_append_left hold]
      exact hr.numbered i hold
    · rw [List.length_append, List.length_singleton] at hi
      -- the number of the new one is how many there were
      have hlast : i = r.handlers.length := by omega
      subst hlast
      rw [List.getElem_concat_length rfl]
      exact hn
  · rw [List.pairwise_append]
    refine ⟨hr.distinct, List.pairwise_singleton _ _, ?_⟩
    intro k hk h' hh' same
    rw [List.mem_singleton.mp hh', hs, hv] at same
    have absent := List.find?_eq_none.mp new k hk
    simp [same] at absent

/-- With nothing kept, the lookup fails and the handler is built. -/
private theorem handler_cleared (r : Resolver) (b : Binding) (version : Version) :
    r.cleared.handler b version =
      match r.cleared.build b version with
      | .ok h => (.ok h, { r.cleared with handlers := [h] })
      | .error e => (.error e, r.cleared) :=
  rfl

/-- Looking a handler up comes to what building it anew would come to. A kept handler is found
before anything is checked, and the invariant says that the checks would succeed. -/
theorem handler_cases {r : Resolver} (hr : r.Consistent) {b : Binding}
    (hb : r.bindings.get? b.descriptor.name = some b) (version : Version) :
    Resolves r (r.cleared.handler b version) (r.handler b version) := by
  have found := found_handler r b version
  generalize r.handler b version = result at found ⊢
  rw [handler_cleared]
  cases found with
  | kept h there =>
    -- it is returned unchecked; by the invariant the checks succeed and build the same
    obtain ⟨mem, hs, hv⟩ := built?_eq_some there
    obtain ⟨b', hb', current⟩ := hr.current h mem
    rw [hs, hb, Option.some.injEq] at hb'
    rw [← hb', hv] at current
    rw [current]
    exact .found h _ r rfl (List.prefix_refl _) mem hr
  | failed e absent refused =>
    rw [build_eq_cleared] at refused
    rw [map_eq_error.mp refused]
    exact .failed e _
  | built h absent new =>
    -- it differs from the one of the empty cache in its number
    have current := build_cleared_of_build new
    rw [current]
    exact .found h _ _ rfl (List.prefix_append _ _) (by simp)
      (consistent_append hr hb absent new current)

/-! ### Entry points

Each of them finds the service, chooses the version, and looks the handler up. The service and
the version do not depend on what has been built. -/

theorem Consistent.get?_name {r : Resolver} (hr : r.Consistent) {service : String} {b : Binding}
    (h : r.binding service = .ok b) : r.bindings.get? b.descriptor.name = some b := by
  unfold binding at h
  cases hb : r.bindings.get? service with
  | none =>
    simp only [hb] at h
    exact nomatch h
  | some b' =>
    simp only [hb, Except.ok.injEq] at h
    rw [← h, hr.named service b' hb]
    exact hb

/-- Resolving a service comes to what it would come to on an empty cache. -/
theorem resolve_cases {r : Resolver} (hr : r.Consistent) (service : String) :
    Resolves r (r.cleared.resolve service) (r.resolve service) := by
  have found : r.cleared.binding service = r.binding service := rfl
  simp only [resolve, found]
  cases hb : r.binding service with
  | error e => exact .failed e _
  | ok b => exact handler_cases hr (hr.get?_name hb) _

/-- So does resolving a service at a version that is asked for. -/
theorem resolveVersion_cases {r : Resolver} (hr : r.Consistent) (service version : String) :
    Resolves r (r.cleared.resolveVersion service version) (r.resolveVersion service version) := by
  have found : r.cleared.binding service = r.binding service := rfl
  simp only [resolveVersion, found]
  cases hb : r.binding service with
  | error e => exact .failed e _
  | ok b =>
    dsimp only
    cases b.descriptor.versions.find? (·.text == version) with
    | none => exact .failed _ _
    | some v => exact handler_cases hr (hr.get?_name hb) v

end Resolver

/-! ### Runs

A run is a list of calls; a call on a facade names it by its place among those that have been
made. -/

namespace Resolving

/-- A resolver and the facades that have been made with it, the first one first. -/
structure State where
  resolver : Resolver
  facades : List Facade := []

/-- A call on a resolver or on a facade. -/
inductive Call where
  | resolve (service : String)
  | resolveVersion (service version : String)
  /-- Make a facade of a service with these capabilities. -/
  | makeFacade (service : String) (definitions : List Definition)
  /-- Make the facade of a region from one that has been made. -/
  | forRegion (index : Nat) (region : String)

/-- What a call comes to. -/
inductive Outcome where
  /-- The call names a facade that has not been made. -/
  | noFacade
  | failed (e : SetupError)
  | handler (h : Handler)
  | facade (f : Facade)

namespace Outcome

/-- The outcome apart from which object its handler is. -/
def anonymous : Outcome → Outcome
  | .handler h => .handler h.anonymous
  | .facade f => .facade f.anonymous
  | outcome => outcome

/-- The handler that a successful call has resolved to. -/
def handler? : Outcome → Option Handler
  | .handler h => some h
  | .facade f => some f.target.handler
  | _ => none

end Outcome

namespace State

/-- The state with a resolver that has built nothing yet. -/
def cleared (s : State) : State := { s with resolver := s.resolver.cleared }

/-- Keep the resolver after a resolution, whether it has failed or not. -/
def resolved (s : State) : Except SetupError Handler × Resolver → Outcome × State
  | (.ok h, resolver) => (.handler h, { s with resolver })
  | (.error e, resolver) => (.failed e, { s with resolver })

/-- Keep a facade that has been made, and the resolver after it. -/
def made (s : State) : Except SetupError Facade × Resolver → Outcome × State
  | (.ok f, resolver) => (.facade f, { resolver, facades := s.facades ++ [f] })
  | (.error e, resolver) => (.failed e, { s with resolver })

/-- Carry out a call. -/
def perform (s : State) : Call → Outcome × State
  | .resolve service => s.resolved (s.resolver.resolve service)
  | .resolveVersion service version => s.resolved (s.resolver.resolveVersion service version)
  | .makeFacade service definitions => s.made (Facade.make s.resolver service definitions)
  | .forRegion index region =>
    match s.facades[index]? with
    | some f => s.made (f.forRegion s.resolver region, s.resolver)
    | none => (.noFacade, s)

/-- Carry out calls in order. -/
def run (s : State) : List Call → List Outcome × State
  | [] => ([], s)
  | call :: rest =>
    let (outcome, s) := s.perform call
    let (outcomes, s) := s.run rest
    (outcome :: outcomes, s)

/-- The resolver is consistent, and it has kept the handlers of the facades. -/
structure Valid (s : State) : Prop where
  consistent : s.resolver.Consistent
  facades : ∀ f ∈ s.facades, f.target.handler ∈ s.resolver.handlers

/-- What a call on `s` comes to, beside its outcome on an empty cache: it is the same apart from
identity, what was kept is kept, the handler that it gives is kept, and a failure changes
nothing. -/
structure Settles (s : State) (anew : Outcome) (result : Outcome × State) : Prop where
  valid : result.2.Valid
  same : result.2.resolver.cleared = s.resolver.cleared
  kept : s.resolver.handlers <+: result.2.resolver.handlers
  outcome : result.1.anonymous = anew.anonymous
  handler : ∀ h, result.1.handler? = some h → h ∈ result.2.resolver.handlers
  failure : ∀ e, result.1 = .failed e → result.2 = s

/-- A call that fails, on an empty cache as well, settles. -/
private theorem settles_failed {s : State} (hs : s.Valid) (e : SetupError) :
    Settles s (.failed e) (.failed e, s) where
  valid := hs
  same := rfl
  kept := List.prefix_refl _
  outcome := rfl
  handler _ h := nomatch h
  failure _ _ := rfl

/-- A larger cache of a consistent resolver keeps the handlers of the facades. -/
private theorem facades_of_prefix {s : State} (hs : s.Valid) {r' : Resolver}
    (kept : s.resolver.handlers <+: r'.handlers) :
    ∀ f ∈ s.facades, f.target.handler ∈ r'.handlers :=
  fun f hf => kept.subset (hs.facades f hf)

private theorem settles_resolved {s : State} (hs : s.Valid)
    {anew kept : Except SetupError Handler × Resolver}
    (h : Resolver.Resolves s.resolver anew kept) :
    Settles s (s.cleared.resolved anew).1 (s.resolved kept) := by
  cases h with
  -- an error leaves what is kept as it was
  | failed e => exact settles_failed hs e
  | found h r₀ r' same grown mem hr' =>
    exact {
      valid := ⟨hr', facades_of_prefix hs grown⟩
      same := same
      kept := grown
      outcome := rfl
      handler := by
        intro k hk
        rw [← Option.some.inj hk]
        exact mem
      failure := fun e he => nomatch he }

/-- A facade that is made of a kept handler settles. -/
private theorem settles_made {s : State} {r' : Resolver} (hs : s.Valid)
    (same : r'.cleared = s.resolver.cleared) (kept : s.resolver.handlers <+: r'.handlers)
    (hr' : r'.Consistent) {f f₀ : Facade} (mem : f.target.handler ∈ r'.handlers)
    (anew : f.anonymous = f₀.anonymous) (r₀ : Resolver) :
    Settles s (s.cleared.made (.ok f₀, r₀)).1 (s.made (.ok f, r')) where
  valid := by
    refine ⟨hr', ?_⟩
    intro g hg
    rcases List.mem_append.mp hg with hg | hg
    · exact facades_of_prefix hs kept g hg
    · -- only the new facade is not among those of before
      rw [List.mem_singleton.mp hg]
      exact mem
  same := same
  kept := kept
  outcome := congrArg Outcome.facade anew
  handler := by
    intro k hk
    rw [← Option.some.inj hk]
    exact mem
  failure _ he := nomatch he

private theorem settles_makeFacade {s : State} (hs : s.Valid) (service : String)
    (definitions : List Definition) :
    Settles s (s.cleared.made (Facade.make s.cleared.resolver service definitions)).1
      (s.made (Facade.make s.resolver service definitions)) := by
  -- the two states have the same services, so the checks before come out alike
  have found : s.cleared.resolver.binding service = s.resolver.binding service := rfl
  simp only [Facade.make, found]
  cases s.resolver.binding service with
  | error e => exact settles_failed hs e
  | ok b =>
    dsimp only
    cases definitions.find? (!b.descriptor.hasCapability ·.name) with
    | some d => exact settles_failed hs _
    | none =>
      -- only now is the service resolved
      have resolved := Resolver.resolve_cases hs.consistent service
      dsimp only [cleared]
      generalize s.resolver.cleared.resolve service = anew at resolved ⊢
      generalize s.resolver.resolve service = answer at resolved ⊢
      cases resolved with
      | failed e => exact settles_failed hs e
      | found h r₀ r' same kept mem hr' =>
        -- the two handlers may differ in their numbers, and in nothing else
        refine settles_made hs same kept hr' mem ?_ r₀
        rw [assemble_anonymous, assemble_anonymous]
        rfl

/-- The facade of another region shares the handler, so nothing is resolved for it. -/
private theorem settles_forRegion {s : State} (hs : s.Valid) {f : Facade} (hf : f ∈ s.facades)
    (region : String) :
    Settles s
      (s.cleared.made (f.forRegion s.cleared.resolver region, s.cleared.resolver)).1
      (s.made (f.forRegion s.resolver region, s.resolver)) := by
  -- a region is looked up among the services; the cache plays no part
  have anew : f.forRegion s.cleared.resolver region = f.forRegion s.resolver region := rfl
  rw [anew]
  cases hg : f.forRegion s.resolver region with
  | error e => exact settles_failed hs e
  | ok g =>
    -- another region is another endpoint on the same handler
    have shared : g.target.handler = f.target.handler := by
      unfold Facade.forRegion at hg
      obtain ⟨b, _, hg⟩ := bind_eq_ok.mp hg
      obtain ⟨endpoint, _, hg⟩ := bind_eq_ok.mp hg
      cases hg
      rfl
    refine settles_made hs rfl (List.prefix_refl _) hs.consistent ?_ rfl _
    rw [shared]
    exact hs.facades f hf

/-- Every call settles: its outcome is that of the same call on an empty cache. -/
theorem settles_perform {s : State} (hs : s.Valid) (call : Call) :
    Settles s (s.cleared.perform call).1 (s.perform call) := by
  cases call with
  | resolve service => exact settles_resolved hs (Resolver.resolve_cases hs.consistent service)
  | resolveVersion service version =>
    exact settles_resolved hs (Resolver.resolveVersion_cases hs.consistent service version)
  | makeFacade service definitions => exact settles_makeFacade hs service definitions
  -- a facade is asked for by its place, which may not be there
  | forRegion index region =>
    cases hf : s.facades[index]? with
    | some f =>
      have hc : s.cleared.facades[index]? = some f := hf
      simp only [perform, hf, hc]
      exact settles_forRegion hs (List.mem_of_getElem? hf) region
    | none =>
      have hc : s.cleared.facades[index]? = none := hf
      simp only [perform, hf, hc]
      exact ⟨hs, rfl, List.prefix_refl _, rfl, fun _ h => (nomatch h), fun _ _ => rfl⟩

/-- After a run the invariant holds, and the handlers of all outcomes are kept. -/
theorem valid_run {s : State} (hs : s.Valid) (calls : List Call) :
    (s.run calls).2.Valid ∧ s.resolver.handlers <+: (s.run calls).2.resolver.handlers ∧
    ∀ outcome ∈ (s.run calls).1, ∀ h, outcome.handler? = some h →
      h ∈ (s.run calls).2.resolver.handlers := by
  induction calls generalizing s with
  | nil => exact ⟨hs, List.prefix_refl _, fun _ h => nomatch h⟩
  | cons call rest ih =>
    have step := settles_perform hs call
    -- what the first call gives is still kept at the end, since later calls only add
    obtain ⟨valid, kept, handlers⟩ := ih step.valid
    refine ⟨valid, step.kept.trans kept, ?_⟩
    intro outcome ho h hh
    rcases List.mem_cons.mp ho with rfl | ho
    · exact kept.subset (step.handler h hh)
    · exact handlers outcome ho h hh

end State

/-- A run over registered services, on a resolver that has built nothing before. After it, any
call comes to what it would come to on an empty cache, apart from which object its handler is; a
call that fails changes nothing, and no call removes or replaces what is kept. All handlers that
the run has resolved to are one object exactly if they are for the same service and version. -/
theorem run_resolves_as_if_anew (context : Context) (bindings : List Binding)
    (calls : List Call) :
    let start : State := { resolver := .ofBindings context bindings }
    let s := (start.run calls).2
    (∀ call,
      (s.perform call).1.anonymous = (s.cleared.perform call).1.anonymous ∧
      (∀ e, (s.perform call).1 = .failed e → (s.perform call).2 = s) ∧
      s.resolver.handlers <+: (s.perform call).2.resolver.handlers) ∧
    (∀ outcome ∈ (start.run calls).1, ∀ outcome' ∈ (start.run calls).1,
      ∀ h k, outcome.handler? = some h → outcome'.handler? = some k →
        (h.serial = k.serial → h = k) ∧
        (h.serial = k.serial ↔ h.service = k.service ∧ h.version = k.version)) := by
  intro start s
  -- nothing is kept at the beginning, so the invariant holds of it
  have hstart : start.Valid :=
    ⟨Resolver.consistent_ofBindings context bindings, fun _ h => nomatch h⟩
  -- it still holds at the end, and what the run has given is kept there
  obtain ⟨hs, _, handlers⟩ := State.valid_run hstart calls
  constructor
  · intro call
    have step := State.settles_perform hs call
    exact ⟨step.outcome, step.failure, step.kept⟩
  · intro outcome ho outcome' ho' h k hh hk
    have hmem := handlers outcome ho h hh
    have kmem := handlers outcome' ho' k hk
    exact ⟨hs.consistent.eq_of_serial_eq hmem kmem, hs.consistent.serial_eq_iff hmem kmem⟩

/-! The compute service at two versions, with a version that it does not support between them. -/

private def computeStart : State :=
  { resolver := .ofBindings (.ofRegion "us-east-1") [Ec2.binding .aws] }

private def computeCalls : List Call :=
  [.resolve "ec2", .resolveVersion "ec2" "19990101", .resolveVersion "ec2" "20130201",
   .makeFacade "ec2" [{ name := "tag", command := "DescribeTags" }], .forRegion 0 "cn-north-1"]

private def currentHandler : Handler := Ec2.firstHandler "us-east-1"

private def pinnedHandler : Handler :=
  { currentHandler with serial := 1, version := Ec2.pinnedVersion }

theorem run_of_compute_keeps_two_handlers :
    let (outcomes, s) := computeStart.run computeCalls
    outcomes.filterMap (·.handler?) =
      [currentHandler, pinnedHandler, currentHandler, currentHandler] ∧
    (currentHandler.serial = pinnedHandler.serial ↔
      currentHandler.service = pinnedHandler.service ∧
        currentHandler.version = pinnedHandler.version) ∧
    (s.perform (.resolve "s3")).1 = .failed (.unknownService "s3") ∧
    (s.perform (.resolve "s3")).2 = s := by
  have run := run_resolves_as_if_anew (.ofRegion "us-east-1") [Ec2.binding .aws] computeCalls
  have handlers : (computeStart.run computeCalls).1.filterMap (·.handler?) =
      [currentHandler, pinnedHandler, currentHandler, currentHandler] := rfl
  -- the outcomes that give a handler are those that the run kept
  have member (h : Handler) (hm : h ∈ (computeStart.run computeCalls).1.filterMap (·.handler?)) :
      ∃ outcome ∈ (computeStart.run computeCalls).1, outcome.handler? = some h :=
    List.mem_filterMap.mp hm
  obtain ⟨o, ho, hc⟩ := member currentHandler (by simp [handlers])
  obtain ⟨o', ho', hp⟩ := member pinnedHandler (by simp [handlers])
  exact ⟨handlers, (run.2 o ho o' ho' _ _ hc hp).2, rfl, (run.1 (.resolve "s3")).2.1 _ rfl⟩

end Resolving

end CloudApi
