import CloudApi.Proofs.HandlerCache
import Mathlib.Data.List.Induction

/-!
# Services that are registered again

Registering a service takes the place of an earlier service of its name, and it leaves the handlers
that have been built where they are. They are kept under the name of the service and the version, so
a handler of the earlier service still answers for the later one. This file says when that can be
seen.

Here a resolver may be used in any order: services are registered, handlers are looked up, facades
are made. The invariant is `Resolver.Follows`. It is weaker than `Consistent`, which registering a
service does not keep.

## Key results

- `answer_eq`: a kept handler is the answer, or else a new one
- `follows_move`, `follows_after`: the invariant holds after every move, and so after all of them
- `answer_after_registrations`: when an answer is that of a resolver with the same services that has
  built nothing
-/

namespace CloudApi

namespace Resolver

/-! ### Looking a handler up -/

/-- A handler is looked up at the version that the session uses or at one that is asked for. -/
inductive Lookup where
  | policy (service : String)
  | version (service version : String)

/-- The service that is looked up. -/
def Lookup.service : Lookup → String
  | .policy service => service
  | .version service _ => service

/-- Look a handler up. -/
def lookUp (r : Resolver) : Lookup → Except SetupError Handler × Resolver
  | .policy service => r.resolve service
  | .version service version => r.resolveVersion service version

/-- The service and the version that a handler is looked up for. -/
def wanted (r : Resolver) : Lookup → Except SetupError (Binding × Version)
  | .policy service => do
    let b ← r.binding service
    return (b, r.versionOf b.descriptor)
  | .version service version => do
    let b ← r.binding service
    match b.descriptor.versions.find? (·.text == version) with
    | some v => return (b, v)
    | none => .error (Descriptor.unsupported service ⟨version⟩ b.descriptor.versions)

/-- What looking a handler up comes to, apart from which object the handler is. -/
def answer (r : Resolver) (l : Lookup) : Except SetupError Handler :=
  (r.lookUp l).1.map Handler.anonymous

theorem lookUp_eq (r : Resolver) (l : Lookup) :
    r.lookUp l =
      match r.wanted l with
      | .ok (b, v) => r.handler b v
      | .error e => (.error e, r) := by
  -- both ways of asking find the service first, and then the version
  cases l with
  | policy service =>
    simp only [lookUp, resolve, wanted, bind, Except.bind]
    cases r.binding service <;> rfl
  | version service version =>
    simp only [lookUp, resolveVersion, wanted, bind, Except.bind]
    cases r.binding service with
    | error e => rfl
    | ok b =>
      dsimp only
      cases b.descriptor.versions.find? (·.text == version) <;> rfl

/-- What is wanted is a service that is registered. -/
theorem binding_of_wanted {r : Resolver} {l : Lookup} {b : Binding} {v : Version}
    (h : r.wanted l = .ok (b, v)) : r.binding l.service = .ok b := by
  cases l with
  | policy service =>
    obtain ⟨b', hb, h⟩ := bind_eq_ok.mp h
    cases h
    exact hb
  | version service version =>
    obtain ⟨b', hb, h⟩ := bind_eq_ok.mp h
    cases found : b'.descriptor.versions.find? (·.text == version) with
    | some v' =>
      simp only [found] at h
      cases h
      exact hb
    -- a version that is not supported is not wanted
    | none =>
      simp only [found] at h
      cases h

/-- A handler that is kept is given as it is, and nothing is added. -/
theorem lookUp_of_built? {r : Resolver} {l : Lookup} {b : Binding} {v : Version} {h : Handler}
    (hw : r.wanted l = .ok (b, v)) (kept : r.built? b.descriptor.name v = some h) :
    r.lookUp l = (.ok h, r) := by
  rw [lookUp_eq, hw]
  show r.handler b v = (.ok h, r)
  unfold handler
  rw [kept]

/-- The answer is the handler that is kept, whatever its service is now, or else a new one. -/
theorem answer_eq (r : Resolver) (l : Lookup) :
    r.answer l = r.wanted l >>= fun (b, v) =>
      match r.built? b.descriptor.name v with
      | some h => .ok h.anonymous
      | none => r.cleared.build b v := by
  unfold answer
  rw [lookUp_eq]
  cases r.wanted l with
  | error e => rfl
  | ok p =>
    obtain ⟨b, v⟩ := p
    show (r.handler b v).1.map Handler.anonymous = match r.built? b.descriptor.name v with
      | some h => .ok h.anonymous
      | none => r.cleared.build b v
    have found := found_handler r b v
    generalize r.handler b v = result at found ⊢
    cases found with
    -- what is kept is given as it is, for whatever service it was built
    | kept h there =>
      rw [there]
      rfl
    | built h absent new =>
      rw [absent, build_cleared_of_build new]
      rfl
    | failed e absent refused =>
      -- building fails on an empty cache as well
      rw [build_eq_cleared] at refused
      rw [absent, map_eq_error.mp refused]
      rfl

/-! ### Registering -/

theorem ofBindings_concat (context : Context) (bs : List Binding) (b : Binding) :
    ofBindings context (bs ++ [b]) = (ofBindings context bs).withService b :=
  List.foldl_append ..

/-- Registering builds nothing. -/
theorem cleared_ofBindings (context : Context) (bs : List Binding) :
    (ofBindings context bs).cleared = ofBindings context bs := by
  induction bs using List.reverseRecOn with
  | nil => rfl
  | append_singleton bs b ih =>
    rw [ofBindings_concat]
    exact congrArg (withService · b) ih

/-- The service of a name is the last one that has been registered under it. -/
theorem get?_ofBindings (context : Context) (bs : List Binding) (service : String) :
    (ofBindings context bs).bindings.get? service =
      bs.reverse.find? (·.descriptor.name = service) := by
  induction bs using List.reverseRecOn with
  | nil => rfl
  | append_singleton bs b ih =>
    rw [ofBindings_concat, List.reverse_concat]
    by_cases own : service = b.descriptor.name
    · rw [withService, own, Keyed.get?_set_self, List.find?_cons_of_pos (by simp)]
    · rw [withService, Keyed.get?_set_of_ne own, ih,
        List.find?_cons_of_neg (by simpa using Ne.symm own)]

/-- The resolver has the last of the services in `bs` of each name, and every handler that it keeps
was built for one of them. -/
structure Follows (context : Context) (bs : List Binding) (r : Resolver) : Prop where
  same : r.cleared = ofBindings context bs
  built : ∀ h ∈ r.handlers, ∃ b ∈ bs,
    (ofBindings context bs).build b h.version = .ok h.anonymous

variable {context : Context} {bs : List Binding} {r : Resolver}

theorem follows_nil : Follows context [] { context } where
  same := rfl
  built _ mem := by simp at mem

/-- Handlers stay when a service is registered. What they were built for is in the past then, but a
handler is built the same way whatever else is registered. -/
theorem Follows.withService (hr : Follows context bs r) (b : Binding) :
    Follows context (bs ++ [b]) (r.withService b) where
  same := by
    rw [ofBindings_concat, ← hr.same]
    rfl
  built h mem := by
    obtain ⟨b₀, mem₀, built⟩ := hr.built h mem
    rw [ofBindings_concat]
    exact ⟨b₀, List.mem_append_left [b] mem₀, built⟩

theorem Follows.find?_of_wanted (hr : Follows context bs r) {l : Lookup} {b : Binding}
    {v : Version} (h : r.wanted l = .ok (b, v)) :
    bs.reverse.find? (·.descriptor.name = l.service) = some b := by
  rw [← get?_ofBindings context bs, ← hr.same]
  have found : r.binding l.service = .ok b := binding_of_wanted h
  unfold binding at found
  split at found
  · next b' hb =>
    cases found
    exact hb
  · cases found

theorem Follows.mem_of_wanted (hr : Follows context bs r) {l : Lookup} {b : Binding}
    {v : Version} (h : r.wanted l = .ok (b, v)) : b ∈ bs ∧ b.descriptor.name = l.service := by
  have last := hr.find?_of_wanted h
  exact ⟨List.mem_reverse.mp (List.mem_of_find?_eq_some last), by simpa using List.find?_some last⟩

theorem Follows.lookUp (hr : Follows context bs r) (l : Lookup) :
    Follows context bs (r.lookUp l).2 := by
  rw [lookUp_eq]
  cases hw : r.wanted l with
  | error e => exact hr
  | ok p =>
    obtain ⟨b, v⟩ := p
    dsimp only
    have found := found_handler r b v
    generalize r.handler b v = result at found ⊢
    -- only the third case changes what is kept
    cases found with
    | kept h there => exact hr
    | failed e absent refused => exact hr
    | built h absent new =>
      refine ⟨hr.same, ?_⟩
      intro k mem
      rcases List.mem_append.mp mem with old | added
      · exact hr.built k old
      · -- the new one was built for the service that stands now
        rw [List.mem_singleton.mp added]
        refine ⟨b, (hr.mem_of_wanted hw).1, ?_⟩
        rw [← hr.same, (build_eq_ok new).2.1]
        exact build_cleared_of_build new

/-- A kept handler was built for a service of its name, though perhaps not for the last one. -/
theorem Follows.of_built? (hr : Follows context bs r) {service : String} {v : Version}
    {h : Handler} (kept : r.built? service v = some h) :
    ∃ b ∈ bs, b.descriptor.name = service ∧
      (ofBindings context bs).build b v = .ok h.anonymous := by
  obtain ⟨old, own, version⟩ := built?_eq_some kept
  obtain ⟨b, mem, built⟩ := hr.built h old
  have name : h.anonymous.service = b.descriptor.name := (build_eq_ok built).1
  exact ⟨b, mem, name.symm.trans own, version ▸ built⟩

/-- An answer is a handler for a service that has been registered under the name. -/
theorem Follows.of_answer (hr : Follows context bs r) {l : Lookup} {h : Handler}
    (answered : r.answer l = .ok h) :
    ∃ b ∈ bs, b.descriptor.name = l.service ∧
      (ofBindings context bs).build b h.version = .ok h := by
  rw [answer_eq] at answered
  obtain ⟨⟨b, v⟩, hw, answered⟩ := bind_eq_ok.mp answered
  obtain ⟨registered, name⟩ := hr.mem_of_wanted hw
  cases kept : r.built? b.descriptor.name v with
  | some k =>
    simp only [kept, Except.ok.injEq] at answered
    subst answered
    -- it was built for a service that was registered under the same name
    obtain ⟨b₀, mem, name₀, built⟩ := hr.of_built? kept
    have version : k.anonymous.version = v := (build_eq_ok built).2.1
    exact ⟨b₀, mem, name₀.trans name, version.symm ▸ built⟩
  | none =>
    simp only [kept] at answered
    -- it is built now, for the service that stands
    refine ⟨b, registered, name, ?_⟩
    rw [← hr.same, (build_eq_ok answered).2.1]
    exact answered

/-- The cache is seen exactly if what it keeps for a service and version is not what would be built
for them now. -/
theorem Follows.answer_eq_iff (hr : Follows context bs r) (l : Lookup) :
    r.answer l = (ofBindings context bs).answer l ↔
      ∀ b v h, r.wanted l = .ok (b, v) → r.built? b.descriptor.name v = some h →
        (ofBindings context bs).build b v = .ok h.anonymous := by
  -- anew there is nothing kept, so what is wanted is built
  have anew : (ofBindings context bs).answer l =
      r.wanted l >>= fun (b, v) => (ofBindings context bs).build b v := by
    rw [answer_eq, cleared_ofBindings, ← hr.same]
    rfl
  rw [anew, answer_eq, hr.same]
  cases r.wanted l with
  | error e =>
    apply iff_of_true rfl
    intro b v h wanted
    cases wanted
  | ok p =>
    obtain ⟨b, v⟩ := p
    simp only [bind, Except.bind, Except.ok.injEq, Prod.mk.injEq]
    cases kept : r.built? b.descriptor.name v with
    -- nothing is kept here either, and building does not look at what is
    | none =>
      apply iff_of_true rfl
      intro b' v' h ⟨hb, hv⟩ found
      rw [← hb, ← hv, kept] at found
      cases found
    | some h =>
      constructor
      · intro same b' v' h' ⟨hb, hv⟩ found
        rw [← hb, ← hv, kept, Option.some.injEq] at found
        rw [← hb, ← hv, ← found]
        exact same.symm
      · intro current
        exact (current b v h ⟨rfl, rfl⟩ kept).symm

/-- It is not seen for a name that has been registered for one service only. -/
theorem Follows.answer_eq_of_one (hr : Follows context bs r) {l : Lookup}
    (one : ∀ b ∈ bs, ∀ b' ∈ bs, b.descriptor.name = l.service → b'.descriptor.name = l.service →
      b = b') : r.answer l = (ofBindings context bs).answer l := by
  rw [hr.answer_eq_iff]
  intro b v h hw kept
  obtain ⟨registered, name⟩ := hr.mem_of_wanted hw
  obtain ⟨b₀, mem, name₀, built⟩ := hr.of_built? kept
  -- what it was built for is what stands under the name
  have same : b₀ = b := one b₀ mem b registered (name₀.trans name) name
  exact same ▸ built

end Resolver

/-! ### Any order of use -/

namespace Resolving

open Resolver (Lookup Follows)

/-- A move in the use of a resolver. -/
inductive Move where
  | register (b : Binding)
  | call (c : Call)

/-- The service that a move registers, if any. -/
def Move.binding? : Move → Option Binding
  | .register b => some b
  | .call _ => none

/-- The services that moves register, in order. -/
def registered (moves : List Move) : List Binding := moves.filterMap Move.binding?

namespace State

/-- Make a move. -/
def move (s : State) : Move → State
  | .register b => { s with resolver := s.resolver.withService b }
  | .call c => (s.perform c).2

/-- Make moves in order. -/
def after (s : State) (moves : List Move) : State := moves.foldl move s

theorem resolver_resolved (s : State) (result : Except SetupError Handler × Resolver) :
    (s.resolved result).2.resolver = result.2 := by
  obtain ⟨_ | _, _⟩ := result <;> rfl

theorem resolver_made (s : State) (result : Except SetupError Facade × Resolver) :
    (s.made result).2.resolver = result.2 := by
  obtain ⟨_ | _, _⟩ := result <;> rfl

/-- All that a call does to the resolver is to look a handler up. -/
theorem resolver_perform (s : State) (c : Call) :
    (s.perform c).2.resolver = s.resolver ∨
      ∃ l, (s.perform c).2.resolver = (s.resolver.lookUp l).2 := by
  cases c with
  | resolve service => exact .inr ⟨.policy service, resolver_resolved s _⟩
  | resolveVersion service version => exact .inr ⟨.version service version, resolver_resolved s _⟩
  | makeFacade service definitions =>
    dsimp only [perform]
    rw [resolver_made]
    unfold Facade.make
    -- the service is resolved only if it declares what is defined
    cases s.resolver.binding service with
    | error e => exact .inl rfl
    | ok b =>
      dsimp only
      cases definitions.find? (!b.descriptor.hasCapability ·.name) with
      | some d => exact .inl rfl
      | none => exact .inr ⟨.policy service, rfl⟩
  | forRegion index region =>
    apply Or.inl
    dsimp only [perform]
    cases s.facades[index]? with
    | none => rfl
    | some f => exact resolver_made s _

variable {context : Context} {bs : List Binding}

theorem follows_move {s : State} (hs : Follows context bs s.resolver) (m : Move) :
    Follows context (bs ++ m.binding?.toList) (s.move m).resolver := by
  cases m with
  | register b => exact hs.withService b
  | call c =>
    rw [Move.binding?, Option.toList_none, List.append_nil]
    rcases resolver_perform s c with same | ⟨l, found⟩
    · exact same.symm ▸ hs
    · exact found.symm ▸ hs.lookUp l

theorem follows_after {s : State} (hs : Follows context bs s.resolver) (moves : List Move) :
    Follows context (bs ++ registered moves) (s.after moves).resolver := by
  induction moves generalizing s bs with
  | nil =>
    rw [registered, List.filterMap_nil, List.append_nil]
    exact hs
  | cons m rest ih =>
    -- a move registers one service or none
    have split : registered (m :: rest) = m.binding?.toList ++ registered rest := by
      unfold registered
      rw [List.filterMap_cons]
      cases m.binding? <;> rfl
    rw [split, ← List.append_assoc]
    exact ih (follows_move hs m)

end State

/-- After services have been registered and handlers looked up in any order, the service of a name
is the last one that was registered under it, and no error is due to what has been built. The answer
to a look-up is that of a resolver with the same services that has built nothing, exactly if a
handler that is kept for the service and version is what would be built for them now; so it is
wherever no handler is kept, and wherever all services of the name are one. In any case what is
answered is a handler of a service that has been registered under the name: of an earlier one, if a
handler of it is kept. -/
theorem answer_after_registrations (context : Context) (moves : List Move) (l : Lookup) :
    let r := (State.after { resolver := { context } } moves).resolver
    let anew := Resolver.ofBindings context (registered moves)
    r.wanted l = anew.wanted l ∧
    (∀ b v, r.wanted l = .ok (b, v) →
      (registered moves).reverse.find? (·.descriptor.name = l.service) = some b) ∧
    (r.answer l = anew.answer l ↔
      ∀ b v h, r.wanted l = .ok (b, v) → r.built? b.descriptor.name v = some h →
        anew.build b v = .ok h.anonymous) ∧
    ((∀ b ∈ registered moves, ∀ b' ∈ registered moves, b.descriptor.name = l.service →
      b'.descriptor.name = l.service → b = b') → r.answer l = anew.answer l) ∧
    (∀ b v h, r.wanted l = .ok (b, v) → r.built? b.descriptor.name v = some h →
      r.lookUp l = (.ok h, r)) ∧
    ∀ h, r.answer l = .ok h →
      ∃ b ∈ registered moves, b.descriptor.name = l.service ∧ h.protocol = b.protocol ∧
        anew.build b h.version = .ok h := by
  intro r anew
  have start : Follows context [] ({ resolver := { context } } : State).resolver :=
    Resolver.follows_nil
  have hr : Follows context (registered moves) r := State.follows_after start moves
  -- looking for a service never looks at the handlers
  have wanted : r.wanted l = anew.wanted l := by
    rw [show anew = r.cleared from hr.same.symm]
    rfl
  refine ⟨wanted, fun _ _ => hr.find?_of_wanted, hr.answer_eq_iff l, hr.answer_eq_of_one,
    fun _ _ _ => Resolver.lookUp_of_built?, ?_⟩
  intro h answered
  obtain ⟨b, mem, name, built⟩ := hr.of_answer answered
  exact ⟨b, mem, name, (Resolver.build_eq_ok built).2.2.2, built⟩

/-! The compute service is resolved and then registered again with another protocol. -/

private def replacement : Binding := ⟨Ec2.descriptor, .cloudStackQuery⟩

private def replacing : List Move :=
  [.register (Ec2.binding .aws), .call (.resolve "ec2"), .register replacement]

private def replaced : Resolver :=
  (State.after { resolver := { context := .ofRegion "us-east-1" } } replacing).resolver

private def spoken (r : Resolver) (l : Lookup) : Except SetupError Protocol :=
  (r.answer l).map (·.protocol)

theorem replacement_is_spoken_at_other_versions :
    let l : Lookup := .version "ec2" "20130201"
    replaced.answer l =
      (Resolver.ofBindings (.ofRegion "us-east-1") (registered replacing)).answer l ∧
    spoken replaced l = .ok .cloudStackQuery := by
  intro l
  obtain ⟨_, _, same, _⟩ := answer_after_registrations (.ofRegion "us-east-1") replacing l
  refine ⟨same.mpr ?_, rfl⟩
  intro b v h wanted kept
  have asked : replaced.wanted l = .ok (replacement, Ec2.pinnedVersion) := rfl
  cases asked.symm.trans wanted
  have none : replaced.built? replacement.descriptor.name Ec2.pinnedVersion = none := rfl
  cases none.symm.trans kept

/-- The later service stands under the name, but the handler that was resolved before it was
registered still speaks the protocol of the earlier one. -/
theorem replaced_protocol_is_still_spoken :
    replaced.binding "ec2" = .ok replacement ∧
    spoken replaced (.policy "ec2") = .ok (.ec2Query .aws) ∧
    spoken (Resolver.ofBindings (.ofRegion "us-east-1") (registered replacing)) (.policy "ec2") =
      .ok .cloudStackQuery ∧
    replaced.answer (.policy "ec2") ≠
      (Resolver.ofBindings (.ofRegion "us-east-1") (registered replacing)).answer
        (.policy "ec2") := by
  have before : spoken replaced (.policy "ec2") = .ok (.ec2Query .aws) := rfl
  have anew : spoken (Resolver.ofBindings (.ofRegion "us-east-1") (registered replacing))
      (.policy "ec2") = .ok .cloudStackQuery := rfl
  refine ⟨rfl, before, anew, ?_⟩
  intro same
  have protocols := congrArg (·.map (·.protocol)) same
  have one := Except.ok.inj (before.symm.trans (protocols.trans anew))
  exact absurd (congrArg Protocol.name one) (by decide)

end Resolving

end CloudApi
