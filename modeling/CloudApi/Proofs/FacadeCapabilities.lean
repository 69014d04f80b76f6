import CloudApi.Ec2.Service
import CloudApi.Facade
import CloudApi.Proofs.RegistryRuns
import CloudApi.Proofs.Results

/-!
# Capabilities of facades

A facade is made of a service and definitions of capabilities, of which several may have one name.
`Facade.Makes` says what making one comes to: the first of three conditions that does not hold is
what the error tells. What a facade offers from then on depends on its definitions alone, however
often it is redirected and whatever has been asked of it; it does not depend on what else the
service declares.

## Key results

- `make_eq_iff`: what making a facade comes to
- `assemble_capabilities`: the capabilities of a facade are a registry of its definitions
- `Derived.offers`: what is kept by a facade that is used or redirected
- `facades_offer_last_definitions`: which facades can be made, and which capabilities they have
-/

namespace CloudApi

namespace Facade

/-! ### Making a facade -/

variable {r r' : Resolver} {service : String} {definitions : List Definition} {f g : Facade}

/-- What making a facade of a service for these definitions comes to, and what the resolver has come
to then. -/
inductive Makes (r : Resolver) (service : String) (definitions : List Definition) :
    Except SetupError Facade × Resolver → Prop where
  /-- The service is not registered. -/
  | unregistered (missing : r.bindings.get? service = none) :
    Makes r service definitions (.error (.unknownService service), r)
  /-- The service is registered, but it does not declare what is defined. The first definition that
  it does not declare is told. -/
  | undeclared {b : Binding} {before after : List Definition} {d : Definition}
    (registered : r.bindings.get? service = some b) (split : definitions = before ++ d :: after)
    (declared : ∀ c ∈ before, c.name ∈ b.descriptor.capabilities)
    (first : d.name ∉ b.descriptor.capabilities) :
    Makes r service definitions
      (.error (.invalidDescriptor service ("capability '" ++ d.name ++ "' is not declared")), r)
  /-- The service declares all that is defined, but has no handler. -/
  | unresolved {b : Binding} {e : SetupError} {r' : Resolver}
    (registered : r.bindings.get? service = some b)
    (declared : ∀ d ∈ definitions, d.name ∈ b.descriptor.capabilities)
    (failed : r.resolve service = (.error e, r')) : Makes r service definitions (.error e, r')
  /-- The facade goes to the service's handler. -/
  | made {b : Binding} {h : Handler} {r' : Resolver}
    (registered : r.bindings.get? service = some b)
    (declared : ∀ d ∈ definitions, d.name ∈ b.descriptor.capabilities)
    (resolved : r.resolve service = (.ok h, r')) :
    Makes r service definitions (.ok (assemble service definitions { handler := h }), r')

/-- The definitions that are looked for are those that the service does not declare. -/
private theorem undeclared_iff {d : Descriptor} {name : String} :
    (!d.hasCapability name) = true ↔ name ∉ d.capabilities := by
  rw [Bool.not_eq_true', Descriptor.hasCapability, List.contains_eq_mem, decide_eq_false_iff_not]

private theorem binding_of_registered {b : Binding}
    (registered : r.bindings.get? service = some b) : r.binding service = .ok b := by
  simp only [Resolver.binding, registered]

private theorem make_of_undeclared {b : Binding} (registered : r.bindings.get? service = some b)
    {d : Definition}
    (found : definitions.find? (!b.descriptor.hasCapability ·.name) = some d) :
    make r service definitions =
      (.error (.invalidDescriptor service ("capability '" ++ d.name ++ "' is not declared")),
        r) := by
  simp only [make, binding_of_registered registered, found]

private theorem make_of_declared {b : Binding} (registered : r.bindings.get? service = some b)
    (all : definitions.find? (!b.descriptor.hasCapability ·.name) = none) :
    make r service definitions =
      ((r.resolve service).1.map fun h => assemble service definitions { handler := h },
        (r.resolve service).2) := by
  simp only [make, binding_of_registered registered, all]

private theorem make_of_unregistered (missing : r.bindings.get? service = none) :
    make r service definitions = (.error (.unknownService service), r) := by
  unfold make Resolver.binding
  rw [missing]

private theorem makes_make (r : Resolver) (service : String) (definitions : List Definition) :
    Makes r service definitions (make r service definitions) := by
  cases registered : r.bindings.get? service with
  | none =>
    rw [make_of_unregistered registered]
    exact .unregistered registered
  | some b =>
    -- what is defined is checked before the service is resolved
    cases found : definitions.find? (!b.descriptor.hasCapability ·.name) with
    | some d =>
      rw [make_of_undeclared registered found]
      obtain ⟨missing, before, after, split, declared⟩ := List.find?_eq_some_iff_append.mp found
      refine .undeclared registered split ?_ (undeclared_iff.mp missing)
      intro c hc
      simpa [Descriptor.hasCapability] using declared c hc
    | none =>
      have declared : ∀ c ∈ definitions, c.name ∈ b.descriptor.capabilities := by
        simpa only [List.find?_eq_none, undeclared_iff, Decidable.not_not] using found
      rw [make_of_declared registered found]
      cases resolved : r.resolve service with
      | mk answer r' =>
        cases answer with
        | error e => exact .unresolved registered declared resolved
        | ok h => exact .made registered declared resolved

/-- There is one outcome. -/
private theorem Makes.make_eq {outcome : Except SetupError Facade × Resolver}
    (h : Makes r service definitions outcome) : make r service definitions = outcome := by
  -- where all is declared no definition is found that is not
  have declares {b : Binding} (declared : ∀ d ∈ definitions, d.name ∈ b.descriptor.capabilities) :
      definitions.find? (!b.descriptor.hasCapability ·.name) = none := by
    simpa only [List.find?_eq_none, undeclared_iff, Decidable.not_not] using declared
  cases h with
  | unregistered missing => exact make_of_unregistered missing
  | @undeclared b before after d registered split declared first =>
    have found : definitions.find? (!b.descriptor.hasCapability ·.name) = some d := by
      refine List.find?_eq_some_iff_append.mpr ⟨undeclared_iff.mpr first, before, after, split, ?_⟩
      intro c hc
      simpa [Descriptor.hasCapability] using declared c hc
    exact make_of_undeclared registered found
  | unresolved registered declared failed =>
    rw [make_of_declared registered (declares declared), failed]
    rfl
  | made registered declared resolved =>
    rw [make_of_declared registered (declares declared), resolved]
    rfl

/-- What making a facade comes to. -/
theorem make_eq_iff {outcome : Except SetupError Facade × Resolver} :
    make r service definitions = outcome ↔ Makes r service definitions outcome := by
  constructor
  · rintro rfl
    exact makes_make r service definitions
  · exact Makes.make_eq

/-- When a facade can be made. -/
theorem exists_make_iff_declared :
    (∃ f r', make r service definitions = (.ok f, r')) ↔
      ∃ b, r.bindings.get? service = some b ∧
        (∀ d ∈ definitions, d.name ∈ b.descriptor.capabilities) ∧
        ∃ h r', r.resolve service = (.ok h, r') := by
  constructor
  · rintro ⟨f, r', made⟩
    cases make_eq_iff.mp made with
    | made registered declared resolved => exact ⟨_, registered, declared, _, _, resolved⟩
  · rintro ⟨b, registered, declared, h, r', resolved⟩
    exact ⟨_, r', make_eq_iff.mpr (.made registered declared resolved)⟩

/-! ### The last of a name -/

/-- The last of some definitions that has this name. -/
def IsLast (definitions : List Definition) (name : String) (d : Definition) : Prop :=
  ∃ before after, definitions = before ++ d :: after ∧ d.name = name ∧ ∀ c ∈ after, c.name ≠ name

theorem isLast_iff {name : String} {d : Definition} :
    IsLast definitions name d ↔ definitions.reverse.find? (·.name == name) = some d := by
  rw [List.find?_eq_some_iff_append, beq_iff_eq]
  constructor
  · rintro ⟨before, after, rfl, named, others⟩
    refine ⟨named, after.reverse, before.reverse, by simp, ?_⟩
    intro c hc
    simpa using others c (List.mem_reverse.mp hc)
  · rintro ⟨named, after, before, split, others⟩
    refine ⟨before.reverse, after.reverse, ?_, named, ?_⟩
    · rw [← List.reverse_reverse definitions, split]
      simp
    · intro c hc
      simpa using others c (List.mem_reverse.mp hc)

/-- What a facade registers: under the name of each definition the constructor of the capability at
its target. -/
def constructors (definitions : List Definition) (t : CallTarget) :
    Keyed (Constructor Unit Capability) :=
  definitions.map fun d => (d.name, .plain ⟨d, t⟩)

theorem keys_constructors (definitions : List Definition) (t : CallTarget) :
    (constructors definitions t).keys = definitions.map (·.name) := by
  rw [constructors, Keyed.keys, List.map_map]
  rfl

/-- Of the capabilities of a name the last one counts. -/
theorem get?_reverse_constructors (definitions : List Definition) (t : CallTarget)
    (name : String) :
    Keyed.get? (constructors definitions t).reverse name =
      (definitions.reverse.find? (·.name == name)).map fun d => .plain ⟨d, t⟩ := by
  rw [constructors, ← List.map_reverse]
  induction definitions.reverse with
  | nil => rfl
  | cons d rest ih =>
    rw [List.map_cons, Keyed.get?_cons, ih, List.find?_cons]
    by_cases h : d.name = name
    · simp [h]
    · rw [if_neg h, beq_eq_false_iff_ne.mpr h]

/-- The capabilities of a facade are a registry of its definitions. -/
theorem assemble_capabilities (service : String) (definitions : List Definition) (t : CallTarget) :
    (assemble service definitions t).capabilities =
      .ofEntries service (constructors definitions t) := by
  rw [assemble, Registry.ofEntries, constructors, List.foldl_map]

/-! ### Using a facade -/

/-- The facades that come from making one of a service for these definitions: that facade, what is
redirected from another one, whatever the resolver has come to by then, and what is left when a
capability has been asked for. -/
inductive Derived (r : Resolver) (service : String) (definitions : List Definition) :
    Facade → Prop where
  | made {f : Facade} {r' : Resolver} (h : make r service definitions = (.ok f, r')) :
    Derived r service definitions f
  | redirected {f g : Facade} {later : Resolver} {region : String}
    (source : Derived r service definitions f) (h : f.forRegion later region = .ok g) :
    Derived r service definitions g
  | asked {f g : Facade} {name : String} {i : Instance Capability}
    (source : Derived r service definitions f) (h : f.capability name = (.ok i, g)) :
    Derived r service definitions g

/-- The facade is one of the service for these definitions, and its capabilities are those at its
own target, some of which may have been built. -/
structure Offers (service : String) (definitions : List Definition) (f : Facade) : Prop where
  service_eq : f.service = service
  definitions_eq : f.definitions = definitions
  capabilities : ∃ asked,
    (Registry.ofEntries service (constructors definitions f.target)).Leads () asked
      f.capabilities ()

theorem offers_assemble (service : String) (definitions : List Definition) (t : CallTarget) :
    (assemble service definitions t).Offers service definitions where
  service_eq := rfl
  definitions_eq := rfl
  capabilities := by
    refine ⟨[], ?_⟩
    rw [assemble_capabilities]
    exact (Registry.leads_askAll (Registry.sound_ofEntries service _) () []).1

theorem redirected_eq {later : Resolver} {region : String} (h : f.forRegion later region = .ok g) :
    ∃ endpoint, g = assemble f.service f.definitions
      { handler := f.target.handler, override := some endpoint } := by
  obtain ⟨b, _, h⟩ := bind_eq_ok.mp h
  obtain ⟨endpoint, _, h⟩ := bind_eq_ok.mp h
  cases h
  exact ⟨endpoint, rfl⟩

/-- What has been built under a name is the last capability of the name. -/
private theorem Offers.isLast (h : f.Offers service definitions) {i : Instance Capability}
    (mem : i ∈ f.capabilities.built) :
    ∃ d, IsLast definitions i.name d ∧ i.value = ⟨d, f.target⟩ := by
  obtain ⟨asked, leads⟩ := h.capabilities
  obtain ⟨c, _, registered, value⟩ := leads.runs.exists_of_mem mem
  rw [get?_reverse_constructors] at registered
  obtain ⟨d, found, rfl⟩ := Option.map_eq_some_iff.mp registered
  exact ⟨d, isLast_iff.mpr found, value.symm⟩

/-- A facade gives the last capability of a name, at its own target, and goes on with what it has
built; it fails, and stays as it is, if there is none. -/
theorem Offers.capability_cases (h : f.Offers service definitions) (name : String) :
    ((∀ d ∈ definitions, d.name ≠ name) ∧
      f.capability name = (.error (.unknownCapability service name), f)) ∨
    ∃ d i capabilities, f.capability name = (.ok i, { f with capabilities }) ∧
      IsLast definitions name d ∧ i.value = ⟨d, f.target⟩ ∧
      Offers service definitions { f with capabilities } := by
  obtain ⟨asked, leads⟩ := h.capabilities
  rcases leads.sound.get_cases () name with
    ⟨missing, failed⟩ | ⟨i, later, _, got, step, mem, named⟩
  · -- what is not registered is not defined
    left
    rw [leads.get?_constructors_eq_none_iff, keys_constructors] at missing
    rw [capability, failed, leads.service_eq]
    refine ⟨?_, rfl⟩
    rintro d hd rfl
    exact missing (List.mem_map_of_mem hd)
  · -- what is given has been built by the last definition, now or before
    right
    have offers : Offers service definitions { f with capabilities := later } :=
      ⟨h.service_eq, h.definitions_eq, asked ++ [name], leads.trans step⟩
    obtain ⟨d, last, value⟩ := offers.isLast mem
    refine ⟨d, i, later, ?_, named ▸ last, value, offers⟩
    rw [capability, got]

/-- However a facade is used, it offers the same. -/
theorem Derived.offers (h : f.Derived r service definitions) : f.Offers service definitions := by
  induction h with
  | made h =>
    cases make_eq_iff.mp h with
    | made registered declared resolved => exact offers_assemble _ _ _
  | redirected source h ih =>
    -- it starts anew from the same definitions, at another endpoint
    obtain ⟨endpoint, rfl⟩ := redirected_eq h
    rw [ih.service_eq, ih.definitions_eq]
    exact offers_assemble _ _ _
  | asked source h ih =>
    rcases ih.capability_cases _ with ⟨_, failed⟩ | ⟨d, i, g, got, _, _, offers⟩
    · cases failed.symm.trans h
    · cases got.symm.trans h
      exact offers

/-- The first facade that the others come from has been made. -/
theorem Derived.declared (h : f.Derived r service definitions) :
    ∃ b, r.bindings.get? service = some b ∧
      ∀ d ∈ definitions, d.name ∈ b.descriptor.capabilities := by
  induction h with
  | made h =>
    cases make_eq_iff.mp h with
    | made registered declared resolved => exact ⟨_, registered, declared⟩
  | redirected source h ih => exact ih
  | asked source h ih => exact ih

theorem Offers.mem_capabilityNames_iff (h : f.Offers service definitions) {name : String} :
    name ∈ f.capabilityNames ↔ ∃ d ∈ definitions, d.name = name := by
  obtain ⟨asked, leads⟩ := h.capabilities
  rw [capabilityNames, leads.mem_names_iff, keys_constructors, List.mem_map]

theorem Offers.sorted_capabilityNames (h : f.Offers service definitions) :
    f.capabilityNames.Pairwise (· < ·) := by
  obtain ⟨asked, leads⟩ := h.capabilities
  exact leads.sorted_names

/-- Facades for the same definitions list the same names. -/
theorem Offers.capabilityNames_congr (hf : f.Offers service definitions)
    (hg : g.Offers service definitions) : g.capabilityNames = f.capabilityNames := by
  have order (names : List String) (sorted : names.Pairwise (· < ·)) : names.Nodup := by
    refine sorted.imp ?_
    intro a b before same
    subst same
    exact String.lt_irrefl a before
  have perm : g.capabilityNames.Perm f.capabilityNames := by
    rw [List.perm_ext_iff_of_nodup (order _ hg.sorted_capabilityNames)
      (order _ hf.sorted_capabilityNames)]
    intro name
    rw [hg.mem_capabilityNames_iff, hf.mem_capabilityNames_iff]
  -- of the orders in which names can stand only one is sorted
  refine perm.eq_of_pairwise ?_ hg.sorted_capabilityNames hf.sorted_capabilityNames
  intro a b _ _ before after
  exact absurd after (String.lt_asymm before)

/-- A facade can be made of a service that is registered, that declares all that is defined, and
that has a handler; the first of these that does not hold is what the error tells. Such a facade,
and any that comes from it by redirecting and by asking for capabilities, has a capability exactly
under the names that are defined, whatever else the service declares: the one that is defined last,
at the facade's own target. Any other name is answered with an error that names the service and the
name. The names that the facade lists are those that are defined, in order and each once; the
service declares them all, and they stay when the facade is redirected. -/
theorem facades_offer_last_definitions (r : Resolver) (service : String)
    (definitions : List Definition) :
    ((∃ f r', make r service definitions = (.ok f, r')) ↔
      ∃ b, r.bindings.get? service = some b ∧
        (∀ d ∈ definitions, d.name ∈ b.descriptor.capabilities) ∧
        ∃ h r', r.resolve service = (.ok h, r')) ∧
    (∀ outcome, make r service definitions = outcome ↔ Makes r service definitions outcome) ∧
    ∀ f : Facade, f.Derived r service definitions →
      (∀ name,
        ((∃ i g, f.capability name = (.ok i, g)) ↔ ∃ d ∈ definitions, d.name = name) ∧
        (∀ i g, f.capability name = (.ok i, g) →
          IsLast definitions name i.value.definition ∧ i.value.target = f.target) ∧
        ∀ e g, f.capability name = (.error e, g) →
          e = .unknownCapability service name ∧ g = f) ∧
      f.capabilityNames.Pairwise (· < ·) ∧
      (∀ name, name ∈ f.capabilityNames ↔ ∃ d ∈ definitions, d.name = name) ∧
      (∃ b, r.bindings.get? service = some b ∧
        ∀ name ∈ f.capabilityNames, name ∈ b.descriptor.capabilities) ∧
      ∀ later region g, f.forRegion later region = .ok g →
        g.capabilityNames = f.capabilityNames := by
  refine ⟨exists_make_iff_declared, fun _ => make_eq_iff, ?_⟩
  intro f derived
  -- the rest is read off what a facade offers, however it has been derived
  have offers := derived.offers
  refine ⟨?_, offers.sorted_capabilityNames, fun _ => offers.mem_capabilityNames_iff, ?_, ?_⟩
  · intro name
    -- a name is defined and given, or it is not defined and is refused
    rcases offers.capability_cases name with ⟨undefined, failed⟩ | ⟨d, i, _, got, last, value, _⟩
    · refine ⟨⟨?_, ?_⟩, ?_, ?_⟩
      · rintro ⟨i, g, got⟩
        cases failed.symm.trans got
      · rintro ⟨d, hd, named⟩
        exact absurd named (undefined d hd)
      · intro i g got
        cases failed.symm.trans got
      · intro e g he
        cases failed.symm.trans he
        exact ⟨rfl, rfl⟩
    · refine ⟨⟨?_, fun _ => ⟨i, _, got⟩⟩, ?_, ?_⟩
      · intro _
        obtain ⟨before, after, rfl, named, _⟩ := last
        exact ⟨d, by simp, named⟩
      · intro i' g' got'
        cases got.symm.trans got'
        rw [value]
        exact ⟨last, rfl⟩
      · intro e g he
        cases got.symm.trans he
  · obtain ⟨b, registered, declared⟩ := derived.declared
    -- the names that are listed are defined, and so they are declared
    refine ⟨b, registered, ?_⟩
    intro name hn
    obtain ⟨d, hd, rfl⟩ := offers.mem_capabilityNames_iff.mp hn
    exact declared d hd
  · intro later region g redirected
    exact offers.capabilityNames_congr (derived.redirected redirected).offers

/-! Three definitions of the compute service, two of which have one name. The facade is redirected,
and asked for a capability that is not defined though it is declared. -/

private def compute : Resolver :=
  Resolver.withService { context := .ofRegion "us-east-1" } (Ec2.binding .aws)

private def volumesTwice : List Definition :=
  [{ name := "volume", command := "DescribeVolumes" }, { name := "tag", command := "DescribeTags" },
   { name := "volume", command := "DescribeVolumeStatus" }]

theorem later_volume_is_offered :
    "instance" ∈ Ec2.descriptor.capabilities ∧
    ∃ f r' g, make compute "ec2" volumesTwice = (.ok f, r') ∧
      f.forRegion r' "cn-north-1" = .ok g ∧
      (∃ i h, g.capability "volume" = (.ok i, h) ∧
        i.value.definition.command = "DescribeVolumeStatus" ∧ i.value.target = g.target) ∧
      (∀ e h, g.capability "instance" = (.error e, h) →
        e = .unknownCapability "ec2" "instance" ∧ h = g) ∧
      g.capabilityNames = f.capabilityNames := by
  obtain ⟨_, _, offers⟩ := facades_offer_last_definitions compute "ec2" volumesTwice
  obtain ⟨f, r', hf⟩ : ∃ f r', make compute "ec2" volumesTwice = (.ok f, r') := ⟨_, _, rfl⟩
  obtain ⟨g, hg⟩ : ∃ g, f.forRegion r' "cn-north-1" = .ok g := by
    cases hf
    exact ⟨_, rfl⟩
  have made : Derived compute "ec2" volumesTwice f := .made hf
  obtain ⟨_, _, _, _, kept⟩ := offers f made
  obtain ⟨given, _⟩ := offers g (made.redirected hg)
  refine ⟨by decide, f, r', g, hf, hg, ?_, (given "instance").2.2, kept r' "cn-north-1" g hg⟩
  obtain ⟨i, h, got⟩ := (given "volume").1.mpr ⟨_, List.mem_cons_self, rfl⟩
  obtain ⟨last, target⟩ := (given "volume").2.1 i h got
  have found := isLast_iff.mp last
  have command := congrArg (Option.map (·.command)) found
  refine ⟨i, h, got, (Option.some.inj command).symm, target⟩

end Facade

end CloudApi
