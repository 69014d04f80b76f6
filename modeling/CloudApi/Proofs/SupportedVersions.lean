import CloudApi.Proofs.Results
import CloudApi.Resolver

/-!
# Versions of descriptors that are built step by step

A descriptor begins with a current version and without pins. A step pins a provider to a version or
sets how public host names are made, and it fails only if the version is not supported. Of the pins
that have been made for a provider the last one is kept, and so it alone tells the version that the
provider uses.

What is supported in this way need not be checked again: resolving a service picks a version of its
descriptor, and the check that follows does not fail. It is another matter if a version is asked
for.

## Key results

- `Built.step`, `Built.foldlM`: what a step keeps, and what steps keep
- `exists_build_iff`: when a descriptor can be built
- `Built.versionFor`: the version that a provider uses
- `failsWith_resolve`, `resolveVersion_eq_unsupported_iff`: which calls fail for their version
- `built_versions_are_supported`: these together
-/

namespace CloudApi

namespace Descriptor

/-- A step in building a descriptor. -/
inductive Step where
  | pin (provider : Provider) (version : Version)
  | dns (pattern : DnsPattern)

/-- What a step pins, if anything. -/
def Step.pin? : Step → Option (Provider × Version)
  | .pin provider version => some (provider, version)
  | .dns _ => none

/-- The descriptor after a step. -/
def step (d : Descriptor) : Step → Except SetupError Descriptor
  | .pin provider version => d.pin provider version
  | .dns pattern => .ok (d.withDns pattern)

/-- The descriptor after these steps, in order. -/
def build (name : String) (capabilities : List String) (versions : List Version)
    (current : Version) (steps : List Step) : Except SetupError Descriptor :=
  make name capabilities versions current >>= steps.foldlM step

/-- The pins that steps make, in order. -/
def pinned (steps : List Step) : List (Provider × Version) := steps.filterMap Step.pin?

/-- The last of the pins that are for a provider. -/
def lastFor (pins : List (Provider × Version)) (provider : Provider) :
    Option (Provider × Version) :=
  (pins.filter (·.1 = provider)).getLast?

/-! ### Steps -/

/-- `d` has been built from these versions by steps that have made the pins in `made`. Of these it
has the last one for each provider, and no others. -/
structure Built (versions : List Version) (current : Version) (made : List (Provider × Version))
    (d : Descriptor) : Prop where
  versions : d.versions = versions
  current : d.current = current
  pins : ∀ provider, d.pins.filter (·.1 = provider) = (lastFor made provider).toList

variable {versions : List Version} {current : Version} {made : List (Provider × Version)}
  {d d' : Descriptor}

theorem exists_make_iff (name : String) (capabilities : List String) :
    (∃ d, make name capabilities versions current = .ok d) ↔ current ∈ versions := by
  unfold make
  by_cases h : current ∈ versions <;> simp [h]

theorem built_make {name : String} {capabilities : List String}
    (h : make name capabilities versions current = .ok d) : Built versions current [] d := by
  unfold make at h
  split at h
  · cases h
    exact ⟨rfl, rfl, fun _ => rfl⟩
  · cases h

/-- A new pin takes the place of an earlier one for its provider, and no other pin changes. -/
theorem filter_pin (pins : List (Provider × Version)) (p : Provider × Version)
    (provider : Provider) :
    (pins.filter (·.1 ≠ p.1) ++ [p]).filter (·.1 = provider) =
      if p.1 = provider then [p] else pins.filter (·.1 = provider) := by
  rw [List.filter_append, List.filter_filter]
  by_cases own : p.1 = provider
  · -- what has been kept is for other providers
    have none : pins.filter (fun q => decide (q.1 = provider) && decide (q.1 ≠ p.1)) = [] := by
      rw [List.filter_eq_nil_iff]
      intro q _
      simp [own]
    rw [none, if_pos own]
    simp [own]
  · -- a pin of another provider leaves the ones of this one alone
    have all : pins.filter (fun q => decide (q.1 = provider) && decide (q.1 ≠ p.1)) =
        pins.filter (·.1 = provider) := by
      apply List.filter_congr
      intro q _
      by_cases hq : q.1 = provider
      · simp [hq, Ne.symm own]
      · simp [hq]
    rw [all, if_neg own]
    simp [own]

theorem lastFor_append (made : List (Provider × Version)) (p : Provider × Version)
    (provider : Provider) :
    lastFor (made ++ [p]) provider =
      if p.1 = provider then some p else lastFor made provider := by
  unfold lastFor
  rw [List.filter_append]
  by_cases own : p.1 = provider <;> simp [own]

/-- A step fails only if it pins a version that is not supported. -/
theorem exists_step_iff (d : Descriptor) (s : Step) :
    (∃ d', d.step s = .ok d') ↔ ∀ p ∈ s.pin?, p.2 ∈ d.versions := by
  cases s with
  | dns pattern => simp [step, Step.pin?]
  | pin provider version => by_cases h : version ∈ d.versions <;> simp [step, pin, Step.pin?, h]

theorem Built.pin (hd : Built versions current made d) {p : Provider × Version}
    (h : d.pin p.1 p.2 = .ok d') : Built versions current (made ++ [p]) d' := by
  unfold Descriptor.pin at h
  split at h
  · cases h
    refine ⟨hd.versions, hd.current, fun provider => ?_⟩
    rw [filter_pin, hd.pins, lastFor_append]
    split <;> rfl
  · cases h

theorem Built.step (hd : Built versions current made d) {s : Step} (h : d.step s = .ok d') :
    Built versions current (made ++ s.pin?.toList) d' := by
  cases s with
  | pin provider version => exact hd.pin h
  | dns pattern =>
    -- the pins are those of before
    cases h
    rw [Step.pin?, Option.toList_none, List.append_nil]
    exact ⟨hd.versions, hd.current, hd.pins⟩

theorem pinned_cons (s : Step) (rest : List Step) :
    pinned (s :: rest) = s.pin?.toList ++ pinned rest := by
  unfold pinned
  rw [List.filterMap_cons]
  cases s.pin? <;> rfl

/-- After steps, of all the pins that have been made the last one for each provider is there. -/
theorem Built.foldlM (hd : Built versions current made d) {steps : List Step}
    (h : steps.foldlM Descriptor.step d = .ok d') :
    Built versions current (made ++ pinned steps) d' := by
  induction steps generalizing d made with
  | nil =>
    cases h
    rw [pinned, List.filterMap_nil, List.append_nil]
    exact hd
  | cons s rest ih =>
    rw [List.foldlM_cons] at h
    obtain ⟨d₁, first, h⟩ := bind_eq_ok.mp h
    -- the pin of the first step comes before those of the rest
    rw [pinned_cons, ← List.append_assoc]
    exact ih (hd.step first) h

/-- Steps fail only if one of them pins a version that is not supported. -/
theorem exists_foldlM_iff (hd : Built versions current made d) (steps : List Step) :
    (∃ d', steps.foldlM Descriptor.step d = .ok d') ↔ ∀ p ∈ pinned steps, p.2 ∈ versions := by
  induction steps generalizing d made with
  | nil =>
    have none : ∀ p ∈ pinned [], p.2 ∈ versions := by simp [pinned]
    exact iff_of_true ⟨d, rfl⟩ none
  | cons s rest ih =>
    -- the first step fails only for its own pin
    have first := exists_step_iff d s
    rw [hd.versions] at first
    have split : (∀ p ∈ pinned (s :: rest), p.2 ∈ versions) ↔
        (∀ p ∈ s.pin?, p.2 ∈ versions) ∧ ∀ p ∈ pinned rest, p.2 ∈ versions := by
      rw [pinned_cons, List.forall_mem_append]
      simp only [Option.mem_toList, Option.mem_def]
    rw [split, ← first, List.foldlM_cons]
    constructor
    · intro built
      obtain ⟨d', h⟩ := built
      obtain ⟨d₁, hs, h⟩ := bind_eq_ok.mp h
      exact ⟨⟨d₁, hs⟩, (ih (hd.step hs)).mp ⟨d', h⟩⟩
    · intro supported
      obtain ⟨⟨d₁, hs⟩, others⟩ := supported
      obtain ⟨d', h⟩ := (ih (hd.step hs)).mpr others
      exact ⟨d', bind_eq_ok.mpr ⟨d₁, hs, h⟩⟩

/-! ### From the first step on -/

variable {name : String} {capabilities : List String} {steps : List Step}

theorem built_build (h : build name capabilities versions current steps = .ok d) :
    Built versions current (pinned steps) d := by
  obtain ⟨d₀, made, h⟩ := bind_eq_ok.mp h
  exact (built_make made).foldlM h

/-- A descriptor can be built exactly if all its versions are supported. -/
theorem exists_build_iff :
    (∃ d, build name capabilities versions current steps = .ok d) ↔
      current ∈ versions ∧ ∀ p ∈ pinned steps, p.2 ∈ versions := by
  rw [← exists_make_iff name capabilities]
  -- building is making and then the steps
  constructor
  · intro built
    obtain ⟨d, h⟩ := built
    obtain ⟨d₀, made, h⟩ := bind_eq_ok.mp h
    exact ⟨⟨d₀, made⟩, (exists_foldlM_iff (built_make made) steps).mp ⟨d, h⟩⟩
  · intro supported
    obtain ⟨⟨d₀, made⟩, pins⟩ := supported
    obtain ⟨d, h⟩ := (exists_foldlM_iff (built_make made) steps).mpr pins
    exact ⟨d, bind_eq_ok.mpr ⟨d₀, made, h⟩⟩

/-- The entry that is looked up is the first of those that fit. -/
theorem lookup_eq_head? (pins : List (Provider × Version)) (provider : Provider) :
    pins.lookup provider = (pins.filter (·.1 = provider)).head?.map (·.2) := by
  induction pins with
  | nil => rfl
  | cons p rest ih =>
    obtain ⟨other, version⟩ := p
    rw [List.lookup_cons, ih]
    -- the first pin of the provider is found by both
    by_cases own : other = provider
    · simp [own]
    · have differ : (provider == other) = false := by simpa using Ne.symm own
      rw [differ, List.filter_cons_of_neg (by simpa using own)]

/-- A provider uses the version that it has been pinned to last, or the current one. -/
theorem Built.versionFor (hd : Built versions current made d) (provider : Provider) :
    d.versionFor provider = ((lastFor made provider).map (·.2)).getD current := by
  rw [Descriptor.versionFor, lookup_eq_head?, hd.pins, hd.current]
  cases lastFor made provider <;> rfl

/-- Whatever version a provider uses, it is supported. -/
theorem versionFor_mem (d : Descriptor) (provider : Provider) :
    d.versionFor provider ∈ d.versions := by
  unfold Descriptor.versionFor
  cases found : d.pins.lookup provider with
  | none => exact d.current_mem
  | some version =>
    obtain ⟨before, after, pins, _⟩ := List.lookup_eq_some_iff.mp found
    exact d.pins_mem (provider, version) (pins ▸ List.mem_append_right before List.mem_cons_self)

end Descriptor

/-! ### Resolving -/

/-- The error tells of a version that is not supported. -/
def SetupError.IsUnsupported (e : SetupError) : Prop :=
  ∃ service version supported, e = .unsupportedVersion service version supported

namespace Resolver

variable (r : Resolver)

private theorem failsWith_binding (service : String) :
    FailsWith (¬·.IsUnsupported) (r.binding service) := by
  unfold binding
  split
  · exact failsWith_ok _
  · apply failsWith_error
    simp [SetupError.IsUnsupported]

private theorem failsWith_publicEndpoint (d : Descriptor) (region : Option String) :
    FailsWith (¬·.IsUnsupported) (publicEndpoint d region) := by
  unfold publicEndpoint
  split
  · exact failsWith_ok _
  · apply failsWith_error
    simp [SetupError.IsUnsupported]

private theorem failsWith_endpoint (d : Descriptor) (region : Option String) :
    FailsWith (¬·.IsUnsupported) (r.endpoint d region) := by
  -- an endpoint is public or configured, and it may be missing; no version is looked at
  unfold endpoint
  split
  · exact failsWith_publicEndpoint d _
  · split
    · exact failsWith_publicEndpoint d _
    · split
      · exact failsWith_ok _
      · apply failsWith_error
        simp [SetupError.IsUnsupported]

/-- A handler at a version of the descriptor may fail for its endpoint, but not for its version. -/
theorem failsWith_handler {b : Binding} {version : Version}
    (supported : version ∈ b.descriptor.versions) :
    FailsWith (¬·.IsUnsupported) (r.handler b version).1 := by
  -- the check is the only step that could fail for the version
  have checked : b.descriptor.ensureSupported version = .ok () := if_pos supported
  have built : FailsWith (¬·.IsUnsupported) (r.build b version) := by
    unfold build
    rw [checked]
    exact (failsWith_endpoint r b.descriptor none).bind fun _ => failsWith_ok _
  unfold handler
  split
  · -- a handler that is kept is not checked at all
    exact failsWith_ok _
  · split
    · exact failsWith_ok _
    · next e refused => exact failsWith_error (built e refused)

/-- The version of a descriptor's policy is not refused. -/
theorem failsWith_resolve (service : String) :
    FailsWith (¬·.IsUnsupported) (r.resolve service).1 := by
  unfold resolve
  split
  · next b registered =>
    exact failsWith_handler r (b.descriptor.versionFor_mem r.context.provider)
  · next e unknown => exact failsWith_error (failsWith_binding r service e unknown)

private theorem resolveVersion_of_unknown {service : String} {e : SetupError}
    (unknown : r.binding service = .error e) (version : String) :
    r.resolveVersion service version = (.error e, r) := by
  unfold resolveVersion
  rw [unknown]

/-- A version that the service does not support is refused before a handler is looked for. -/
private theorem resolveVersion_of_unsupported {service version : String} {b : Binding}
    (registered : r.binding service = .ok b)
    (missing : version ∉ b.descriptor.versions.map (·.text)) :
    r.resolveVersion service version =
      (.error (Descriptor.unsupported service ⟨version⟩ b.descriptor.versions), r) := by
  have none : b.descriptor.versions.find? (·.text == version) = none := by
    rw [List.find?_eq_none]
    intro v mem same
    exact missing (beq_iff_eq.mp same ▸ List.mem_map_of_mem mem)
  simp only [resolveVersion, registered, none]

/-- A version that it supports is not refused as one that it does not. -/
private theorem failsWith_resolveVersion {service version : String} {b : Binding}
    (registered : r.binding service = .ok b)
    (listed : version ∈ b.descriptor.versions.map (·.text)) :
    FailsWith (¬·.IsUnsupported) (r.resolveVersion service version).1 := by
  cases found : b.descriptor.versions.find? (·.text == version) with
  | some v =>
    have resolved : r.resolveVersion service version = r.handler b v := by
      simp only [resolveVersion, registered, found]
    rw [resolved]
    exact failsWith_handler r (List.mem_of_find?_eq_some found)
  | none =>
    -- it would have been found by its text
    obtain ⟨v, mem, same⟩ := List.mem_map.mp listed
    exact absurd (beq_iff_eq.mpr same) (List.find?_eq_none.mp found v mem)

/-- A version that is asked for is refused exactly if the service is there and does not support it;
the error tells both, and what is supported instead. -/
theorem resolveVersion_eq_unsupported_iff (service version service' version' : String)
    (supported : List String) :
    (r.resolveVersion service version).1 =
        .error (.unsupportedVersion service' version' supported) ↔
      service' = service ∧ version' = version ∧
        ∃ b, r.binding service = .ok b ∧ supported = b.descriptor.versions.map (·.text) ∧
          version ∉ supported := by
  constructor
  · intro refused
    cases hb : r.binding service with
    | error e =>
      -- a service that is unknown has no versions to tell
      rw [resolveVersion_of_unknown r hb, Except.error.injEq] at refused
      exact absurd ⟨_, _, _, refused⟩ (failsWith_binding r service e hb)
    | ok b =>
      by_cases listed : version ∈ b.descriptor.versions.map (·.text)
      · exact absurd ⟨_, _, _, rfl⟩ (failsWith_resolveVersion r hb listed _ refused)
      · rw [resolveVersion_of_unsupported r hb listed, Descriptor.unsupported,
          Except.error.injEq, SetupError.unsupportedVersion.injEq] at refused
        obtain ⟨rfl, rfl, rfl⟩ := refused
        exact ⟨rfl, rfl, b, rfl, rfl, listed⟩
  · rintro ⟨rfl, rfl, b, hb, rfl, missing⟩
    rw [resolveVersion_of_unsupported r hb missing]
    rfl

end Resolver

/-- A descriptor can be built exactly if its current version and all that are pinned are supported.
A provider then uses the version that it was pinned to last, or the current one; this version is
supported; and the provider has no pin but the last. Therefore no resolver, whatever its settings
and whatever it has built, fails to resolve a service for a version that is not supported. If a
version is asked for it fails so exactly if it knows the service and the version is not among those
that the service supports. -/
theorem built_versions_are_supported (name : String) (capabilities : List String)
    (versions : List Version) (current : Version) (steps : List Descriptor.Step) :
    ((∃ d, Descriptor.build name capabilities versions current steps = .ok d) ↔
      current ∈ versions ∧ ∀ p ∈ Descriptor.pinned steps, p.2 ∈ versions) ∧
    (∀ d, Descriptor.build name capabilities versions current steps = .ok d →
      d.versions = versions ∧
      ∀ provider,
        let last := Descriptor.lastFor (Descriptor.pinned steps) provider
        d.versionFor provider = (last.map (·.2)).getD current ∧
        d.versionFor provider ∈ versions ∧
        d.pins.filter (·.1 = provider) = last.toList) ∧
    ∀ (r : Resolver) (service : String),
      (∀ e, (r.resolve service).1 = .error e → ¬e.IsUnsupported) ∧
      ∀ version service' version' supported,
        (r.resolveVersion service version).1 =
            .error (.unsupportedVersion service' version' supported) ↔
          service' = service ∧ version' = version ∧
            ∃ b, r.binding service = .ok b ∧ supported = b.descriptor.versions.map (·.text) ∧
              version ∉ supported := by
  refine ⟨Descriptor.exists_build_iff, ?_, ?_⟩
  · intro d h
    have built := Descriptor.built_build h
    refine ⟨built.versions, fun provider => ⟨built.versionFor provider, ?_, built.pins provider⟩⟩
    rw [← built.versions]
    exact d.versionFor_mem provider
  · intro r service
    exact ⟨r.failsWith_resolve service, r.resolveVersion_eq_unsupported_iff service⟩

/-! A service with two versions, where one provider is pinned to the one and then to the other. -/

private def oldVersion : Version := ⟨"20130201"⟩

private def newVersion : Version := ⟨"20140615"⟩

private def repinned : List Descriptor.Step :=
  [.pin .eucalyptus oldVersion, .dns { host := "compute", suffix := "example.com" },
   .pin .aws oldVersion, .pin .eucalyptus newVersion]

private def repinnedCompute : Descriptor where
  name := "compute"
  capabilities := ["volume"]
  versions := [oldVersion, newVersion]
  current := newVersion
  pins := [(.aws, oldVersion), (.eucalyptus, newVersion)]
  dns := some { host := "compute", suffix := "example.com" }
  current_mem := by decide
  pins_mem := by decide
  pins_nodup := by decide

theorem repinned_provider_uses_last_pin :
    Descriptor.build "compute" ["volume"] [oldVersion, newVersion] newVersion repinned =
      .ok repinnedCompute ∧
    repinnedCompute.versionFor .eucalyptus = newVersion ∧
    repinnedCompute.versionFor .aws = oldVersion ∧
    repinnedCompute.pins.filter (·.1 = .eucalyptus) = [(.eucalyptus, newVersion)] ∧
    ((Resolver.withService { context := .ofRegion "us-east-1" }
        ⟨repinnedCompute, .ec2Query .aws⟩).resolveVersion "compute" "2013").1 =
      .error (.unsupportedVersion "compute" "2013" ["20130201", "20140615"]) := by
  have built : Descriptor.build "compute" ["volume"] [oldVersion, newVersion] newVersion repinned =
      .ok repinnedCompute := rfl
  obtain ⟨_, versions, resolvers⟩ := built_versions_are_supported "compute" ["volume"]
    [oldVersion, newVersion] newVersion repinned
  obtain ⟨_, used⟩ := versions repinnedCompute built
  have registered : (Resolver.withService { context := .ofRegion "us-east-1" }
      ⟨repinnedCompute, .ec2Query .aws⟩).binding "compute" =
      .ok ⟨repinnedCompute, .ec2Query .aws⟩ := rfl
  exact ⟨built, (used .eucalyptus).1, (used .aws).1, (used .eucalyptus).2.2,
    ((resolvers _ "compute").2 "2013" "compute" "2013" _).mpr
      ⟨rfl, rfl, _, registered, rfl, by decide⟩⟩

end CloudApi
