import CloudApi.Proofs.QueryEnvelope

/-!
# Filters that are sent

Before a query is put into an envelope, the sets that its filter names come from are compared with
the capability's own set by the name of the resource. The texts of the names are not looked at
again. So what may be sent depends on the other sets that there are for the resource: if there is
none, as in the compute service, only names of the capability's set are sent; otherwise any text
may be.

## Key results

- `mem_sentFilters_envelopeOf`: an envelope holds no filters but those of the query
- `sent_filters_belong_to_resource`: what is known of the filters in an envelope
- `any_text_is_sent`: another set for the resource lets any text through
-/

namespace CloudApi

/-- The filters of a parameter. -/
def Param.sentFilters : Param → List Filter
  | .filters fs => fs
  | .scalar _ | .list _ => []

/-- The filters of an envelope. -/
def Envelope.sentFilters (e : Envelope) : List Filter := e.params.flatMap (·.2.sentFilters)

/-! ### Where they come from -/

private theorem mem_or_eq_of_mem_set {α : Type} {t : Keyed α} {name : String} {value : α}
    {p : String × α} (h : p ∈ t.set name value) : p ∈ t ∨ p.2 = value := by
  induction t with
  | nil =>
    rw [Keyed.set, List.mem_singleton] at h
    exact .inr (h ▸ rfl)
  | cons entry rest ih =>
    obtain ⟨k, v⟩ := entry
    unfold Keyed.set at h
    split at h
    · -- replaced here
      rcases List.mem_cons.mp h with rfl | h
      · exact .inr rfl
      · exact .inl (.tail _ h)
    · rcases List.mem_cons.mp h with rfl | h
      · exact .inl (.head _)
      · exact (ih h).imp_left (.tail _)

namespace Envelope

variable {e : Envelope} {f : Filter}

private theorem mem_sentFilters_set {name : String} {value : Param}
    (h : f ∈ (e.set name value).sentFilters) : f ∈ e.sentFilters ∨ f ∈ value.sentFilters := by
  obtain ⟨p, hp, hf⟩ := List.mem_flatMap.mp h
  rcases mem_or_eq_of_mem_set hp with hp | rfl
  · exact .inl (List.mem_flatMap.mpr ⟨p, hp, hf⟩)
  · exact .inr hf

private theorem mem_sentFilters_setScalar {name value : String}
    (h : f ∈ (e.setScalar name value).sentFilters) : f ∈ e.sentFilters :=
  (mem_sentFilters_set h).resolve_right nofun

private theorem mem_sentFilters_setList {name : String} {values : List String}
    (h : f ∈ (e.setList name values).sentFilters) : f ∈ e.sentFilters := by
  unfold setList at h
  split at h
  · exact h
  · exact (mem_sentFilters_set h).resolve_right nofun

private theorem mem_sentFilters_setFilters {name : String} {filters : List Filter}
    (h : f ∈ (e.setFilters name filters).sentFilters) : f ∈ e.sentFilters ∨ f ∈ filters := by
  unfold setFilters at h
  split at h
  · exact .inl h
  · exact mem_sentFilters_set h

/-- If no step adds a filter, no number of steps does. -/
private theorem mem_sentFilters_foldl {α : Type} {step : Envelope → α → Envelope}
    (h : ∀ e a, f ∈ (step e a).sentFilters → f ∈ e.sentFilters) (steps : List α)
    (hf : f ∈ (steps.foldl step e).sentFilters) : f ∈ e.sentFilters := by
  induction steps generalizing e with
  | nil => exact hf
  | cons a rest ih => exact h e a (ih hf)

end Envelope

/-- An envelope holds no filters but those of the query. -/
theorem mem_sentFilters_envelopeOf {d : Definition} {q : Query} {f : Filter}
    (h : f ∈ (Capability.envelopeOf d q).sentFilters) : f ∈ q.filters := by
  -- the parameters are set one after the other, and of these only one kind holds filters
  have lists := Envelope.mem_sentFilters_foldl
    (fun _ _ hf => Envelope.mem_sentFilters_setScalar hf) q.params h
  have own := Envelope.mem_sentFilters_foldl
    (fun _ _ hf => Envelope.mem_sentFilters_setList hf) q.lists lists
  refine (Envelope.mem_sentFilters_setFilters own).resolve_left fun hf => ?_
  -- before the filters there are identifiers at most
  cases hd : d.idParam with
  | none =>
    rw [hd] at hf
    exact nomatch hf
  | some param =>
    rw [hd] at hf
    exact nomatch Envelope.mem_sentFilters_setList hf

/-! ### Which names they have -/

private theorem nodup_resources : (Ec2.Names.all.map (·.resource)).Nodup := by decide

/-- Where no two sets are for one resource, the set for a name's resource is the name's own. -/
private theorem accepts_of_resource_eq {n : FilterName} {names : FilterNames}
    (same : n.resource = names.resource) {sets : List FilterNames}
    (distinct : (sets.map (·.resource)).Nodup) (hnames : names ∈ sets) (hn : n.names ∈ sets) :
    names.accepts n.text = true := by
  have one : n.names = names := List.inj_on_of_nodup_map distinct hn hnames same
  exact one ▸ n.accepted

/-- Every filter in an envelope is one of the query's, and its name comes from a set for the
resource of the capability's own set. Where no two sets are for one resource the capability's set
accepts the name; so it is in the compute service. A capability without filters sends none. -/
theorem sent_filters_belong_to_resource {c : Capability} {q : Query} {e : Envelope}
    (h : c.envelope q = .ok e) :
    (∀ f ∈ e.sentFilters, f ∈ q.filters ∧
      ∃ names, c.definition.filters = some names ∧ f.name.resource = names.resource ∧
        ∀ sets : List FilterNames, (sets.map (·.resource)).Nodup → names ∈ sets →
          f.name.names ∈ sets → names.accepts f.name.text = true) ∧
    (c.definition ∈ Ec2.definitions → ∀ f ∈ e.sentFilters, f.name.names ∈ Ec2.Names.all →
      ∃ names, c.definition.filters = some names ∧ names.accepts f.name.text = true) ∧
    (c.definition.filters = none → q.filters = [] ∧ e.sentFilters = []) := by
  obtain ⟨_, checked, rfl⟩ := Capability.envelope_eq_ok h
  -- the check has compared the resources, and so it has found a set of names
  have known (f : Filter) (hf : f ∈ q.filters) :
      ∃ names, c.definition.filters = some names ∧ f.name.resource = names.resource :=
    Capability.resource_of_takes (Capability.takes_of_checkFilters checked f hf)
  refine ⟨?_, ?_, ?_⟩
  · intro f hf
    have own := mem_sentFilters_envelopeOf hf
    obtain ⟨names, hd, same⟩ := known f own
    exact ⟨own, names, hd, same, fun sets distinct => accepts_of_resource_eq same distinct⟩
  · intro hc f hf listed
    obtain ⟨names, hd, same⟩ := known f (mem_sentFilters_envelopeOf hf)
    have shipped := Ec2.mem_all_of_mem_definitions hc hd
    exact ⟨names, hd, accepts_of_resource_eq same nodup_resources shipped listed⟩
  · intro none
    have empty : q.filters = [] := by
      refine List.eq_nil_iff_forall_not_mem.mpr fun f hf => ?_
      obtain ⟨names, hd, _⟩ := known f hf
      rw [none] at hd
      exact nomatch hd
    refine ⟨empty, List.eq_nil_iff_forall_not_mem.mpr fun f hf => ?_⟩
    have own := mem_sentFilters_envelopeOf hf
    rw [empty] at own
    exact nomatch own

/-! A query for volumes by a tag and by a listed name. -/

private def bySize : Filter := ⟨⟨Ec2.Names.volumes, "size", by decide⟩, ["8"]⟩

private def byOwner : Filter := ⟨⟨Ec2.Names.volumes, "tag:Owner", by decide⟩, []⟩

private def volumesEnvelope (filters : List Filter) : Envelope :=
  { command := "DescribeVolumes", params := [("Filter", .filters filters)] }

theorem volume_filters_are_accepted :
    (Ec2.volumesIn "us-east-1").envelope { filters := [bySize, byOwner] } =
      .ok (volumesEnvelope [bySize, byOwner]) ∧
    Ec2.Names.volumes.accepts "size" = true ∧ Ec2.Names.volumes.accepts "tag:Owner" = true := by
  have envelope : (Ec2.volumesIn "us-east-1").envelope { filters := [bySize, byOwner] } =
      .ok (volumesEnvelope [bySize, byOwner]) := rfl
  obtain ⟨_, compute, _⟩ := sent_filters_belong_to_resource envelope
  have shipped : Ec2.volumeDefinition ∈ Ec2.definitions := by simp [Ec2.definitions]
  have known : Ec2.Names.volumes ∈ Ec2.Names.all := Ec2.mem_all_of_mem_definitions shipped rfl
  have accepted (f : Filter) (hf : f ∈ [bySize, byOwner]) (hn : f.name.names = Ec2.Names.volumes) :
      Ec2.Names.volumes.accepts f.name.text = true := by
    obtain ⟨names, hd, accepts⟩ := compute shipped f hf (hn ▸ known)
    cases hd
    exact accepts
  exact ⟨envelope, accepted bySize (.head _) rfl, accepted byOwner (.tail _ (.head _)) rfl⟩

/-! ### Names of other sets -/

/-- The name is not looked at: a filter with any text passes, under a set of its own for the
capability's resource. -/
theorem any_text_is_sent {c : Capability} {names : FilterNames}
    (h : c.definition.filters = some names) (text : String) :
    ∃ f e, f.name.text = text ∧ c.envelope { filters := [f] } = .ok e ∧ f ∈ e.sentFilters := by
  -- a set of the same resource that lists nothing but this text
  let other : FilterNames :=
    { resource := names.resource, listed := [(text, text)], pattern := none }
  have accepted : other.accepts text = true := by
    simp [other, FilterNames.accepts, FilterNames.isListed]
  let f : Filter := ⟨⟨other, text, accepted⟩, []⟩
  have takes : c.takes f = true := by
    simp only [Capability.takes, h]
    exact beq_self_eq_true _
  have filters : c.checkFilters [f] = .ok () := by simp [Capability.checkFilters, takes]
  have ids : c.checkIds [] = .ok () := by
    unfold Capability.checkIds
    cases c.definition.maxIds <;> rfl
  refine ⟨f, Capability.envelopeOf c.definition { filters := [f] }, rfl, ?_, ?_⟩
  · simp only [Capability.envelope, ids, filters]
    rfl
  · -- without identifiers the filters are all there is
    unfold Capability.envelopeOf
    cases c.definition.idParam <;> exact .head _

/-- A name of another set for volumes. -/
private def byColour : Filter :=
  ⟨⟨{ resource := "volume", listed := [("colour", "colour")], pattern := none }, "colour",
    by decide⟩, ["red"]⟩

theorem colour_of_volume_is_sent :
    (Ec2.volumesIn "us-east-1").envelope { filters := [byColour] } =
      .ok (volumesEnvelope [byColour]) ∧
    byColour ∈ (volumesEnvelope [byColour]).sentFilters ∧
    (Ec2.volumesIn "us-east-1").definition.filters = some Ec2.Names.volumes ∧
    Ec2.Names.volumes.accepts byColour.name.text = false :=
  ⟨rfl, .head _, rfl, by decide⟩

end CloudApi
