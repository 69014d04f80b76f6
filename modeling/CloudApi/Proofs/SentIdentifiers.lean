import CloudApi.CloudStack.Service
import CloudApi.Proofs.QueryEnvelope

/-!
# Identifiers that are sent

The identifiers of a query are counted before its envelope is made. The further lists of the query
are set after them and are not counted, and one of them may have the name of the parameter for
identifiers. So the limit of a capability holds as far as these lists keep to it.

## Key results

- `sets_of_param?`: where the value of a parameter comes from
- `valuesUnder_eq_ids`: the identifiers are sent where nothing else has their name
- `identifiers_are_limited`: what is known of the identifiers in an envelope
- `any_list_is_sent`: a further list takes the place of the identifiers, however long it is
-/

namespace CloudApi

/-- The texts that a parameter holds, one by one. -/
def Param.values : Param → List String
  | .scalar value => [value]
  | .list values => values
  | .filters _ => []

/-- The texts that are sent under a name. -/
def Envelope.valuesUnder (e : Envelope) (name : String) : List String :=
  ((e.param? name).map Param.values).getD []

namespace Envelope

variable {e : Envelope} {name : String}

theorem valuesUnder_of_some {value : Param} (h : e.param? name = some value) :
    e.valuesUnder name = value.values := by
  rw [valuesUnder, h]
  rfl

theorem valuesUnder_of_none (h : e.param? name = none) : e.valuesUnder name = [] := by
  rw [valuesUnder, h]
  rfl

end Envelope

/-- What a query can set a parameter to. -/
inductive Query.Sets (d : Definition) (q : Query) : String → Param → Prop where
  | ids {param : String} (h : d.idParam = some param) : Sets d q param (.list q.ids)
  | filters : Sets d q d.filterParam (.filters q.filters)
  | list {name : String} {values : List String} (h : (name, values) ∈ q.lists) :
    Sets d q name (.list values)
  | scalar {name text : String} (h : (name, text) ∈ q.params) : Sets d q name (.scalar text)

namespace Query

variable {d : Definition} {q : Query}

private theorem sets_of_mem_idEntries {p : String × Param} (h : p ∈ idEntries d q) :
    Sets d q p.1 p.2 := by
  unfold idEntries at h
  split at h
  · next param hd =>
    split at h
    · cases h
    · rw [List.mem_singleton.mp h]
      exact .ids hd
  · cases h

private theorem sets_of_mem_filterEntries {p : String × Param} (h : p ∈ filterEntries d q) :
    Sets d q p.1 p.2 := by
  unfold filterEntries at h
  split at h
  · cases h
  · rw [List.mem_singleton.mp h]
    exact .filters

theorem sets_of_mem_settings {p : String × Param} (h : p ∈ settings d q) : Sets d q p.1 p.2 := by
  -- the four kinds of settings stand one behind the other
  rcases List.mem_append.mp h with own | more
  · rcases List.mem_append.mp own with ids | filters
    · exact sets_of_mem_idEntries ids
    · exact sets_of_mem_filterEntries filters
  · rcases List.mem_append.mp more with lists | scalars
    · obtain ⟨l, hl, rfl⟩ := List.mem_map.mp lists
      exact .list (List.mem_of_mem_filter hl)
    · obtain ⟨s, hs, rfl⟩ := List.mem_map.mp scalars
      exact .scalar hs

/-- What a parameter holds is something that the query has set it to. -/
theorem sets_of_param? {name : String} {value : Param}
    (h : (Capability.envelopeOf d q).param? name = some value) : Sets d q name value := by
  rw [param?_envelopeOf] at h
  exact sets_of_mem_settings (List.mem_reverse.mp (Keyed.mem_of_get?_eq_some h))

/-- Where nothing else has their name the identifiers are sent as they are. -/
theorem valuesUnder_eq_ids {param : String} (hd : d.idParam = some param)
    (hf : param ≠ d.filterParam) (hq : param ∉ q.names) :
    (Capability.envelopeOf d q).valuesUnder param = q.ids := by
  cases found : (Capability.envelopeOf d q).param? param with
  | none =>
    -- then there are none, since they would have been set
    rw [Envelope.valuesUnder_of_none found]
    by_contra ids
    have set : (param, Param.list q.ids) ∈ settings d q := by
      have own : (param, Param.list q.ids) ∈ idEntries d q := by
        simp [idEntries, hd, Ne.symm ids]
      exact List.mem_append_left _ (List.mem_append_left _ own)
    obtain ⟨value, held⟩ := Keyed.exists_get?_of_mem (List.mem_reverse.mpr set)
    rw [param?_envelopeOf, held] at found
    cases found
  | some value =>
    rw [Envelope.valuesUnder_of_some found]
    -- what is held under the name has been set by one of the four, and only one has it
    cases sets_of_param? found with
    | ids => rfl
    | filters => exact absurd rfl hf
    | list hl => exact absurd (List.mem_append_left _ (List.mem_map_of_mem hl)) hq
    | scalar hs => exact absurd (List.mem_append_right _ (List.mem_map_of_mem hs)) hq

/-- More than one text is sent under a name for identifiers only if a further list has it. -/
private theorem replaced_of_one_lt {param : String} (hd : d.idParam = some param)
    (ids : q.ids.length ≤ 1)
    (more : 1 < ((Capability.envelopeOf d q).valuesUnder param).length) :
    ∃ values, (param, values) ∈ q.lists ∧
      (Capability.envelopeOf d q).param? param = some (.list values) := by
  cases found : (Capability.envelopeOf d q).param? param with
  | none =>
    rw [Envelope.valuesUnder_of_none found] at more
    exact absurd more (by decide)
  | some value =>
    rw [Envelope.valuesUnder_of_some found] at more
    -- several values come from a further list; the other kinds set one, or none
    cases sets_of_param? found with
    | ids => exact absurd ids (Nat.not_le.mpr more)
    | filters => exact absurd more (Nat.not_lt.mpr (Nat.zero_le 1))
    | @list _ values hl => exact ⟨values, hl, rfl⟩
    | scalar => exact absurd more (Nat.lt_irrefl 1)

end Query

/-- Identifiers that have been counted are within the limit. -/
theorem Capability.length_le_of_checkIds {c : Capability} {ids : List String} {max : Nat}
    (h : c.checkIds ids = .ok ()) (limit : c.definition.maxIds = some max) : ids.length ≤ max := by
  simp only [checkIds, limit] at h
  split at h
  · cases h
  · omega

/-- A capability without a parameter for identifiers is asked for none. One that takes a single
identifier is asked for no more, and it is sent no more unless a further list of the query stands
under the parameter's name; so it is sent no more if these lists keep to the limit, whatever else
the query sets. Where nothing else has the parameter's name the identifiers are sent as they
are. -/
theorem identifiers_are_limited {c : Capability} {q : Query} {e : Envelope}
    (h : c.envelope q = .ok e) :
    (c.definition.idParam = none → q.ids = []) ∧
    ∀ param, c.definition.idParam = some param →
      (c.definition.singleId = true →
        q.ids.length ≤ 1 ∧
        (1 < (e.valuesUnder param).length →
          ∃ values, (param, values) ∈ q.lists ∧ e.param? param = some (.list values)) ∧
        ((∀ l ∈ q.lists, l.1 = param → l.2.length ≤ 1) → (e.valuesUnder param).length ≤ 1)) ∧
      (param ≠ c.definition.filterParam → param ∉ q.names → e.valuesUnder param = q.ids) := by
  obtain ⟨counted, _, rfl⟩ := Capability.envelope_eq_ok h
  refine ⟨Capability.ids_eq_nil counted, fun param hd => ⟨fun single => ?_, ?_⟩⟩
  · -- a capability of one identifier has a limit of one
    have limit : c.definition.maxIds = some 1 := by simp [Definition.maxIds, hd, single]
    have ids := Capability.length_le_of_checkIds counted limit
    refine ⟨ids, Query.replaced_of_one_lt hd ids, fun within => ?_⟩
    by_contra more
    obtain ⟨values, hl, found⟩ := Query.replaced_of_one_lt hd ids (Nat.not_le.mp more)
    rw [Envelope.valuesUnder_of_some found] at more
    exact more (within _ hl rfl)
  · exact Query.valuesUnder_eq_ids hd

/-! A volume that is looked up by its identifier, with a list of two tags beside it. -/

private def volumeById : Capability :=
  { definition :=
      { name := "volume", command := "listVolumes", idParam := some "id", singleId := true }
    target := { handler := ⟨0, "cloudstack", ⟨"4.5"⟩, ⟨"http://cloud.local/client/api"⟩,
      .cloudStackQuery⟩ } }

private def taggedVolume : Query := { ids := ["v-1"], lists := [("tags", ["a", "b"])] }

private def taggedVolumeEnvelope : Envelope :=
  { command := "listVolumes", params := [("id", .list ["v-1"]), ("tags", .list ["a", "b"])] }

theorem one_volume_is_sent :
    volumeById.envelope taggedVolume = .ok taggedVolumeEnvelope ∧
    taggedVolumeEnvelope.valuesUnder "id" = taggedVolume.ids ∧
    (taggedVolumeEnvelope.valuesUnder "id").length ≤ 1 := by
  have envelope : volumeById.envelope taggedVolume = .ok taggedVolumeEnvelope := rfl
  obtain ⟨single, own⟩ := (identifiers_are_limited envelope).2 "id" rfl
  have short : ∀ l ∈ taggedVolume.lists, l.1 = "id" → l.2.length ≤ 1 := by decide
  exact ⟨envelope, own (by decide) (by decide), (single rfl).2.2 short⟩

/-! ### Lists in place of identifiers -/

/-- A further list under the parameter's name is not counted, so any number of identifiers may be
sent. -/
theorem any_list_is_sent {c : Capability} {param : String} (h : c.definition.idParam = some param)
    {values : List String} (ne : values ≠ []) :
    ∃ e, c.envelope { lists := [(param, values)] } = .ok e ∧ e.valuesUnder param = values := by
  -- no identifiers are within any limit
  have ids : c.checkIds [] = .ok () := by
    unfold Capability.checkIds
    cases c.definition.maxIds <;> rfl
  refine ⟨Capability.envelopeOf c.definition { lists := [(param, values)] }, ?_, ?_⟩
  · simp only [Capability.envelope, ids]
    rfl
  · -- without identifiers and filters the list is all there is
    have held : (Capability.envelopeOf c.definition { lists := [(param, values)] }).param? param =
        some (.list values) := by
      rw [Query.param?_envelopeOf]
      simp [Query.settings, Query.idEntries, Query.filterEntries, h, ne, Keyed.get?_cons]
    rw [Envelope.valuesUnder_of_some held]
    rfl

private def twoVolumes : Envelope :=
  { command := "listVolumes", params := [("id", .list ["v-1", "v-2"])] }

theorem two_volumes_are_sent :
    volumeById.definition ∈ CloudStack.definitions ∧
    volumeById.definition.idParam = some "id" ∧ volumeById.definition.singleId = true ∧
    volumeById.envelope { lists := [("id", ["v-1", "v-2"])] } = .ok twoVolumes ∧
    (twoVolumes.valuesUnder "id").length = 2 :=
  ⟨by simp [CloudStack.definitions, volumeById], rfl, rfl, rfl, rfl⟩

end CloudApi
