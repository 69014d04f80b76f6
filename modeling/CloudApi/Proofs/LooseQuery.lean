import CloudApi.Proofs.FilterTexts
import CloudApi.Proofs.LooseLists

/-!
# Queries written as loose values

A query with identifiers and filters can be written with loose values in several ways: wherever a
list has a single item, the item may stand in its place. `Query.Written` says what all the ways
are. Each of them is read back as the query, since the wire text of each filter means its name.

## Key results

- `Loose.Written.readList_eq`: a list that is written in any way is read back, if its items are
- `Filter.Written.ofLoose_eq`: so is a filter, under the names of the compute service
- `written_query_reads_back`: and so is a query
-/

namespace CloudApi

/-- `v` is the list of what is written for these items, or what is written for the only one. -/
inductive Loose.Written {α : Type} (item : α → Loose → Prop) : List α → Loose → Prop where
  | list {xs : List α} {vs : List Loose} (h : List.Forall₂ item xs vs) : Written item xs (.list vs)
  | alone {x : α} {v : Loose} (h : item x v) : Written item [x] v

/-- Texts are written as they are. -/
abbrev Loose.WrittenTexts : List String → Loose → Prop := Written fun s v => v = .text s

/-- A filter is written as a map that gives the wire text of its name, and its values. -/
def Filter.Written (f : Filter) (v : Loose) : Prop :=
  ∃ values, Loose.WrittenTexts f.values values ∧
    v = .ofEntries [("name", .text f.name.text), ("value", values)]

/-- A query that has nothing but identifiers and filters is written as two lists. -/
structure Query.Written (q : Query) (ids filters : Loose) : Prop where
  ids : Loose.WrittenTexts q.ids ids
  filters : Loose.Written Filter.Written q.filters filters
  lists : q.lists = []
  params : q.params = []

namespace Loose

variable {ε α : Type} {item : α → Loose → Prop} {read : Loose → Except ε α} {wrap : Nat → ε → ε}

private theorem read_of_forall₂ {xs : List α} {vs : List Loose} (h : List.Forall₂ item xs vs)
    (reads : ∀ x ∈ xs, ∀ v, item x v → read v = .ok x) :
    List.Forall₂ (fun v x => read v = .ok x) vs xs := by
  induction h with
  | nil => exact .nil
  | @cons x v xs vs hx _ ih =>
    exact .cons (reads x (.head _) v hx) (ih fun y hy => reads y (.tail _ hy))

/-- A list is read back if each of its items is, and if no item is a list itself. -/
theorem Written.readList_eq {xs : List α} {v : Loose} (h : Written item xs v)
    (reads : ∀ x ∈ xs, ∀ v, item x v → read v = .ok x)
    (single : ∀ x v, item x v → ∀ vs, v ≠ .list vs) : readList read wrap v = .ok xs := by
  cases h with
  | list h => exact readItems_eq_ok_iff.mpr (read_of_forall₂ h reads)
  | @alone x v h =>
    rw [readList_of_ne_list (single x v h), reads x (.head _) v h]
    rfl

theorem WrittenTexts.toList_eq {texts : List String} {v : Loose} (h : WrittenTexts texts v) :
    v.toList String = .ok texts := by
  refine Written.readList_eq h ?_ ?_
  · rintro x _ _ rfl
    rfl
  · rintro x _ rfl
    exact nofun

end Loose

theorem Filter.Written.ofLoose_eq {f : Filter} {v : Loose} (h : f.Written v)
    (apart : Ec2.StandsApart f.name.names) : ofLoose f.name.names v = .ok f := by
  obtain ⟨values, texts, rfl⟩ := h
  -- the map is sorted, so its entries are told by what is found in it
  let entries : Keyed Loose := .ofList [("name", .text f.name.text), ("value", values)]
  have named : entries.get? "name" = some (.text f.name.text) :=
    (Keyed.get?_insert_of_ne (by simp)).trans (Keyed.get?_insert_self ..)
  have valued : entries.get? "value" = some values := Keyed.get?_insert_self ..
  -- the wire text of a name is not taken for a symbol or a call
  have name : nameOfEntries f.name.names entries = .ok f.name := by
    simp only [nameOfEntries, named]
    exact Ec2.resolve_text apart
  have texts : valuesOfEntries entries = .ok f.values := by
    simp only [valuesOfEntries, valued, Option.some_or]
    exact texts.toList_eq
  exact bind_eq_ok.mpr ⟨_, name, bind_eq_ok.mpr ⟨_, mapError_eq_ok.mpr texts, rfl⟩⟩

namespace Capability

variable {c : Capability} {q : Query} {ids filters : Loose}

private theorem filtersOfLoose_eq {names : FilterNames} (hc : c.definition.filters = some names)
    (apart : Ec2.StandsApart names) {fs : List Filter} (own : ∀ f ∈ fs, f.name.names = names)
    (h : Loose.Written Filter.Written fs filters) : c.filtersOfLoose filters = .ok fs := by
  -- all filters have names of the one set that they are read with
  have read : Filter.listOfLoose names filters = .ok fs := by
    refine h.readList_eq ?_ ?_
    · intro f hf v hv
      have e := own f hf
      subst e
      exact hv.ofLoose_eq apart
    · rintro f _ ⟨_, _, rfl⟩
      exact nofun
  unfold filtersOfLoose
  split
  · -- an empty list is taken without looking at the names
    exact read
  · rw [hc]
    exact read

end Capability

/-- A query for a capability of the compute service that has nothing but identifiers and filters,
under names of the capability's set, is read back from however it is written with loose values.
So the loose call and the typed one prepare the same request, or fail with the same error. -/
theorem written_query_reads_back {d : Definition} (hd : d ∈ Ec2.definitions) (t : CallTarget)
    {names : FilterNames} (filtered : d.filters = some names) {q : Query}
    (own : ∀ f ∈ q.filters, f.name.names = names) {ids filters : Loose}
    (h : q.Written ids filters) :
    let c : Capability := ⟨d, t⟩
    c.queryOfLoose ids filters = .ok q ∧
    c.queryOfLoose ids filters >>= c.prepare = c.prepare q ∧
    ∀ l, c.describeLoose ids filters l = c.describe q l := by
  intro c
  have apart := Ec2.standsApart_of_mem_all names (Ec2.mem_all_of_mem_definitions hd filtered)
  -- identifiers and filters are read apart, and nothing else of the query is loose
  have read : c.queryOfLoose ids filters = .ok q := by
    refine bind_eq_ok.mpr ⟨q.ids, mapError_eq_ok.mpr h.ids.toList_eq, ?_⟩
    refine bind_eq_ok.mpr ⟨q.filters, Capability.filtersOfLoose_eq filtered apart own h.filters, ?_⟩
    obtain ⟨_, _, lists, params⟩ := h
    obtain ⟨_, _, _, _⟩ := q
    subst lists params
    rfl
  refine ⟨read, ?_, fun l => ?_⟩
  · rw [read]
    rfl
  · unfold Capability.describeLoose
    rw [read]

/-! A query for volumes whose identifier stands alone. The key of the first filter looks like a call
of the second one's symbol, and the second filter's value stands alone. -/

private def byKey : Filter :=
  ⟨⟨Ec2.Names.volumes, "tag:attachmentDevice('size')", by decide⟩, ["8", ""]⟩

private def byDevice : Filter := ⟨⟨Ec2.Names.volumes, "attachment.device", by decide⟩, ["tag:a()"]⟩

private def looseFilters : Loose :=
  .list
    [.ofEntries
      [("name", .text "tag:attachmentDevice('size')"), ("value", .list [.text "8", .text ""])],
     .ofEntries [("name", .text "attachment.device"), ("value", .text "tag:a()")]]

private def volumeQuery : Query := { ids := ["vol-1"], filters := [byKey, byDevice] }

theorem volume_query_reads_back :
    (Ec2.volumesIn "us-east-1").queryOfLoose (.text "vol-1") looseFilters = .ok volumeQuery := by
  have key : byKey.Written _ := ⟨_, .list (.cons rfl (.cons rfl .nil)), rfl⟩
  have device : byDevice.Written _ := ⟨_, .alone rfl, rfl⟩
  have written : volumeQuery.Written (.text "vol-1") looseFilters :=
    ⟨.alone rfl, .list (.cons key (.cons device .nil)), rfl, rfl⟩
  have own : ∀ f ∈ volumeQuery.filters, f.name.names = Ec2.Names.volumes := by
    intro f hf
    rcases List.mem_pair.mp hf with rfl | rfl <;> rfl
  have shipped : Ec2.volumeDefinition ∈ Ec2.definitions := by simp [Ec2.definitions]
  exact (written_query_reads_back shipped _ rfl own written).1

end CloudApi
