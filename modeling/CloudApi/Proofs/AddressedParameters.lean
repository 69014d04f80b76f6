import CloudApi.Proofs.JoinedPairs

/-!
# Parameters that are found by their keys

A request is one flat list of pairs, and a value is found in it by its key. Where the names of an
envelope's parameters can be told apart from each other and from the keys that are made of them, no
key stands twice. So a key finds the one value that was put under it, and a number that is out of
range finds nothing.

## Key results

- `nodup_keys_flatMap`: groups of pairs have distinct keys, if a key tells its group
- `Envelope.nodup_keys_query`: the keys of an envelope's pairs are distinct in either style
- `Envelope.Numberable.param?_prepare_eq_some_iff`: a key of a parameter finds what the parameter's
  pairs have under it
- `numbered_parameters_are_addressed`: elements, filters and their values are found by their numbers
-/

namespace CloudApi

/-- Groups of pairs have distinct keys, if the keys of each group are distinct and groups that share
a key are the same. -/
theorem nodup_keys_flatMap {α β κ : Type} {f : α → Keyed β} {own : α → κ} {xs : List α}
    (distinct : (xs.map own).Nodup) (each : ∀ x ∈ xs, (f x).keys.Nodup)
    (apart : ∀ x ∈ xs, ∀ y ∈ xs, ∀ p ∈ f x, ∀ q ∈ f y, p.1 = q.1 → own x = own y) :
    (Keyed.keys (xs.flatMap f)).Nodup := by
  rw [Keyed.keys, List.map_flatMap, List.nodup_flatMap]
  -- two groups are disjoint, since a key in both of them would have them be the same
  refine ⟨each, (List.pairwise_map.mp distinct).imp_of_mem ?_⟩
  intro x y hx hy ne key hkx hky
  obtain ⟨p, hp, rfl⟩ := List.mem_map.mp hkx
  obtain ⟨q, hq, same⟩ := List.mem_map.mp hky
  exact ne (apart x hx y hy p hp q hq same.symm)

/-- The `i`-th element of a list, where the first one has the number one. -/
def nth? {α : Type} (xs : List α) : Nat → Option α
  | 0 => none
  | i + 1 => xs[i]?

namespace QueryStyle

/-! ### Numbers -/

/-- Numbering counts on from the first number. -/
theorem mem_numbered_iff {α : Type} {first i : Nat} {x : α} {xs : List α} :
    (i, x) ∈ numbered Prod.mk first xs ↔ ∃ k, i = first + k ∧ xs[k]? = some x := by
  induction xs generalizing first with
  | nil => simp [numbered]
  | cons y xs ih =>
    rw [numbered, List.mem_cons, ih, Prod.mk.injEq]
    constructor
    · rintro (⟨rfl, rfl⟩ | ⟨k, rfl, hk⟩)
      · exact ⟨0, rfl, rfl⟩
      · exact ⟨k + 1, by omega, by simpa using hk⟩
    · rintro ⟨k, rfl, hk⟩
      -- the first element has the first number, and the others count on from the next
      cases k with
      | zero => exact .inl ⟨rfl, (Option.some.inj hk).symm⟩
      | succ k => exact .inr ⟨k, by omega, by simpa using hk⟩

theorem mem_numbered_one_iff {α : Type} {i : Nat} {x : α} {xs : List α} :
    (i, x) ∈ numbered Prod.mk 1 xs ↔ nth? xs i = some x := by
  rw [mem_numbered_iff]
  constructor
  · rintro ⟨k, rfl, hk⟩
    rw [Nat.add_comm]
    exact hk
  · intro h
    cases i with
    | zero => cases h
    | succ i => exact ⟨i, Nat.add_comm i 1, h⟩

theorem elementKey_injective (name : String) : Function.Injective (elementKey name) := by
  intro i j h
  rw [elementKey, elementKey, String.append_right_inj] at h
  exact Nat.repr_injective h

theorem filterValueKey_injective (name : String) (i : Nat) :
    Function.Injective (filterValueKey name i) :=
  elementKey_injective _

theorem filterValueKey_eq (name : String) (i j : Nat) :
    filterValueKey name i j = elementKey name i ++ ".Value." ++ toString j := by
  have point : ".Value." = ".Value" ++ "." := rfl
  show elementKey name i ++ ".Value" ++ "." ++ toString j = _
  rw [point, ← String.append_assoc]

theorem filterNameKey_ne_filterValueKey (name : String) (i j : Nat) :
    filterNameKey name i ≠ filterValueKey name i j := by
  intro h
  rw [filterNameKey, filterValueKey_eq, String.append_assoc, String.append_right_inj] at h
  -- behind the number, one key goes on with the letter N and the other one with V
  have letters := congrArg String.toList h
  simp at letters

theorem filterNumber_filterNameKey (name : String) (i : Nat) :
    filterNumber name (filterNameKey name i) = (toString i).toList :=
  filterNumber_append name i rfl

theorem filterNumber_filterValueKey (name : String) (i j : Nat) :
    filterNumber name (filterValueKey name i j) = (toString i).toList := by
  rw [filterValueKey_eq, String.append_assoc]
  exact filterNumber_append name i (by simp)

/-- The number behind the opening bracket of a key is told by the key. -/
theorem number_eq_of_memberKey_eq {name part part' : String} {i j : Nat}
    (h : memberKey name i part = memberKey name j part') :
    (toString i).toList = (toString j).toList := by
  -- digits are no brackets, so the number ends at the closing one
  have number (k : Nat) (part : String) :
      owner ']' (toString k ++ ("]." ++ part)) = (toString k).toList :=
    owner_append (not_mem_toString rfl k) (by simp)
  simp only [memberKey, String.append_assoc, String.append_right_inj] at h
  rw [← number i part, ← number j part', h]

/-! ### Keys of one parameter -/

theorem nodup_keys_numbered {key : Nat → String} (injective : Function.Injective key) (first : Nat)
    (values : List String) :
    (Keyed.keys (numbered (fun i value => (key i, value)) first values)).Nodup := by
  have keys : Keyed.keys (numbered (fun i value => (key i, value)) first values) =
      (List.range' first values.length).map key := by
    rw [Keyed.keys, numbered_eq_map, List.map_map, ← map_fst_numbered, List.map_map]
    rfl
  rw [keys]
  have numbers : (List.range' first values.length).Nodup := List.nodup_range'
  exact numbers.map injective

/-- A value is found under a numbered key if it is the element of this number. -/
theorem mem_numbered_key_iff {key : Nat → String} (injective : Function.Injective key) {i : Nat}
    {text : String} {values : List String} :
    (key i, text) ∈ numbered (fun i value => (key i, value)) 1 values ↔
      nth? values i = some text := by
  rw [numbered_eq_map, List.mem_map, ← mem_numbered_one_iff]
  constructor
  · rintro ⟨⟨k, value⟩, hk, same⟩
    rw [Prod.mk.injEq] at same
    obtain ⟨numbers, rfl⟩ := same
    obtain rfl : k = i := injective numbers
    exact hk
  · intro h
    exact ⟨(i, text), h, rfl⟩

theorem mem_filterNameKey_iff {name text : String} {i : Nat} {f : Filter} :
    (filterNameKey name i, text) ∈ indexedFilter name i f ↔ f.name.text = text := by
  rw [indexedFilter, List.mem_cons, numbered_eq_map, List.mem_map]
  constructor
  · rintro (same | ⟨v, _, same⟩)
    · exact (congrArg Prod.snd same).symm
    · -- the key of a name is none of a value
      exact absurd (congrArg Prod.fst same).symm (filterNameKey_ne_filterValueKey name i v.1)
  · rintro rfl
    exact .inl rfl

theorem mem_filterValueKey_iff {name text : String} {i j : Nat} {f : Filter} :
    (filterValueKey name i j, text) ∈ indexedFilter name i f ↔ nth? f.values j = some text := by
  rw [indexedFilter, List.mem_cons, mem_numbered_key_iff (filterValueKey_injective name i)]
  constructor
  · rintro (same | found)
    · exact absurd (congrArg Prod.fst same).symm (filterNameKey_ne_filterValueKey name i j)
    · exact found
  · exact .inr

theorem nodup_keys_indexedFilter (name : String) (i : Nat) (f : Filter) :
    (Keyed.keys (indexedFilter name i f)).Nodup := by
  refine List.nodup_cons.mpr ⟨?_, nodup_keys_numbered (filterValueKey_injective name i) 1 f.values⟩
  intro h
  rw [numbered_eq_map, List.map_map, List.mem_map] at h
  obtain ⟨v, _, same⟩ := h
  exact filterNameKey_ne_filterValueKey name i v.1 same.symm

/-- A key of the `i`-th filter finds what the pairs of that filter have, if there is one. -/
theorem mem_indexedFilters_iff {name key text : String} {i : Nat} {fs : List Filter}
    (number : filterNumber name key = (toString i).toList) :
    (key, text) ∈ (numbered (indexedFilter name) 1 fs).flatten ↔
      ∃ f, nth? fs i = some f ∧ (key, text) ∈ indexedFilter name i f := by
  rw [flatten_numbered, List.mem_flatMap]
  constructor
  · rintro ⟨⟨k, f⟩, hk, found⟩
    have told := filterNumber_indexedFilter name k f _ found
    obtain rfl : k = i := Nat.repr_injective (String.toList_inj.mp (told.symm.trans number))
    exact ⟨f, mem_numbered_one_iff.mp hk, found⟩
  · rintro ⟨f, hf, found⟩
    exact ⟨(i, f), mem_numbered_one_iff.mpr hf, found⟩

/-- The keys of a parameter's pairs are distinct in the indexed style. -/
theorem nodup_keys_indexedPairs (name : String) (value : Param) :
    (Keyed.keys (indexedPairs name value)).Nodup := by
  cases value with
  | scalar text => exact List.nodup_singleton name
  | list values => exact nodup_keys_numbered (elementKey_injective name) 1 values
  | filters fs =>
    rw [indexedPairs, flatten_numbered]
    -- the keys of a filter tell its number, and the numbers are distinct
    refine nodup_keys_flatMap (nodup_numbers 1 fs) (fun p _ => nodup_keys_indexedFilter _ _ _) ?_
    intro p _ q _ a ha b hb same
    rw [← filterNumber_indexedFilter name p.1 p.2 a ha,
      ← filterNumber_indexedFilter name q.1 q.2 b hb, same]

/-- The keys of a parameter's pairs are distinct in the joined style. -/
theorem nodup_keys_joinedPairs (name : String) (value : Param) :
    (Keyed.keys (joinedPairs name value)).Nodup := by
  cases value with
  | scalar text => exact List.nodup_singleton name
  | list values => exact List.nodup_singleton name
  | filters fs =>
    rw [joinedPairs, flatten_numbered]
    -- a filter has two keys, and both tell its number
    refine nodup_keys_flatMap (nodup_numbers 0 fs) ?_ ?_
    · intro p _
      have parts : memberKey name p.1 "key" ≠ memberKey name p.1 "value" := by
        simp [memberKey]
      simpa [Keyed.keys, joinedFilter] using parts
    · intro p _ q _ a ha b hb same
      rcases List.mem_pair.mp ha with rfl | rfl <;> rcases List.mem_pair.mp hb with rfl | rfl
      all_goals exact number_eq_of_memberKey_eq same

theorem nodup_keys_pairs (style : QueryStyle) (name : String) (value : Param) :
    (Keyed.keys (style.pairs name value)).Nodup := by
  cases style with
  | indexed => exact nodup_keys_indexedPairs name value
  | joined => exact nodup_keys_joinedPairs name value

end QueryStyle

/-! ### Keys of all parameters -/

namespace Envelope

variable {e : Envelope}

/-- A key among the pairs of an envelope belongs to one of its parameters. -/
theorem exists_owner_of_mem_keys_query {style : QueryStyle}
    (names : ∀ name ∈ e.params.keys, style.mark ∉ name.toList) {key : String}
    (h : key ∈ Keyed.keys (e.query style)) :
    ∃ name ∈ e.params.keys, QueryStyle.owner style.mark key = name.toList := by
  obtain ⟨pair, hpair, rfl⟩ := List.mem_map.mp h
  obtain ⟨p, hp, hpair⟩ := List.mem_flatMap.mp hpair
  have known : p.1 ∈ e.params.keys := List.mem_map_of_mem hp
  exact ⟨p.1, known, QueryStyle.owner_pairs style (names p.1 known) p.2 pair hpair⟩

/-- Where names are distinct and can be told apart from what stands behind them, the keys of the
pairs are distinct. -/
theorem nodup_keys_query (distinct : e.params.keys.Nodup) (style : QueryStyle)
    (names : ∀ name ∈ e.params.keys, style.mark ∉ name.toList) :
    (Keyed.keys (e.query style)).Nodup := by
  have owned {p : String × Param} (hp : p ∈ e.params) :=
    QueryStyle.owner_pairs style (names p.1 (List.mem_map_of_mem hp)) p.2
  -- a key tells its parameter, and no two parameters have one name
  refine nodup_keys_flatMap (Keyed.nodup_map_toList distinct)
    (fun p _ => QueryStyle.nodup_keys_pairs style p.1 p.2) ?_
  intro p hp q hq a ha b hb same
  rw [← owned hp a ha, ← owned hq b hb, same]

/-- A key of a parameter finds what the pairs of this parameter have under it. -/
theorem get?_query_eq_some_iff (distinct : e.params.keys.Nodup) {style : QueryStyle}
    (names : ∀ name ∈ e.params.keys, style.mark ∉ name.toList) {name key text : String}
    {value : Param} (hp : (name, value) ∈ e.params)
    (own : QueryStyle.owner style.mark key = name.toList) :
    Keyed.get? (e.query style) key = some text ↔ (key, text) ∈ style.pairs name value := by
  rw [Keyed.get?_eq_some_iff (nodup_keys_query distinct style names), query, List.mem_flatMap]
  constructor
  · rintro ⟨⟨other, v⟩, hq, found⟩
    -- the pair is one of this parameter, since its key is
    have owner := QueryStyle.owner_pairs style (names other (List.mem_map_of_mem hq)) v _ found
    obtain rfl : other = name := String.toList_inj.mp (owner.symm.trans own)
    rwa [Keyed.eq_of_mem distinct hp hq]
  · intro found
    exact ⟨(name, value), hp, found⟩

/-- No name of a parameter holds a point, and none is that of the action or of the version. -/
def Numberable (e : Envelope) : Prop :=
  ∀ name ∈ e.params.keys, '.' ∉ name.toList ∧ name ≠ "Action" ∧ name ≠ "Version"

namespace Numberable

theorem mark_not_mem (h : e.Numberable) :
    ∀ name ∈ e.params.keys, QueryStyle.indexed.mark ∉ name.toList :=
  fun name known => (h name known).1

/-- No key of a parameter is that of the action or of the version. -/
private theorem not_header (h : e.Numberable) {name key : String} (known : name ∈ e.params.keys)
    (own : QueryStyle.owner '.' key = name.toList) : "Action" ≠ key ∧ "Version" ≠ key := by
  obtain ⟨_, action, version⟩ := h name known
  -- a key without a point is the whole name of its parameter
  have whole {other : String} (plain : '.' ∉ other.toList)
      (own : QueryStyle.owner '.' other = name.toList) : name = other := by
    rw [QueryStyle.owner_of_not_mem plain] at own
    exact (String.toList_inj.mp own).symm
  constructor
  · rintro rfl
    exact action (whole (by decide) own)
  · rintro rfl
    exact version (whole (by decide) own)

variable (provider : Provider) (endpoint : Endpoint) (version : Version)

theorem nodup_keys_prepare (h : e.Numberable) (distinct : e.params.keys.Nodup) :
    ((Protocol.ec2Query provider).prepare endpoint version e).params.keys.Nodup := by
  have apart (key : String) (hk : key ∈ Keyed.keys (e.query .indexed)) :
      "Action" ≠ key ∧ "Version" ≠ key := by
    obtain ⟨name, known, own⟩ := exists_owner_of_mem_keys_query h.mark_not_mem hk
    exact h.not_header known own
  have rest := nodup_keys_query distinct .indexed h.mark_not_mem
  -- the keys in front differ from each other and from all others
  refine List.nodup_cons.mpr ⟨?_, List.nodup_cons.mpr ⟨?_, rest⟩⟩
  · intro hm
    rcases List.mem_cons.mp hm with (same : "Action" = "Version") | hm
    · exact absurd same (by decide)
    · exact (apart _ hm).1 rfl
  · intro hm
    exact (apart _ hm).2 rfl

/-- A key of a parameter finds in the request what the pairs of this parameter have under it. -/
theorem param?_prepare_eq_some_iff (h : e.Numberable) (distinct : e.params.keys.Nodup)
    {name key text : String} {value : Param} (hp : (name, value) ∈ e.params)
    (own : QueryStyle.owner '.' key = name.toList) :
    ((Protocol.ec2Query provider).prepare endpoint version e).param? key = some text ↔
      (key, text) ∈ QueryStyle.indexedPairs name value := by
  obtain ⟨action, vers⟩ := h.not_header (List.mem_map_of_mem hp) own
  show Keyed.get? (("Action", e.command) :: ("Version", version.date) :: e.query .indexed) key =
    some text ↔ _
  rw [Keyed.get?_cons, if_neg action, Keyed.get?_cons, if_neg vers]
  exact get?_query_eq_some_iff distinct h.mark_not_mem hp own

end Numberable

end Envelope

/-- The parts of a parameter's value are found in a request: a single value under the name, the
elements of a list under their numbers, and the name and the values of a filter under the number of
the filter. A number that is out of range finds nothing. -/
def Prepared.Addresses (r : Prepared) (name : String) : Param → Prop
  | .scalar text => r.param? name = some text
  | .list values => ∀ i : Nat, r.param? (name ++ "." ++ toString i) = nth? values i
  | .filters fs => ∀ i : Nat,
    r.param? (name ++ "." ++ toString i ++ ".Name") = (nth? fs i).map (·.name.text) ∧
    ∀ j : Nat, r.param? (name ++ "." ++ toString i ++ ".Value." ++ toString j) =
      (nth? fs i).bind fun f => nth? f.values j

namespace Envelope

variable {e : Envelope}

theorem Numberable.addresses (h : e.Numberable) (distinct : e.params.keys.Nodup)
    (provider : Provider) (endpoint : Endpoint) (version : Version) {name : String} {value : Param}
    (hp : (name, value) ∈ e.params) :
    ((Protocol.ec2Query provider).prepare endpoint version e).Addresses name value := by
  have plain : '.' ∉ name.toList := (h name (List.mem_map_of_mem hp)).1
  have found {key text : String} (own : QueryStyle.owner '.' key = name.toList) :
      ((Protocol.ec2Query provider).prepare endpoint version e).param? key = some text ↔
        (key, text) ∈ QueryStyle.indexedPairs name value :=
    h.param?_prepare_eq_some_iff provider endpoint version distinct hp own
  cases value with
  -- a single value stands under the name itself, which holds no point
  | scalar text => exact (found (QueryStyle.owner_of_not_mem plain)).mpr (.head _)
  | list values =>
    intro i
    apply Option.ext
    intro text
    rw [← QueryStyle.mem_numbered_key_iff (QueryStyle.elementKey_injective name)]
    exact found (QueryStyle.owner_elementKey plain i)
  | filters fs =>
    -- a key leads to the filter of its number first, and then to the part of this filter
    intro i
    have part {key text : String} (own : QueryStyle.owner '.' key = name.toList)
        (number : QueryStyle.filterNumber name key = (toString i).toList) :
        ((Protocol.ec2Query provider).prepare endpoint version e).param? key = some text ↔
          ∃ f, nth? fs i = some f ∧ (key, text) ∈ QueryStyle.indexedFilter name i f :=
      (found own).trans (QueryStyle.mem_indexedFilters_iff number)
    refine ⟨?_, fun j => ?_⟩
    · apply Option.ext
      intro text
      refine (part (QueryStyle.owner_filterNameKey plain i)
        (QueryStyle.filterNumber_filterNameKey name i)).trans ?_
      rw [Option.map_eq_some_iff]
      exact exists_congr fun f => and_congr_right fun _ => QueryStyle.mem_filterNameKey_iff
    · apply Option.ext
      intro text
      have key : name ++ "." ++ toString i ++ ".Value." ++ toString j =
        QueryStyle.filterValueKey name i j := (QueryStyle.filterValueKey_eq name i j).symm
      rw [key, Option.bind_eq_some_iff]
      refine (part (QueryStyle.owner_filterValueKey plain i j)
        (QueryStyle.filterNumber_filterValueKey name i j)).trans ?_
      exact exists_congr fun f => and_congr_right fun _ => QueryStyle.mem_filterValueKey_iff

end Envelope

/-- Of an envelope that has been built, with names that hold no point and are not those of the
action and the version, the numbered request has distinct names of parameters. Each part of each
parameter is found in it under its number, and nothing is found under other numbers. In the joined
style the keys are distinct, too, as long as no name holds an opening bracket. -/
theorem numbered_parameters_are_addressed (command : String) (steps : List Envelope.Step) :
    let e := Envelope.build command steps
    (e.Numberable → ∀ provider endpoint version,
      let r := (Protocol.ec2Query provider).prepare endpoint version e
      r.params.keys.Nodup ∧
      ∀ name value, e.param? name = some value → r.Addresses name value) ∧
    ((∀ name ∈ e.params.keys, '[' ∉ name.toList) → (Keyed.keys (e.query .joined)).Nodup) := by
  intro e
  -- whatever the steps set, each name is held once
  have distinct := Envelope.nodup_keys_build command steps
  refine ⟨fun h provider endpoint version => ⟨?_, ?_⟩, ?_⟩
  · exact h.nodup_keys_prepare provider endpoint version distinct
  · intro name value held
    exact h.addresses distinct provider endpoint version (Keyed.mem_of_get?_eq_some held)
  · exact Envelope.nodup_keys_query distinct .joined

/-! Volumes with two filters, one of which has ten values, and with an empty list that has been set
as it is. The key of the first filter's tenth value is not that of a tenth filter. -/

private def volumeNames : FilterNames := { resource := "volume", listed := [("size", "size")] }

private def byTenSizes : Filter :=
  ⟨⟨volumeNames, "size", by decide⟩, ["0", "1", "2", "3", "4", "5", "6", "7", "8", "9"]⟩

private def byName : Filter := ⟨⟨volumeNames, "tag:Name", by decide⟩, ["web"]⟩

private def volumeSteps : List Envelope.Step :=
  [.list "VolumeId" ["vol-2", "vol-1"], .filters "Filter" [byTenSizes, byName],
    .set "Owner" (.list []), .scalar "MaxResults" "10"]

theorem volumes_are_addressed :
    let e := Envelope.build "DescribeVolumes" volumeSteps
    e.Numberable ∧ (Keyed.keys (e.query .joined)).Nodup ∧
    ∀ endpoint version,
      let r := (Protocol.ec2Query .aws).prepare endpoint version e
      r.param? "VolumeId.2" = some "vol-1" ∧ r.param? "VolumeId.0" = none ∧
      r.param? "Filter.2.Name" = some "tag:Name" ∧ r.param? "Filter.1.Value.10" = some "9" ∧
      r.param? "Filter.10.Name" = none ∧ r.param? "MaxResults" = some "10" := by
  intro e
  have keys : e.params.keys = ["VolumeId", "Filter", "Owner", "MaxResults"] := rfl
  have numberable : e.Numberable := by
    rw [Envelope.Numberable, keys]
    decide
  have names : ∀ name ∈ e.params.keys, '[' ∉ name.toList := by
    rw [keys]
    decide
  have both := numbered_parameters_are_addressed "DescribeVolumes" volumeSteps
  refine ⟨numberable, both.2 names, fun endpoint version => ?_⟩
  have addressed := (both.1 numberable .aws endpoint version).2
  have ids := addressed "VolumeId" _ rfl
  have filters := addressed "Filter" _ rfl
  exact ⟨ids 2, ids 0, (filters 2).1, (filters 1).2 10, (filters 10).1,
    addressed "MaxResults" _ rfl⟩

end CloudApi
