import CloudApi.Request.Query
import Mathlib

/-!
# Keys of query pairs

All parameters of an envelope share one flat list of pairs. This file is about what the keys
say of it: which pairs belong to one parameter, and what the parameter was.

Filter names count by their text here, since nothing else of them is sent: `Param.plain` and
`Envelope.plain` are the parameters seen in this way.

## Key results

- `map_eq_of_flatMap_eq`: groups of pairs whose owners differ can be told apart
- `owner_elementKey`, `owner_filterNameKey`, `owner_filterValueKey`: a key in the indexed style
  belongs to the parameter before its first point
- `plain_eq_of_indexedPairs_eq`: the pairs of a parameter determine it
- `Envelope.plain_eq_of_query_eq`, `Envelope.plain_eq_of_indexed_query_eq`: so do the pairs of an
  envelope
-/

namespace CloudApi

/-! ### Groups of pairs -/

/-- Of the first group and the others together, the first one is what is owned alike. -/
private theorem filter_owner_append {α β κ : Type} [DecidableEq κ] {f : α → List β}
    {own : α → κ} {owner : β → κ} {x : α} {xs : List α} (hx : ∀ b ∈ f x, owner b = own x)
    (hxs : ∀ y ∈ xs, f y ≠ [] ∧ ∀ b ∈ f y, owner b = own y) (nx : own x ∉ xs.map own) :
    (f x ++ xs.flatMap f).filter (owner · = own x) = f x := by
  -- no one else owns what is owned here
  have others : (xs.flatMap f).filter (owner · = own x) = [] := by
    rw [List.filter_eq_nil_iff]
    intro b hb
    obtain ⟨y, hy, hby⟩ := List.mem_flatMap.mp hb
    have hyb := (hxs y hy).2 b hby
    rw [decide_eq_true_eq, hyb]
    intro e
    exact nx (e ▸ List.mem_map_of_mem hy)
  have itself : (f x).filter (owner · = own x) = f x := by
    rw [List.filter_eq_self]
    intro b hb
    rw [decide_eq_true_eq]
    exact hx b hb
  rw [List.filter_append, itself, others, List.append_nil]

/-- A list of groups is determined by its concatenation, if every member of a group tells which
group it is of and no two groups are the same one. `g` is what is read off a group. -/
theorem map_eq_of_flatMap_eq {α β γ κ : Type} [DecidableEq κ] {f : α → List β} {own : α → κ}
    {owner : β → κ} (g : α → γ) {xs ys : List α}
    (hx : ∀ x ∈ xs, f x ≠ [] ∧ ∀ b ∈ f x, owner b = own x)
    (hy : ∀ y ∈ ys, f y ≠ [] ∧ ∀ b ∈ f y, owner b = own y)
    (nx : (xs.map own).Nodup) (ny : (ys.map own).Nodup)
    (hg : ∀ x ∈ xs, ∀ y ∈ ys, own x = own y → f x = f y → g x = g y)
    (h : xs.flatMap f = ys.flatMap f) : xs.map g = ys.map g := by
  -- group by group; a group is never empty, so both lists end together
  induction xs generalizing ys with
  | nil =>
    cases ys with
    | nil => rfl
    | cons y ys =>
      rw [List.flatMap_nil, List.flatMap_cons] at h
      have := List.append_eq_nil_iff.mp h.symm
      exact absurd this.1 (hy y List.mem_cons_self).1
  | cons x xs ih =>
    cases ys with
    | nil =>
      rw [List.flatMap_nil, List.flatMap_cons] at h
      have := List.append_eq_nil_iff.mp h
      exact absurd this.1 (hx x List.mem_cons_self).1
    | cons y ys =>
      rw [List.flatMap_cons, List.flatMap_cons] at h
      obtain ⟨fx, mx⟩ := hx x List.mem_cons_self
      obtain ⟨fy, my⟩ := hy y List.mem_cons_self
      have hx' := fun z hz => hx z (List.mem_cons_of_mem x hz)
      have hy' := fun z hz => hy z (List.mem_cons_of_mem y hz)
      rw [List.map_cons, List.nodup_cons] at nx ny
      -- both begin with the same member, which is of the first group of either
      have same : own x = own y := by
        obtain ⟨b, bs, hb⟩ := List.exists_cons_of_ne_nil fx
        obtain ⟨c, cs, hc⟩ := List.exists_cons_of_ne_nil fy
        rw [hb, hc, List.cons_append, List.cons_append, List.cons.injEq] at h
        rw [← mx b (by simp [hb]), ← my c (by simp [hc]), h.1]
      -- and the first group of either is all that is owned alike
      have first : f x = f y := by
        rw [← filter_owner_append mx hx' nx.1, ← filter_owner_append my hy' ny.1, h, same]
      rw [first, List.append_cancel_left_eq] at h
      rw [List.map_cons, List.map_cons, hg x List.mem_cons_self y List.mem_cons_self same first,
        ih hx' hy' nx.2 ny.2 (fun z hz w hw => hg z (.tail x hz) w (.tail y hw)) h]

/-! ### Numbering -/

namespace QueryStyle

theorem numbered_eq_map {α β : Type} (f : Nat → α → β) (first : Nat) (xs : List α) :
    numbered f first xs = (numbered Prod.mk first xs).map fun p => f p.1 p.2 := by
  induction xs generalizing first with
  | nil => rfl
  | cons x xs ih => rw [numbered, numbered, List.map_cons, ih]

/-- The groups of numbered elements, one after the other. -/
theorem flatten_numbered {α β : Type} (f : Nat → α → List β) (first : Nat) (xs : List α) :
    (numbered f first xs).flatten = (numbered Prod.mk first xs).flatMap fun p => f p.1 p.2 := by
  rw [numbered_eq_map, ← List.flatMap_def]

/-- Numbering keeps the elements. -/
theorem map_snd_numbered {α : Type} (first : Nat) (xs : List α) :
    (numbered Prod.mk first xs).map (·.2) = xs := by
  induction xs generalizing first with
  | nil => rfl
  | cons x xs ih => rw [numbered, List.map_cons, ih]

theorem map_fst_numbered {α : Type} (first : Nat) (xs : List α) :
    (numbered Prod.mk first xs).map (·.1) = List.range' first xs.length := by
  induction xs generalizing first with
  | nil => rfl
  | cons x xs ih => rw [numbered, List.map_cons, ih, List.length_cons, List.range'_succ]

/-- The values of numbered pairs are the elements. -/
theorem values_numbered (key : Nat → String) (first : Nat) (values : List String) :
    (numbered (fun i value => (key i, value)) first values).map (·.2) = values := by
  rw [numbered_eq_map, List.map_map]
  exact map_snd_numbered first values

/-! ### Keys in the indexed style

The owner of a key is what stands before its first point, as long as the names of parameters hold
no points themselves. -/

/-- What stands before the first `mark` of a key, or the whole key. -/
def owner (mark : Char) (key : String) : List Char := key.toList.takeWhile (· ≠ mark)

theorem owner_of_not_mem {mark : Char} {name : String} (h : mark ∉ name.toList) :
    owner mark name = name.toList := by
  rw [owner, List.takeWhile_eq_self_iff]
  intro c hc
  rw [decide_eq_true_eq]
  exact fun e => h (e ▸ hc)

/-- The owner of a key does not depend on what follows the first mark. -/
theorem owner_append {mark : Char} {name : String} (h : mark ∉ name.toList) {rest : String}
    (hr : rest.toList.head? = some mark) : owner mark (name ++ rest) = name.toList := by
  have hn : ∀ c ∈ name.toList, decide (c ≠ mark) = true := by
    intro c hc
    rw [decide_eq_true_eq]
    exact fun e => h (e ▸ hc)
  obtain ⟨tail, ht⟩ := List.head?_eq_some_iff.mp hr
  rw [owner, String.toList_append, List.takeWhile_append_of_pos hn, ht]
  simp

/-- The text of a number holds nothing but digits. -/
theorem not_mem_toString {mark : Char} (h : mark.isDigit = false) (i : Nat) :
    mark ∉ (toString i).toList := by
  rw [Nat.toString_eq_repr, Nat.toList_repr]
  intro hm
  have digit := Nat.isDigit_of_mem_toDigits (by decide) (by decide) hm
  rw [h] at digit
  exact Bool.false_ne_true digit

theorem owner_elementKey {name : String} (h : '.' ∉ name.toList) (i : Nat) :
    owner '.' (elementKey name i) = name.toList := by
  rw [elementKey, String.append_assoc]
  exact owner_append h (by simp)

theorem owner_filterNameKey {name : String} (h : '.' ∉ name.toList) (i : Nat) :
    owner '.' (filterNameKey name i) = name.toList := by
  rw [filterNameKey, elementKey, String.append_assoc, String.append_assoc]
  exact owner_append h (by simp)

theorem owner_filterValueKey {name : String} (h : '.' ∉ name.toList) (i j : Nat) :
    owner '.' (filterValueKey name i j) = name.toList := by
  rw [filterValueKey, elementKey, elementKey]
  simp only [String.append_assoc]
  exact owner_append h (by simp)

end QueryStyle

/-! ### Parameters as they are sent -/

/-- The text of a filter's name, and its values. -/
def Filter.plain (f : Filter) : String × List String := (f.name.text, f.values)

/-- The value of a parameter, where filters are told by the texts of their names. -/
inductive Param.Plain where
  | scalar (value : String)
  | list (values : List String)
  | filters (fs : List (String × List String))

/-- What is sent of the value of a parameter. -/
def Param.plain : Param → Param.Plain
  | .scalar value => .scalar value
  | .list values => .list values
  | .filters fs => .filters (fs.map Filter.plain)

/-- A list or a list of filters is not empty. -/
def Param.IsSet : Param → Prop
  | .scalar _ => True
  | .list values => values ≠ []
  | .filters fs => fs ≠ []

/-- What is sent of the parameters of an envelope. -/
def Envelope.plain (e : Envelope) : Keyed Param.Plain := e.params.map fun p => (p.1, p.2.plain)

namespace QueryStyle

/-! ### Filters in the indexed style

The pairs of one filter have its number behind the parameter's name, so they are a group by
themselves among the pairs of all filters. -/

/-- What stands between the first and the second point of a key of the parameter `name`. -/
def filterNumber (name key : String) : List Char :=
  (key.toList.drop (name.length + 1)).takeWhile (· ≠ '.')

theorem filterNumber_append (name : String) (i : Nat) {rest : String}
    (hr : rest.toList.head? = some '.') :
    filterNumber name (elementKey name i ++ rest) = (toString i).toList := by
  -- a number has no point, so it ends at the one behind it
  have digits := owner_append (not_mem_toString rfl i) hr
  rw [owner, String.toList_append] at digits
  have start : (elementKey name i ++ rest).toList =
      (name.toList ++ ['.']) ++ ((toString i).toList ++ rest.toList) := by
    simp [elementKey]
  -- the name and the first point are what is skipped
  have skipped : (name.toList ++ ['.']).length = name.length + 1 := by
    rw [List.length_append, String.length_toList, List.length_singleton]
  rw [filterNumber, start, ← skipped, List.drop_left, digits]

/-- Every pair of a filter has the filter's number. -/
theorem filterNumber_indexedFilter (name : String) (i : Nat) (f : Filter) :
    ∀ pair ∈ indexedFilter name i f, filterNumber name pair.1 = (toString i).toList := by
  intro pair hp
  rw [indexedFilter, List.mem_cons, numbered_eq_map, List.mem_map] at hp
  rcases hp with rfl | ⟨value, _, rfl⟩
  · exact filterNumber_append name i (by simp)
  · simp only [filterValueKey]
    rw [elementKey, String.append_assoc, String.append_assoc]
    exact filterNumber_append name i (by simp)

/-- The pairs of a filter determine it. -/
private theorem plain_eq_of_indexedFilter_eq {name : String} {i : Nat} {f g : Filter}
    (h : indexedFilter name i f = indexedFilter name i g) : f.plain = g.plain := by
  rw [indexedFilter, indexedFilter, List.cons.injEq, Prod.mk.injEq] at h
  -- the first pair has the name, the others the values
  have values := congrArg (List.map (·.2)) h.2
  rw [values_numbered, values_numbered] at values
  rw [Filter.plain, Filter.plain, h.1.2, values]

theorem nodup_numbers {α : Type} (first : Nat) (xs : List α) :
    ((numbered Prod.mk first xs).map fun p => (toString p.1).toList).Nodup := by
  have injective : Function.Injective fun i : Nat => (toString i).toList := by
    intro i j h
    exact Nat.repr_injective (String.toList_inj.mp h)
  have numbers := List.Nodup.map injective (List.nodup_range' (s := first) (n := xs.length))
  rw [← map_fst_numbered, List.map_map] at numbers
  exact numbers

/-- The pairs of filters determine them. -/
theorem plain_eq_of_indexedFilters_eq {name : String} {first : Nat} {fs gs : List Filter}
    (h : (numbered (indexedFilter name) first fs).flatten =
      (numbered (indexedFilter name) first gs).flatten) :
    fs.map Filter.plain = gs.map Filter.plain := by
  -- the pairs of one filter carry its number, and every filter has a pair for its name
  have grouped (xs : List Filter) : ∀ p ∈ numbered Prod.mk first xs,
      indexedFilter name p.1 p.2 ≠ [] ∧
      ∀ pair ∈ indexedFilter name p.1 p.2,
        filterNumber name pair.1 = (toString p.1).toList := by
    intro p _
    exact ⟨List.cons_ne_nil _ _, filterNumber_indexedFilter name p.1 p.2⟩
  have plain := map_eq_of_flatMap_eq (fun p => p.2.plain) (grouped fs) (grouped gs)
    (nodup_numbers first fs) (nodup_numbers first gs) (by
      intro p _ q _ number pairs
      -- a group is one filter's, as its number says
      have same : p.1 = q.1 := Nat.repr_injective (String.toList_inj.mp number)
      rw [same] at pairs
      exact plain_eq_of_indexedFilter_eq pairs) (by
      rw [flatten_numbered, flatten_numbered] at h
      exact h)
  rw [← map_snd_numbered first fs, ← map_snd_numbered first gs, List.map_map, List.map_map]
  exact plain

/-! ### Parameters in the indexed style -/

/-- Every pair of a parameter belongs to it. -/
theorem owner_indexedPairs {name : String} (h : '.' ∉ name.toList) (value : Param) :
    ∀ pair ∈ indexedPairs name value, owner '.' pair.1 = name.toList := by
  intro pair hp
  cases value with
  | scalar value =>
    rw [indexedPairs, List.mem_singleton] at hp
    rw [hp]
    exact owner_of_not_mem h
  | list values =>
    rw [indexedPairs, numbered_eq_map, List.mem_map] at hp
    obtain ⟨v, _, rfl⟩ := hp
    exact owner_elementKey h v.1
  | filters fs =>
    rw [indexedPairs, flatten_numbered, List.mem_flatMap] at hp
    obtain ⟨f, _, hp⟩ := hp
    rw [indexedFilter, List.mem_cons, numbered_eq_map, List.mem_map] at hp
    -- a filter has one key for its name and one for each value
    rcases hp with rfl | ⟨v, _, rfl⟩
    · exact owner_filterNameKey h f.1
    · exact owner_filterValueKey h f.1 v.1

/-- The first key of a parameter that is set. -/
private def firstKey (name : String) : Param → String
  | .scalar _ => name
  | .list _ => elementKey name 1
  | .filters _ => filterNameKey name 1

/-- How much longer than its name the first key of a parameter is. -/
private def firstKeyEnding : Param → Nat
  | .scalar _ => 0
  | .list _ => 2
  | .filters _ => 7

private theorem length_firstKey (name : String) (value : Param) :
    (firstKey name value).length = name.length + firstKeyEnding value := by
  -- the first element has the number one, whatever it is
  have one : (toString 1).length = 1 := by decide
  cases value with
  | scalar value => rfl
  | list values =>
    rw [firstKey, elementKey, String.length_append, String.length_append, one]
    rfl
  | filters fs =>
    rw [firstKey, filterNameKey, elementKey, String.length_append, String.length_append,
      String.length_append, one]
    rfl

private theorem head?_indexedPairs (name : String) {value : Param} (h : value.IsSet) :
    (indexedPairs name value).head?.map (·.1) = some (firstKey name value) := by
  cases value with
  | scalar value => rfl
  | list values =>
    obtain ⟨v, rest, rfl⟩ := List.exists_cons_of_ne_nil h
    rfl
  | filters fs =>
    obtain ⟨f, rest, rfl⟩ := List.exists_cons_of_ne_nil h
    rfl

/-- The pairs of a parameter that is set determine it. The first key tells the three kinds apart
by its length. -/
theorem plain_eq_of_indexedPairs_eq {name : String} {v w : Param} (hv : v.IsSet) (hw : w.IsSet)
    (h : indexedPairs name v = indexedPairs name w) : v.plain = w.plain := by
  -- each parameter that is set begins with its own first key
  have first : firstKey name v = firstKey name w := by
    have heads := head?_indexedPairs name hv
    rw [h, head?_indexedPairs name hw, Option.some.injEq] at heads
    exact heads.symm
  -- one key cannot have two lengths
  have kinds : firstKeyEnding v = firstKeyEnding w := by
    have lengths := congrArg String.length first
    rw [length_firstKey, length_firstKey] at lengths
    omega
  cases v with
  | scalar a =>
    cases w with
    | scalar b =>
      rw [indexedPairs, indexedPairs, List.singleton_inj, Prod.mk.injEq] at h
      rw [h.2]
    | list bs => exact nomatch kinds
    | filters gs => exact nomatch kinds
  -- the keys count the values, so the values tell all
  | list as =>
    cases w with
    | scalar b => exact nomatch kinds
    | list bs =>
      have values := congrArg (List.map (·.2)) h
      rw [indexedPairs, indexedPairs, values_numbered, values_numbered] at values
      rw [values]
    | filters gs => exact nomatch kinds
  | filters fs =>
    cases w with
    | scalar b => exact nomatch kinds
    | list bs => exact nomatch kinds
    | filters gs =>
      rw [Param.plain, Param.plain, plain_eq_of_indexedFilters_eq h]

end QueryStyle

/-- Distinct names are distinct as rows of characters. -/
theorem Keyed.nodup_map_toList {α : Type} {t : Keyed α} (h : t.keys.Nodup) :
    (t.map fun p => p.1.toList).Nodup := by
  have injective : Function.Injective String.toList := fun s s' => String.toList_inj.mp
  have names := h.map injective
  rw [Keyed.keys, List.map_map] at names
  exact names

namespace Envelope

/-- The pairs of an envelope determine its parameters, if each pair tells the name of its parameter
by what stands before the mark, and the pairs of each parameter determine it. -/
theorem plain_eq_of_query_eq {style : QueryStyle} {mark : Char} {e e' : Envelope}
    (he : e.params.keys.Nodup) (he' : e'.params.keys.Nodup)
    (hp : ∀ p ∈ e.params, style.pairs p.1 p.2 ≠ [] ∧
      ∀ pair ∈ style.pairs p.1 p.2, QueryStyle.owner mark pair.1 = p.1.toList)
    (hp' : ∀ p ∈ e'.params, style.pairs p.1 p.2 ≠ [] ∧
      ∀ pair ∈ style.pairs p.1 p.2, QueryStyle.owner mark pair.1 = p.1.toList)
    (hg : ∀ name v w, (name, v) ∈ e.params → (name, w) ∈ e'.params →
      style.pairs name v = style.pairs name w → v.plain = w.plain)
    (h : e.query style = e'.query style) : e.plain = e'.plain := by
  refine map_eq_of_flatMap_eq (fun p => (p.1, p.2.plain)) hp hp' (Keyed.nodup_map_toList he)
    (Keyed.nodup_map_toList he') ?_ h
  rintro ⟨name, v⟩ hv ⟨_, w⟩ hw names pairs
  obtain rfl := String.toList_inj.mp names
  rw [hg name v w hv hw pairs]

/-- The pairs of an envelope in the indexed style determine its parameters, if their names are
distinct and hold no point. -/
theorem plain_eq_of_indexed_query_eq {e e' : Envelope} (he : e.params.keys.Nodup)
    (he' : e'.params.keys.Nodup) (hp : ∀ p ∈ e.params, '.' ∉ p.1.toList ∧ p.2.IsSet)
    (hp' : ∀ p ∈ e'.params, '.' ∉ p.1.toList ∧ p.2.IsSet)
    (h : e.query .indexed = e'.query .indexed) : e.plain = e'.plain := by
  -- the keys of a parameter begin with its name, which has no point
  have grouped {t : Keyed Param} (ht : ∀ p ∈ t, '.' ∉ p.1.toList ∧ p.2.IsSet) : ∀ p ∈ t,
      QueryStyle.indexed.pairs p.1 p.2 ≠ [] ∧
      ∀ pair ∈ QueryStyle.indexed.pairs p.1 p.2,
        QueryStyle.owner '.' pair.1 = p.1.toList := by
    intro p hpt
    obtain ⟨hn, hs⟩ := ht p hpt
    refine ⟨?_, QueryStyle.owner_indexedPairs hn p.2⟩
    intro (empty : QueryStyle.indexedPairs p.1 p.2 = [])
    have head := QueryStyle.head?_indexedPairs p.1 hs
    rw [empty] at head
    exact nomatch head
  refine plain_eq_of_query_eq he he' (grouped hp) (grouped hp') ?_ h
  intro name v w hv hw pairs
  exact QueryStyle.plain_eq_of_indexedPairs_eq (hp _ hv).2 (hp' _ hw).2 pairs

end Envelope

end CloudApi
