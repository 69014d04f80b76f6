import CloudApi.Filter.Basic
import CloudApi.Proofs.Results
import Mathlib.Data.List.Forall2

/-!
# Loose lists and their first bad item

A loose list is read item by item, from the first one on, and it is read as a whole or not at all:
the first item that is not read fails it. How the error is told depends on the list. A typed list
always gives the index of the item; a list of filters gives it only where a value has the wrong
shape, and leaves an error about a name or a call as it is.

## Key results

- `Loose.readItems_eq_ok_iff`, `Loose.readItems_eq_error_iff`: what reading items comes to
- `Loose.readsLists_readList`: the law of reading lists, for any items and any way of telling errors
- `Filter.failsWith_ofLoose`, `Filter.failsWith_listOfLoose`: loose filters are refused for what is
  given only
- `loose_lists_fail_at_first_bad_item`: typed lists, lists of filters, and lists inside filters
-/

namespace CloudApi

namespace Loose

variable {ε α : Type} {read : Loose → Except ε α} {wrap : Nat → ε → ε}

/-- The first value that is not read is the `i`-th, counted from zero, and `e` is its error. -/
structure FirstBad (read : Loose → Except ε α) (vs : List Loose) (i : Nat) (e : ε) : Prop where
  before : ∀ v ∈ vs.take i, ∃ x, read v = .ok x
  fails : ∃ v, vs[i]? = some v ∧ read v = .error e

theorem not_firstBad_nil {i : Nat} {e : ε} : ¬ FirstBad read [] i e := by
  rintro ⟨_, v, hv, _⟩
  cases hv

theorem firstBad_cons_of_error {v : Loose} {vs : List Loose} {e' : ε} (first : read v = .error e')
    {i : Nat} {e : ε} : FirstBad read (v :: vs) i e ↔ i = 0 ∧ e' = e := by
  constructor
  · rintro ⟨before, w, hw, fails⟩
    cases i with
    | zero =>
      cases hw
      exact ⟨rfl, Except.error.inj (first.symm.trans fails)⟩
    | succ i =>
      -- the first value would have been read
      obtain ⟨x, hx⟩ := before v (by simp)
      rw [first] at hx
      cases hx
  · rintro ⟨rfl, rfl⟩
    exact ⟨by simp, v, rfl, first⟩

theorem firstBad_cons_of_ok {v : Loose} {vs : List Loose} {x : α} (first : read v = .ok x)
    {i : Nat} {e : ε} :
    FirstBad read (v :: vs) i e ↔ ∃ j, i = j + 1 ∧ FirstBad read vs j e := by
  constructor
  · rintro ⟨before, w, hw, fails⟩
    cases i with
    | zero =>
      cases hw
      rw [first] at fails
      cases fails
    | succ j =>
      -- the values before it among the others have been before it all along
      refine ⟨j, rfl, fun u hu => before u ?_, w, hw, fails⟩
      exact List.mem_cons_of_mem v hu
  · rintro ⟨j, rfl, before, w, hw, fails⟩
    refine ⟨fun u hu => ?_, w, hw, fails⟩
    rcases List.mem_cons.mp hu with rfl | hu
    · exact ⟨x, first⟩
    · exact before u hu

/-! ### Reading items -/

/-- A list of items is read if each of them is, in order. -/
theorem readItems_eq_ok_iff {index : Nat} {vs : List Loose} {xs : List α} :
    readItems read wrap index vs = .ok xs ↔ List.Forall₂ (fun v x => read v = .ok x) vs xs := by
  -- the index is only told in errors, and it goes up from item to item
  induction vs generalizing index xs with
  | nil =>
    rw [readItems, Except.ok.injEq, List.forall₂_nil_left_iff]
    exact eq_comm
  | cons v vs ih =>
    rw [List.forall₂_cons_left_iff]
    cases first : read v with
    | error e =>
      simp only [readItems, first]
      constructor
      · intro h
        cases h
      · rintro ⟨_, _, h, _⟩
        cases h
    | ok x =>
      simp only [readItems, first, map_eq_ok, ih]
      constructor
      · rintro ⟨rest, others, rfl⟩
        exact ⟨x, rest, rfl, others, rfl⟩
      · rintro ⟨_, rest, h, others, rfl⟩
        cases h
        exact ⟨rest, others, rfl⟩

/-- A list of items fails with the error of the first one that is not read. -/
theorem readItems_eq_error_iff {index : Nat} {vs : List Loose} {e : ε} :
    readItems read wrap index vs = .error e ↔
      ∃ i e', FirstBad read vs i e' ∧ e = wrap (index + i) e' := by
  induction vs generalizing index with
  | nil =>
    constructor
    · intro h
      cases h
    · -- an empty list has no bad item
      rintro ⟨_, _, h, _⟩
      exact absurd h not_firstBad_nil
  | cons v vs ih =>
    -- reading stops at the first value that fails, and only there
    cases first : read v with
    | error e' =>
      simp only [readItems, first, firstBad_cons_of_error first]
      constructor
      · intro h
        cases h
        exact ⟨0, e', ⟨rfl, rfl⟩, rfl⟩
      · rintro ⟨_, _, ⟨rfl, rfl⟩, rfl⟩
        rfl
    | ok x =>
      -- the first bad item is one of the others, whose places are counted from the next index
      simp only [readItems, first, map_eq_error, ih, firstBad_cons_of_ok first]
      constructor
      · rintro ⟨j, e', bad, rfl⟩
        exact ⟨j + 1, e', ⟨j, rfl, bad⟩, by rw [Nat.add_right_comm, Nat.add_assoc]⟩
      · rintro ⟨_, e', ⟨j, rfl, bad⟩, rfl⟩
        exact ⟨j, e', bad, by rw [Nat.add_right_comm, Nat.add_assoc]⟩

/-! ### The law of reading lists -/

/-- How a list is read whose items are read by `item`. The error of the first bad item is told in
the way of `told`, which relates the item's index and its error to the list's. Any other value is
read like the list that holds it alone, but its error is told as it is. -/
structure ReadsLists (item : Loose → Except ε α) (told : Nat → ε → ε → Prop)
    (list : Loose → Except ε (List α)) : Prop where
  succeeds : ∀ vs, (∃ xs, list (.list vs) = .ok xs) ↔ ∀ v ∈ vs, ∃ x, item v = .ok x
  items : ∀ vs xs, list (.list vs) = .ok xs ↔ vs.map item = xs.map .ok
  fails : ∀ vs e, list (.list vs) = .error e ↔ ∃ i e', FirstBad item vs i e' ∧ told i e' e
  single : ∀ v, (∀ vs, v ≠ .list vs) → ∀ xs, list v = .ok xs ↔ list (.list [v]) = .ok xs
  single_fails : ∀ v, (∀ vs, v ≠ .list vs) → ∀ e, list v = .error e ↔ item v = .error e

theorem forall₂_read_iff {vs : List Loose} {xs : List α} :
    List.Forall₂ (fun v x => read v = .ok x) vs xs ↔ vs.map read = xs.map .ok := by
  rw [← List.forall₂_eq_eq_eq, List.forall₂_map_left_iff, List.forall₂_map_right_iff]

theorem exists_forall₂_read_iff {vs : List Loose} :
    (∃ xs, List.Forall₂ (fun v x => read v = .ok x) vs xs) ↔ ∀ v ∈ vs, ∃ x, read v = .ok x := by
  induction vs with
  | nil => simp
  | cons v vs ih => simp [List.forall₂_cons_left_iff, ← ih]

theorem readList_of_ne_list {v : Loose} (other : ∀ vs, v ≠ .list vs) :
    readList read wrap v = (read v).map ([·]) := by
  cases v with
  | list vs => exact absurd rfl (other vs)
  | text s => rfl
  | int n => rfl
  | bool b => rfl
  | map entries => rfl

/-- Lists are read by this law, if wrapping an error of an item tells it in this way. -/
theorem readsLists_readList {told : Nat → ε → ε → Prop}
    (h : ∀ i v e e', read v = .error e → (told i e e' ↔ e' = wrap i e)) :
    ReadsLists read told (readList read wrap) where
  succeeds vs := by
    simp only [readList, readItems_eq_ok_iff]
    exact exists_forall₂_read_iff
  items vs xs := readItems_eq_ok_iff.trans forall₂_read_iff
  fails vs e := by
    rw [readList, readItems_eq_error_iff]
    refine exists_congr fun i => exists_congr fun e' => and_congr_right fun bad => ?_
    -- how an error is told matters for errors of items only, and this is one
    obtain ⟨v, _, fails⟩ := bad.fails
    rw [h i v e' e fails, Nat.zero_add]
  -- a value that is no list is read as a list of one
  single v other xs := by
    rw [readList_of_ne_list other, map_eq_ok, readList, readItems_eq_ok_iff]
    simp [List.forall₂_cons_left_iff, eq_comm]
  single_fails v other e := by
    rw [readList_of_ne_list other, map_eq_error]

end Loose

/-! ### Errors of a loose filter -/

/-- An error about what is given: a value of the wrong shape, a name that is not accepted, or a call
with the wrong arguments. -/
def Error.IsAboutInput : Error → Prop
  | .shape _ | .name _ | .call _ => True
  | .setup _ | .refused _ | .transport _ => False

theorem Error.IsAboutInput.isLocal {e : Error} (h : e.IsAboutInput) : e.isLocal = true := by
  cases e with
  | shape e => rfl
  | name e => rfl
  | call e => rfl
  | setup e => exact h.elim
  | refused e => exact h.elim
  | transport e => exact h.elim

theorem FilterNames.failsWith_invoke (names : FilterNames) (factory : String) (args : List String) :
    FailsWith Error.IsAboutInput (names.invoke factory args) := by
  -- the call has a wrong number of arguments, or its text makes no name
  unfold invoke
  split
  · split
    · exact failsWith_mapError _ fun _ => trivial
    · exact failsWith_error trivial
    · exact failsWith_error trivial
  · split
    · exact failsWith_error trivial
    · exact failsWith_mapError _ fun _ => trivial

theorem FilterNames.failsWith_resolve (names : FilterNames) (text : String) :
    FailsWith Error.IsAboutInput (names.resolve text) := by
  unfold resolve
  split
  · exact failsWith_mapError _ fun _ => trivial
  · split
    · exact names.failsWith_invoke _ _
    · exact failsWith_mapError _ fun _ => trivial

namespace Filter

theorem failsWith_nameOfEntries (names : FilterNames) (entries : Keyed Loose) :
    FailsWith Error.IsAboutInput (nameOfEntries names entries) := by
  unfold nameOfEntries
  split
  · exact names.failsWith_resolve _
  · exact failsWith_error trivial
  · exact failsWith_error trivial

/-- A loose filter is refused for its shape, its name or a call in the place of its name. -/
theorem failsWith_ofLoose (names : FilterNames) (v : Loose) :
    FailsWith Error.IsAboutInput (ofLoose names v) := by
  unfold ofLoose
  split
  · refine (failsWith_nameOfEntries names _).bind fun name => ?_
    refine (failsWith_mapError _ fun _ => trivial).bind fun values => ?_
    exact failsWith_ok _
  · exact failsWith_error trivial

/-- How a list of filters tells the error of its `i`-th item. -/
inductive ToldAtItem (i : Nat) : Error → Error → Prop where
  | shape (e : ShapeError) : ToldAtItem i (.shape e) (.shape (.atItem i e))
  | name (e : NameError) : ToldAtItem i (.name e) (.name e)
  | call (e : CallError) : ToldAtItem i (.call e) (.call e)

theorem toldAtItem_iff {i : Nat} {e e' : Error} (h : e.IsAboutInput) :
    ToldAtItem i e e' ↔ e' = errorAtItem i e := by
  constructor
  · rintro (e | e | e) <;> rfl
  · rintro rfl
    -- only errors about the input are told at an item; the others stop the request elsewhere
    cases e with
    | shape e => exact .shape e
    | name e => exact .name e
    | call e => exact .call e
    | setup e => exact h.elim
    | refused e => exact h.elim
    | transport e => exact h.elim

theorem readsLists_listOfLoose (names : FilterNames) :
    Loose.ReadsLists (ofLoose names) ToldAtItem (listOfLoose names) :=
  Loose.readsLists_readList fun _ v e _ fails => toldAtItem_iff (failsWith_ofLoose names v e fails)

/-- So is a list of them. -/
theorem failsWith_listOfLoose (names : FilterNames) (v : Loose) :
    FailsWith Error.IsAboutInput (listOfLoose names v) := by
  intro e h
  by_cases list : ∃ vs, v = .list vs
  · -- an error keeps its sort when the index is added to it
    obtain ⟨vs, rfl⟩ := list
    obtain ⟨i, _, _, told⟩ := ((readsLists_listOfLoose names).fails vs e).mp h
    cases told <;> trivial
  · have single := (readsLists_listOfLoose names).single_fails v (not_exists.mp list) e
    exact failsWith_ofLoose names v e (single.mp h)

end Filter

theorem Loose.readsLists_toList (α : Type) [LooseElement α] :
    ReadsLists (@LooseElement.ofLoose α _) (fun i e e' => e' = .atItem i e) (toList α) :=
  readsLists_readList fun _ _ _ _ _ => Iff.rfl

/-! ### Lists inside filters -/

/-- A value without a text is no text element. -/
theorem Loose.firstBad_text {vs : List Loose} {j : Nat} {w : Loose}
    (before : ∀ v ∈ vs.take j, ∃ s, v.scalarText? = some s) (hw : vs[j]? = some w)
    (none : w.scalarText? = none) :
    FirstBad (@LooseElement.ofLoose String _) vs j (.mismatch "String" w.typeName) where
  before v hv := by
    obtain ⟨s, hs⟩ := before v hv
    exact ⟨s, by simp only [LooseElement.ofLoose, hs]⟩
  fails := by
    refine ⟨w, hw, ?_⟩
    simp only [LooseElement.ofLoose, none]
    rfl

/-- The name of a loose filter is accepted, its values are a list, and the first of them that has no
text is the `j`-th, which is `w`. -/
def Filter.HasBadValue (names : FilterNames) (v : Loose) (j : Nat) (w : Loose) : Prop :=
  ∃ (entries : Keyed Loose) (text : String) (n : FilterName) (values : List Loose),
    v = .map entries ∧
    entries.get? "name" = some (.text text) ∧ names.resolve text = .ok n ∧
    (entries.get? "value").or (entries.get? "values") = some (.list values) ∧
    (∀ u ∈ values.take j, ∃ s, u.scalarText? = some s) ∧
    values[j]? = some w ∧ w.scalarText? = none

theorem Filter.HasBadValue.ofLoose_eq {names : FilterNames} {v w : Loose} {j : Nat}
    (h : HasBadValue names v j w) :
    ofLoose names v = .error (.shape (.atItem j (.mismatch "String" w.typeName))) := by
  obtain ⟨entries, text, n, values, rfl, named, resolved, valued, before, hw, none⟩ := h
  -- the name is read first and it is good, so the error is that of the values
  have name : nameOfEntries names entries = .ok n := by
    simp only [nameOfEntries, named]
    exact resolved
  have bad : (Loose.list values).toList String =
      .error (.atItem j (.mismatch "String" w.typeName)) :=
    ((Loose.readsLists_toList String).fails values _).mpr
      ⟨j, _, Loose.firstBad_text before hw none, rfl⟩
  have texts : valuesOfEntries entries = .error (.atItem j (.mismatch "String" w.typeName)) := by
    simp only [valuesOfEntries, valued]
    exact bad
  simp only [ofLoose, name, texts]
  rfl

/-- A typed list is read if each of its items is; the first item that is not fails it, with its
index. So is a list of filters, where an error about a name or a call is told without the index. If
the first bad filter of a list has a name that is accepted and a list of values, then both indices
are told. -/
theorem loose_lists_fail_at_first_bad_item :
    (∀ (α : Type) [LooseElement α],
      Loose.ReadsLists (@LooseElement.ofLoose α _) (fun i e e' => e' = .atItem i e)
        (Loose.toList α)) ∧
    (∀ names, Loose.ReadsLists (Filter.ofLoose names) Filter.ToldAtItem
      (Filter.listOfLoose names)) ∧
    ∀ (names : FilterNames) (items : List Loose) (i : Nat) (v : Loose) (j : Nat) (w : Loose),
      (∀ u ∈ items.take i, ∃ f, Filter.ofLoose names u = .ok f) → items[i]? = some v →
      Filter.HasBadValue names v j w →
      Filter.listOfLoose names (.list items) =
        .error (.shape (.atItem i (.atItem j (.mismatch "String" w.typeName)))) := by
  refine ⟨Loose.readsLists_toList, Filter.readsLists_listOfLoose, ?_⟩
  intro names items i v j w before hv bad
  have first : Loose.FirstBad (Filter.ofLoose names) items i
      (.shape (.atItem j (.mismatch "String" w.typeName))) := ⟨before, v, hv, bad.ofLoose_eq⟩
  exact ((Filter.readsLists_listOfLoose names).fails items _).mpr ⟨i, _, first, .shape _⟩

/-! Filters for disks. The second one has its values under another name, and a map is among them;
the third one has an unknown name, which is not looked at. -/

private def diskNames : FilterNames := { resource := "disk", listed := [("size", "size")] }

private def sizes : Loose := .ofEntries [("name", .text "size"), ("value", .int 8)]

private def nestedKeys : Loose :=
  .ofEntries [("name", .text "tag:Name"), ("values", .list [.text "a", .bool true, .map []])]

private def unknown : Loose := .ofEntries [("name", .text "colour"), ("value", .text "red")]

theorem nested_disk_filter_is_told :
    Filter.listOfLoose diskNames (.list [sizes, nestedKeys, unknown]) =
      .error (.shape (.atItem 1 (.atItem 2 (.mismatch "String" "Map")))) := by
  have size : Filter.ofLoose diskNames sizes = .ok ⟨⟨diskNames, "size", by decide⟩, ["8"]⟩ := rfl
  have key : diskNames.resolve "tag:Name" = .ok ⟨diskNames, "tag:Name", by decide⟩ := rfl
  have bad : Filter.HasBadValue diskNames nestedKeys 2 (.map []) :=
    ⟨_, "tag:Name", _, _, rfl, rfl, key, rfl, by simp [Loose.scalarText?], rfl, rfl⟩
  refine loose_lists_fail_at_first_bad_item.2.2 diskNames _ 1 nestedKeys 2 (.map []) ?_ rfl bad
  intro u hu
  rw [List.mem_singleton.mp hu]
  exact ⟨_, size⟩

end CloudApi
