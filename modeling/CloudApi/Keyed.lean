/-! # Tables of named entries

A table is a list of pairs of a name and a value.  `get?` finds the first entry of a name, `set`
replaces an entry in place or adds it at the end, and `insert` keeps a table sorted by name.

* `get?_set_self`, `get?_set_of_ne` what a table holds after `set`
* `keys_set` a new name goes to the end, a present one moves nothing
* `nodup_keys_set`, `nodup_keys_foldl_set` setting keeps the names distinct
* `foldl_set_eq_append` setting new names, one after the other, appends
* `get?_foldl_set` of the values that a name is set to, the last one counts
* `get?_eq_some_iff`, `eq_of_mem` where names are distinct every entry is found, and a name has one
  value
* `get?_insert_self`, `get?_insert_of_ne`, `get?_foldl_insert` the same for `insert`
* `sorted_insert`, `sorted_ofList` a sorted table stays sorted, and `get?_ofList`, `mem_keys_ofList`
  say what is in it
* `get?_pairs`, `set_pairs`, `get?_ofList_pairs` tables that have the values of a function -/

namespace CloudApi

/-- A table of values under names. -/
abbrev Keyed (α : Type) : Type := List (String × α)

namespace Keyed

variable {α : Type}

/-- The value of the first entry with this name. -/
def get? : Keyed α → String → Option α
  | [], _ => none
  | (k, v) :: rest, name => if k = name then some v else get? rest name

/-- The names in the order of the entries. -/
def keys (t : Keyed α) : List String := t.map (·.1)

/-- Replace the value of a name where it stands, or add the entry at the end. -/
def set : Keyed α → String → α → Keyed α
  | [], name, value => [(name, value)]
  | (k, v) :: rest, name, value =>
    if k = name then (k, value) :: rest else (k, v) :: set rest name value

/-- Put an entry before the first larger name, in place of an entry of the same name. -/
def insert : Keyed α → String → α → Keyed α
  | [], name, value => [(name, value)]
  | (k, v) :: rest, name, value =>
    if k = name then (name, value) :: rest
    else if name < k then (name, value) :: (k, v) :: rest
    else (k, v) :: insert rest name value

/-- The sorted table of a list of entries; of two entries with one name the later one counts. -/
def ofList (entries : List (String × α)) : Keyed α :=
  entries.foldl (fun t e => t.insert e.1 e.2) []

@[simp] theorem get?_nil (name : String) : get? ([] : Keyed α) name = none := rfl

theorem get?_cons (k : String) (v : α) (rest : Keyed α) (name : String) :
    get? ((k, v) :: rest) name = if k = name then some v else get? rest name := rfl

@[simp] theorem get?_set_self (t : Keyed α) (name : String) (value : α) :
    (t.set name value).get? name = some value := by
  induction t with
  | nil => simp [set, get?]
  | cons e rest ih =>
    obtain ⟨k, v⟩ := e
    unfold set
    split
    · next h => simp [get?, h]
    · next h => simp [get?, h, ih]

theorem get?_set_of_ne {t : Keyed α} {name other : String} {value : α} (h : other ≠ name) :
    (t.set name value).get? other = t.get? other := by
  induction t with
  | nil => simp [set, get?, Ne.symm h]
  | cons e rest ih =>
    obtain ⟨k, v⟩ := e
    unfold set
    split
    · next hk => simp [get?, hk, Ne.symm h]
    · simp [get?, ih]

/-- Setting a name keeps the order of the names; a new one goes to the end. -/
theorem keys_set (t : Keyed α) (name : String) (value : α) :
    (t.set name value).keys = if name ∈ t.keys then t.keys else t.keys ++ [name] := by
  induction t with
  | nil => simp [set, keys]
  | cons e rest ih =>
    obtain ⟨k, v⟩ := e
    unfold set
    split
    · next h => simp [keys, h]
    · next h =>
      have hk : name ≠ k := Ne.symm h
      simp only [keys, List.map_cons, List.mem_cons, hk, false_or] at ih ⊢
      rw [ih]
      by_cases hm : name ∈ rest.map (·.1) <;> simp [hm]

/-- Of a row of names, a later one is a new one only if it did not stand before. -/
theorem eraseDups_concat (names : List String) (name : String) :
    (names ++ [name]).eraseDups = names.eraseDups ++ if name ∈ names then [] else [name] := by
  rw [List.eraseDups_append]
  by_cases h : name ∈ names
  · simp [List.removeAll, h]
  · simp [List.removeAll, h, List.eraseDups_cons]

/-- Setting keeps the names distinct. -/
theorem nodup_keys_set {t : Keyed α} (h : t.keys.Nodup) (name : String) (value : α) :
    (t.set name value).keys.Nodup := by
  rw [keys_set]
  split
  · exact h
  · next new =>
    have other : ∀ n ∈ t.keys, n ≠ name := fun n hn e => new (e ▸ hn)
    rw [List.nodup_append]
    exact ⟨h, by simp, fun n hn m hm => List.mem_singleton.mp hm ▸ other n hn⟩

/-- Settings, one after the other, keep the names distinct. -/
theorem nodup_keys_foldl_set {t : Keyed α} (h : t.keys.Nodup) (entries : Keyed α) :
    (entries.foldl (fun t e => t.set e.1 e.2) t).keys.Nodup := by
  induction entries generalizing t with
  | nil => exact h
  | cons e rest ih => exact ih (nodup_keys_set h e.1 e.2)

/-- Setting a new name adds its entry at the end. -/
theorem set_eq_append {t : Keyed α} {name : String} (h : name ∉ t.keys) (value : α) :
    t.set name value = t ++ [(name, value)] := by
  induction t with
  | nil => rfl
  | cons e rest ih =>
    obtain ⟨k, v⟩ := e
    simp only [keys, List.map_cons, List.mem_cons, not_or] at h ih
    simp [set, Ne.symm h.1, ih h.2]

/-- Setting names that are all new, and differ from each other, adds the entries at the end. -/
theorem foldl_set_eq_append {t : Keyed α} {entries : List (String × α)}
    (h : (t.keys ++ entries.map (·.1)).Nodup) :
    entries.foldl (fun t e => t.set e.1 e.2) t = t ++ entries := by
  induction entries generalizing t with
  | nil => simp
  | cons e rest ih =>
    rw [List.map_cons] at h
    -- no name has been set before, so each entry goes to the end
    have new : e.1 ∉ t.keys := by
      intro hk
      exact (List.nodup_append.mp h).2.2 e.1 hk e.1 (by simp) rfl
    have last : t.set e.1 e.2 = t ++ [e] := set_eq_append new e.2
    have keys : (t ++ [e]).keys ++ rest.map (·.1) = t.keys ++ e.1 :: rest.map (·.1) := by
      simp [Keyed.keys]
    rw [List.foldl_cons, last, ih (keys ▸ h), List.append_assoc, List.singleton_append]

theorem get?_append (t u : Keyed α) (name : String) :
    get? (t ++ u) name = (t.get? name).or (u.get? name) := by
  induction t with
  | nil => rfl
  | cons e rest ih =>
    obtain ⟨k, v⟩ := e
    rw [List.cons_append, get?_cons, get?_cons, ih]
    split <;> rfl

theorem mem_of_get?_eq_some {t : Keyed α} {name : String} {value : α}
    (h : t.get? name = some value) : (name, value) ∈ t := by
  induction t with
  | nil => cases h
  | cons e rest ih =>
    obtain ⟨k, v⟩ := e
    rw [get?_cons] at h
    split at h
    · next hk =>
      rw [hk, Option.some.inj h]
      exact .head _
    · exact .tail _ (ih h)

theorem exists_get?_of_mem {t : Keyed α} {name : String} {value : α} (h : (name, value) ∈ t) :
    ∃ v, t.get? name = some v := by
  induction t with
  | nil => cases h
  | cons e rest ih =>
    obtain ⟨k, v⟩ := e
    rw [get?_cons]
    split
    · exact ⟨v, rfl⟩
    · next hk =>
      rcases List.mem_cons.mp h with e | h
      · exact absurd (congrArg Prod.fst e).symm hk
      · exact ih h

/-- Where names are distinct every entry is found under its name. -/
theorem get?_eq_some_iff {t : Keyed α} (h : t.keys.Nodup) {name : String} {value : α} :
    t.get? name = some value ↔ (name, value) ∈ t := by
  refine ⟨mem_of_get?_eq_some, fun hm => ?_⟩
  induction t with
  | nil => cases hm
  | cons e rest ih =>
    obtain ⟨k, v⟩ := e
    obtain ⟨new, distinct⟩ : k ∉ keys rest ∧ (keys rest).Nodup := List.nodup_cons.mp h
    rw [get?_cons]
    rcases List.mem_cons.mp hm with same | later
    · cases same
      exact if_pos rfl
    · -- another name, since this one stands later and only once
      have other : k ≠ name := fun e => new (e ▸ List.mem_map_of_mem later)
      rw [if_neg other]
      exact ih distinct later

/-- Where names are distinct a name has one value. -/
theorem eq_of_mem {t : Keyed α} (h : t.keys.Nodup) {name : String} {v w : α} (hv : (name, v) ∈ t)
    (hw : (name, w) ∈ t) : v = w := by
  have first := (get?_eq_some_iff h).mpr hv
  rw [(get?_eq_some_iff h).mpr hw] at first
  exact (Option.some.inj first).symm

/-- After settings, one after the other, a name has the value that was set last, or its old one. -/
theorem get?_foldl_set (t : Keyed α) (entries : Keyed α) (name : String) :
    get? (entries.foldl (fun t e => t.set e.1 e.2) t) name =
      (get? entries.reverse name).or (t.get? name) := by
  induction entries generalizing t with
  | nil => rfl
  | cons e rest ih =>
    obtain ⟨k, v⟩ := e
    rw [List.foldl_cons, ih, List.reverse_cons, get?_append, Option.or_assoc, get?_cons, get?_nil]
    by_cases h : k = name
    · rw [if_pos h, h, get?_set_self, Option.some_or]
    · rw [if_neg h, get?_set_of_ne (Ne.symm h), Option.none_or]

@[simp] theorem get?_insert_self (t : Keyed α) (name : String) (value : α) :
    (t.insert name value).get? name = some value := by
  induction t with
  | nil => simp [insert, get?]
  | cons e rest ih =>
    obtain ⟨k, v⟩ := e
    unfold insert
    split
    · simp [get?]
    · next h =>
      split
      · simp [get?]
      · simp [get?, h, ih]

theorem get?_insert_of_ne {t : Keyed α} {name other : String} {value : α} (h : other ≠ name) :
    (t.insert name value).get? other = t.get? other := by
  induction t with
  | nil => simp [insert, get?, Ne.symm h]
  | cons e rest ih =>
    obtain ⟨k, v⟩ := e
    unfold insert
    split
    · next hk => simp [get?, hk, Ne.symm h]
    · split
      · simp [get?, Ne.symm h]
      · simp [get?, ih]

/-- Inserting one entry after the other, a name has the value that came last, or its old one. -/
theorem get?_foldl_insert (t : Keyed α) (entries : Keyed α) (name : String) :
    get? (entries.foldl (fun t e => t.insert e.1 e.2) t) name =
      (get? entries.reverse name).or (t.get? name) := by
  induction entries generalizing t with
  | nil => rfl
  | cons e rest ih =>
    obtain ⟨k, v⟩ := e
    rw [List.foldl_cons, ih, List.reverse_cons, get?_append, Option.or_assoc, get?_cons, get?_nil]
    by_cases h : k = name
    · rw [if_pos h, h, get?_insert_self, Option.some_or]
    · rw [if_neg h, get?_insert_of_ne (Ne.symm h), Option.none_or]

/-! ### Names -/

/-- The names of a table are those that it has a value for. -/
theorem get?_eq_none_iff {t : Keyed α} {name : String} : t.get? name = none ↔ name ∉ t.keys := by
  induction t with
  | nil => simp [keys]
  | cons e rest ih =>
    obtain ⟨k, v⟩ := e
    rw [get?_cons]
    by_cases h : k = name
    · simp [keys, h]
    · simpa [keys, h, Ne.symm h] using ih

theorem mem_keys_insert {t : Keyed α} {name other : String} {value : α} :
    other ∈ (t.insert name value).keys ↔ other = name ∨ other ∈ t.keys := by
  by_cases h : other = name
  · have found : (t.insert name value).get? other ≠ none := by simp [h]
    rw [ne_eq, get?_eq_none_iff, Decidable.not_not] at found
    simp [h, h ▸ found]
  · have same : (t.insert name value).get? other = t.get? other := get?_insert_of_ne h
    have missing : other ∉ (t.insert name value).keys ↔ other ∉ t.keys := by
      rw [← get?_eq_none_iff, ← get?_eq_none_iff, same]
    simpa [h] using Decidable.not_iff_not.mp missing

/-- A table that is sorted by name stays so, and its names stay distinct. -/
theorem sorted_insert {t : Keyed α} (h : t.keys.Pairwise (· < ·)) (name : String) (value : α) :
    (t.insert name value).keys.Pairwise (· < ·) := by
  induction t with
  | nil => simp [insert, keys]
  | cons e rest ih =>
    obtain ⟨k, v⟩ := e
    obtain ⟨first, sorted⟩ : (∀ n ∈ keys rest, k < n) ∧ (keys rest).Pairwise (· < ·) :=
      List.pairwise_cons.mp h
    unfold insert
    split
    · next same =>
      rw [← same]
      exact h
    · next other =>
      split
      · -- the name comes before this one, and so before all that follow
        next before =>
        apply List.pairwise_cons.mpr
        refine ⟨?_, h⟩
        intro n hn
        rcases List.mem_cons.mp hn with rfl | hn
        · exact before
        · exact String.lt_trans before (first n hn)
      · next notBefore =>
        -- the name comes later than this one
        have after : k < name := Std.lt_of_le_of_ne (String.not_lt.mp notBefore) other
        apply List.pairwise_cons.mpr
        refine ⟨?_, ih sorted⟩
        intro n hn
        rcases mem_keys_insert.mp hn with rfl | hn
        · exact after
        · exact first n hn

/-- The table of a list of entries is sorted by name, -/
theorem sorted_ofList (entries : List (String × α)) : (ofList entries).keys.Pairwise (· < ·) := by
  have general (t : Keyed α) (h : t.keys.Pairwise (· < ·)) :
      (entries.foldl (fun t e => t.insert e.1 e.2) t).keys.Pairwise (· < ·) := by
    induction entries generalizing t with
    | nil => exact h
    | cons e rest ih => exact ih (t.insert e.1 e.2) (sorted_insert h e.1 e.2)
  exact general [] .nil

/-- of the entries of one name it has the last, -/
theorem get?_ofList (entries : List (String × α)) (name : String) :
    (ofList entries).get? name = get? entries.reverse name := by
  rw [ofList, get?_foldl_insert, get?_nil, Option.or_none]

/-- and no name is lost. -/
theorem mem_keys_ofList {entries : List (String × α)} {name : String} :
    name ∈ (ofList entries).keys ↔ name ∈ entries.map (·.1) := by
  have missing : name ∉ (ofList entries).keys ↔ name ∉ keys entries.reverse := by
    rw [← get?_eq_none_iff, ← get?_eq_none_iff, get?_ofList]
  rw [Decidable.not_iff_not.mp missing, keys, List.map_reverse, List.mem_reverse]

/-! ### Tables of the values of a function -/

theorem get?_pairs (names : List String) (f : String → α) (name : String) :
    get? (names.map fun n => (n, f n)) name = if name ∈ names then some (f name) else none := by
  induction names with
  | nil => rfl
  | cons n rest ih =>
    rw [List.map_cons, get?_cons, ih]
    by_cases h : n = name
    · simp [h]
    · simp [h, Ne.symm h]

/-- Setting a value changes the function in one place; a new name goes to the end. -/
theorem set_pairs {names : List String} (distinct : names.Nodup) (f : String → α) (name : String)
    (value : α) :
    set (names.map fun n => (n, f n)) name value =
      (names ++ if name ∈ names then [] else [name]).map fun n =>
        (n, if n = name then value else f n) := by
  induction names with
  | nil => simp [set]
  | cons n rest ih =>
    rw [List.nodup_cons] at distinct
    rw [List.map_cons, set]
    -- the name stands once, so no later pair changes
    by_cases h : n = name
    · subst h
      have others : ∀ m ∈ rest, (m, f m) = (m, if m = n then value else f m) := by
        intro m hm
        have : m ≠ n := fun e => distinct.1 (e ▸ hm)
        rw [if_neg this]
      simp [List.map_congr_left others]
    · rw [if_neg h, ih distinct.2]
      simp [h, Ne.symm h]

/-- Sorting loses nothing. -/
theorem get?_ofList_pairs (names : List String) (f : String → α) (name : String) :
    get? (ofList (names.map fun n => (n, f n))) name =
      if name ∈ names then some (f name) else none := by
  rw [get?_ofList, ← List.map_reverse, get?_pairs]
  simp only [List.mem_reverse]

end Keyed

end CloudApi
