import CloudApi.Proofs.Assignments

/-!
# The items of an assignment

What follows the first equals sign of an assignment are items between commas. Each item that is not
blank gives a value, in order: the item without the blanks around it. An assignment is read if there
is an equals sign and such an item, and it does not matter how many blank items there are and how
many blanks stand around the name and the values.

## Key results

- `holds_itemsOf`: the values that are read are those that the items hold
- `Holds.trimmed`: and items hold no others
- `valuesOf_ne_nil_iff`: some value is read if some item is not blank
- `assignments_are_read_by_item`: which assignments are read, and what they come to
-/

namespace CloudApi.CommandLine

open Text (IsBlankText isBlank trimList HeadFails LastFails)

/-- The text stands between blanks. -/
def IsPadded (s padded : String) : Prop :=
  ∃ front back, IsBlankText front ∧ IsBlankText back ∧ padded = front ++ s ++ back

/-- The text without the blanks around it. -/
structure IsTrimmed (s trimmed : String) : Prop where
  padded : IsPadded trimmed s
  start : HeadFails isBlank trimmed.toList
  finish : LastFails isBlank trimmed.toList

/-- The values stand in the items in order, each one between blanks, and all other items are
blank. -/
inductive Holds : List String → List String → Prop where
  | nil : Holds [] []
  | blank {item : String} {items values : List String} (h : IsBlankText item)
    (rest : Holds items values) : Holds (item :: items) values
  | value {item v : String} {items values : List String} (h : IsPadded v item) (hv : IsValue v)
    (rest : Holds items values) : Holds (item :: items) (v :: values)

/-- The items between the commas of a text. -/
def itemsOf (s : String) : List String := (s.toList.splitOn ',').map String.ofList

/-! ### Blanks around a text -/

theorem isPadded_iff {s padded : String} :
    IsPadded s padded ↔ ∃ front back, padded.toList = front ++ s.toList ++ back ∧
      (∀ c ∈ front, isBlank c = true) ∧ ∀ c ∈ back, isBlank c = true := by
  constructor
  · rintro ⟨front, back, hf, hb, rfl⟩
    exact ⟨front.toList, back.toList, by simp, hf, hb⟩
  · rintro ⟨front, back, split, hf, hb⟩
    refine ⟨String.ofList front, String.ofList back, ?_, ?_, ?_⟩
    · simpa [IsBlankText] using hf
    · simpa [IsBlankText] using hb
    · exact String.toList_inj.mp (by simp [split])

theorem isTrimmed_iff {s trimmed : String} :
    IsTrimmed s trimmed ↔ trimList s.toList = trimmed.toList := by
  rw [Text.trimList_eq_iff, ← isPadded_iff]
  exact ⟨fun h => ⟨h.padded, h.start, h.finish⟩, fun h => ⟨h.1, h.2.1, h.2.2⟩⟩

/-- No other character is among the blanks. -/
theorem mem_of_isPadded {s padded : String} (h : IsPadded s padded) {c : Char}
    (other : isBlank c = false) : c ∈ padded.toList ↔ c ∈ s.toList := by
  obtain ⟨front, back, hf, hb, rfl⟩ := h
  have notIn {blanks : String} (blank : IsBlankText blanks) : c ∉ blanks.toList := by
    intro mem
    rw [blank c mem] at other
    cases other
  simp [notIn hf, notIn hb]

/-! ### What items hold -/

/-- The values are what is left when the items are trimmed and the blank ones are dropped. -/
theorem Holds.trimmed {items values : List String} (h : Holds items values) :
    (items.map fun item => trimList item.toList).filter (· ≠ []) = values.map String.toList := by
  induction h with
  | nil => rfl
  -- an item of blanks trims to nothing, and the filter drops it
  | @blank item _ _ h _ ih =>
    have dropped : trimList item.toList = [] := Text.trimList_eq_nil_iff.mpr h
    rw [List.map_cons, dropped, List.filter_cons_of_neg (by simp), ih]
  -- an item with a value trims to that value, since no blank stands at its ends
  | @value item v _ _ h hv _ ih =>
    have kept : trimList item.toList = v.toList := isTrimmed_iff.mp ⟨h, hv.start, hv.finish⟩
    have nonempty : v.toList ≠ [] := fun e => hv.nonempty (String.toList_inj.mp e)
    rw [List.map_cons, kept, List.filter_cons_of_pos (by simpa using nonempty), ih, List.map_cons]

/-- Items that hold values have no commas. -/
theorem Holds.comma_free {items values : List String} (h : Holds items values) :
    ∀ item ∈ items, ',' ∉ item.toList := by
  have noBlank : isBlank ',' = false := by decide
  induction h with
  | nil => exact nofun
  | blank h _ ih =>
    refine List.forall_mem_cons.mpr ⟨fun mem => ?_, ih⟩
    rw [h ',' mem] at noBlank
    cases noBlank
  | value h hv _ ih =>
    refine List.forall_mem_cons.mpr ⟨fun mem => ?_, ih⟩
    -- a comma would be one of the value, not of the blanks
    exact hv.comma ((mem_of_isPadded h noBlank).mp mem)

/-- Items without commas hold what is left of them. -/
theorem holds_of_comma_free {items : List String} (free : ∀ item ∈ items, ',' ∉ item.toList) :
    Holds items (((items.map fun item => trimList item.toList).filter (· ≠ [])).map
      String.ofList) := by
  induction items with
  | nil => exact .nil
  | cons item items ih =>
    obtain ⟨first, later⟩ := List.forall_mem_cons.mp free
    rw [List.map_cons]
    -- an item of blanks leaves nothing, and any other one leaves a value
    by_cases dropped : trimList item.toList = []
    · rw [dropped, List.filter_cons_of_neg (by simp)]
      exact .blank (Text.trimList_eq_nil_iff.mp dropped) (ih later)
    · have trimmed : IsTrimmed item (String.ofList (trimList item.toList)) :=
        isTrimmed_iff.mpr String.toList_ofList.symm
      have value : IsValue (String.ofList (trimList item.toList)) := by
        refine ⟨?_, ?_, trimmed.start, trimmed.finish⟩
        · intro empty
          exact dropped (String.ofList_eq_empty_iff.mp empty)
        · intro mem
          exact first ((mem_of_isPadded trimmed.padded (by decide)).mpr mem)
      rw [List.filter_cons_of_pos (by simpa using dropped), List.map_cons]
      exact .value trimmed.padded value (ih later)

/-! ### Reading items -/

theorem comma_free_itemsOf (s : String) : ∀ item ∈ itemsOf s, ',' ∉ item.toList := by
  intro item hi mem
  obtain ⟨piece, hp, rfl⟩ := List.mem_map.mp hi
  rw [← Text.pieces_eq_splitOn] at hp
  rw [String.toList_ofList] at mem
  exact absurd (Text.mem_pieces hp ',' mem).2 (by decide)

theorem valuesOf_eq_trimmed (s : String) :
    valuesOf s.toList = ((itemsOf s).map fun item => trimList item.toList).filter (· ≠ []) := by
  rw [valuesOf, Text.pieces_eq_splitOn, itemsOf, List.map_map]
  simp [Function.comp_def]

/-- The values that are read are those that the items hold. -/
theorem holds_itemsOf (s : String) :
    Holds (itemsOf s) ((valuesOf s.toList).map String.ofList) :=
  valuesOf_eq_trimmed s ▸ holds_of_comma_free (comma_free_itemsOf s)

/-- Some value is read if some item is not blank. -/
theorem valuesOf_ne_nil_iff (s : String) :
    valuesOf s.toList ≠ [] ↔ ∃ item ∈ itemsOf s, ¬ IsBlankText item := by
  rw [valuesOf_eq_trimmed, Ne, List.filter_eq_nil_iff]
  simp [IsBlankText, Text.trimList_eq_nil_iff]

theorem Holds.isValue {items values : List String} (h : Holds items values) :
    ∀ v ∈ values, IsValue v := by
  induction h with
  | nil => exact nofun
  | blank _ _ ih => exact ih
  | value _ hv _ ih => exact List.forall_mem_cons.mpr ⟨hv, ih⟩

/-- What is read of an assignment, from what stands before the first equals sign and after it. -/
theorem splitAssignment_eq_ok_iff_parts {text name : String} {values : List String} :
    splitAssignment text = .ok (name, values) ↔
      ∃ before after, text = before ++ "=" ++ after ∧ '=' ∉ before.toList ∧
        valuesOf after.toList ≠ [] ∧ IsTrimmed before name ∧
        values = (valuesOf after.toList).map String.ofList := by
  rw [splitAssignment_eq_ok_iff]
  -- both sides tell the same; only the texts are lists of characters on one of them
  constructor
  · rintro ⟨before, after, split, free, some_value, rfl, rfl⟩
    refine ⟨String.ofList before, String.ofList after, ?_, ?_, ?_, ?_, ?_⟩
    · exact String.toList_inj.mp (by simp [split])
    · rwa [String.toList_ofList]
    · rwa [String.toList_ofList]
    · exact isTrimmed_iff.mpr (by simp)
    · rw [String.toList_ofList]
  · rintro ⟨before, after, rfl, free, some_value, trimmed, rfl⟩
    refine ⟨before.toList, after.toList, by simp, free, some_value, ?_, rfl⟩
    rw [isTrimmed_iff.mp trimmed, String.ofList_toList]

/-- Every way of writing a name and values is read back. -/
theorem splitAssignment_written {name padded : String} {items values : List String}
    (free : '=' ∉ name.toList) (hp : IsPadded name padded) (h : Holds items values)
    (ne : values ≠ []) :
    ∃ trimmed, IsTrimmed name trimmed ∧
      splitAssignment (padded ++ "=" ++ Text.join "," items) = .ok (trimmed, values) := by
  -- without an item no value would be held
  have some_item : items ≠ [] := by
    rintro rfl
    cases h
    exact ne rfl
  -- no item has a comma, so the joined text falls apart into the items again
  have read : valuesOf (Text.join "," items).toList = values.map String.toList :=
    (valuesOf_join some_item h.comma_free).trans h.trimmed
  refine ⟨String.ofList (trimList name.toList), isTrimmed_iff.mpr (by simp), ?_⟩
  refine splitAssignment_eq_ok_iff_parts.mpr ⟨padded, _, rfl, ?_, ?_, ?_, ?_⟩
  · rwa [mem_of_isPadded hp (by decide)]
  · simpa [read] using ne
  · -- the blanks that have been added are trimmed off with those of the name
    obtain ⟨front, back, split, hf, hb⟩ := isPadded_iff.mp hp
    rw [isTrimmed_iff, split, Text.trimList_between hf hb, String.toList_ofList]
  · simp [read, Function.comp_def]

/-- An argument is an assignment if it has an equals sign and an item after it that is not blank.
The name is what stands before the first equals sign, without the blanks around it, and the values
are the items that are not blank, in order and without the blanks around them. So a name and values
are read back from every way of writing them with blanks around each of them and with blank items in
between. -/
theorem assignments_are_read_by_item :
    (∀ text, (∃ name values, splitAssignment text = .ok (name, values)) ↔
      ∃ before after, text = before ++ "=" ++ after ∧ '=' ∉ before.toList ∧
        ∃ item ∈ itemsOf after, ¬ IsBlankText item) ∧
    (∀ text name values, splitAssignment text = .ok (name, values) →
      values ≠ [] ∧ (∀ v ∈ values, IsValue v) ∧
      ∃ before after, text = before ++ "=" ++ after ∧ '=' ∉ before.toList ∧
        IsTrimmed before name ∧ Holds (itemsOf after) values) ∧
    ∀ name padded items values, '=' ∉ name.toList → IsPadded name padded →
      Holds items values → values ≠ [] →
      ∃ trimmed, IsTrimmed name trimmed ∧
        splitAssignment (padded ++ "=" ++ Text.join "," items) = .ok (trimmed, values) := by
  -- the third clause has been shown of written assignments
  refine ⟨fun text => ?_, fun text name values read => ?_, fun _ _ _ _ => splitAssignment_written⟩
  · constructor
    · rintro ⟨name, values, read⟩
      obtain ⟨before, after, split, free, some_value, _⟩ := splitAssignment_eq_ok_iff_parts.mp read
      exact ⟨before, after, split, free, (valuesOf_ne_nil_iff after).mp some_value⟩
    · -- one item that is not blank leaves a value, and that is all that is asked for
      rintro ⟨before, after, split, free, some_item⟩
      have trimmed : IsTrimmed before _ := isTrimmed_iff.mpr String.toList_ofList.symm
      exact ⟨_, _, splitAssignment_eq_ok_iff_parts.mpr
        ⟨before, after, split, free, (valuesOf_ne_nil_iff after).mpr some_item, trimmed, rfl⟩⟩
  · obtain ⟨before, after, split, free, some_value, trimmed, rfl⟩ :=
      splitAssignment_eq_ok_iff_parts.mp read
    have holds := holds_itemsOf after
    exact ⟨by simpa using some_value, holds.isValue, before, after, split, free, trimmed, holds⟩

/-! Three values with a blank item among them and another one behind them. The first value holds an
equals sign, and the blanks inside the second one are its own. -/

private def ownerItems : List String := ["\t a=b", "", " New York\u3000", "self", "  "]

theorem padded_owners_are_read :
    Holds ownerItems ["a=b", "New York", "self"] ∧
    splitAssignment (" Owner " ++ "=" ++ Text.join "," ownerItems) =
      .ok ("Owner", ["a=b", "New York", "self"]) := by
  have first : IsPadded "a=b" "\t a=b" := ⟨"\t ", "", by decide, by decide, rfl⟩
  have second : IsPadded "New York" " New York\u3000" :=
    ⟨" ", "\u3000", by decide, by decide, rfl⟩
  have third : IsPadded "self" "self" := ⟨"", "", by decide, by decide, rfl⟩
  have name : IsPadded "Owner" " Owner " := ⟨" ", " ", by decide, by decide, rfl⟩
  have holds : Holds ownerItems ["a=b", "New York", "self"] :=
    .value first ⟨by decide, by decide, by decide, by decide⟩ <|
      .blank (by decide) <|
      .value second ⟨by decide, by decide, by decide, by decide⟩ <|
      .value third ⟨by decide, by decide, by decide, by decide⟩ <|
      .blank (by decide) .nil
  obtain ⟨trimmed, own, read⟩ :=
    assignments_are_read_by_item.2.2 "Owner" " Owner " _ _ (by decide) name holds (by simp)
  obtain rfl : trimmed = "Owner" := String.toList_inj.mp (isTrimmed_iff.mp own).symm
  exact ⟨holds, read⟩

end CloudApi.CommandLine
