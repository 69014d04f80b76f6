import CloudApi.CommandLine.Assignment
import CloudApi.Proofs.JoinedPairs

/-!
# Reading assignments

An assignment is cut at its first equals sign, and what follows that at every comma. Whatever has
been quoted for a later reader is cut all the same. Of the text after the sign only commas and
blanks are lost.

## Key results

- `splitAssignment_eq_ok_iff`: where the name ends and the values begin
- `valuesOf_join`: what is read where texts are joined by commas
- `count_valuesOf`: no character is lost that is neither a comma nor a blank
-/

namespace CloudApi

namespace Text

theorem pieces_eq_splitOn (c : Char) (cs : List Char) : pieces (· = c) cs = cs.splitOn c := by
  rw [pieces_eq_splitOnP, List.splitOn_eq_splitOnP]
  rfl

/-- Trimming drops blanks only. -/
theorem count_trimList {c : Char} (h : isBlank c = false) (cs : List Char) :
    (trimList cs).count c = cs.count c := by
  have none (blanks : List Char) (hb : ∀ d ∈ blanks, isBlank d = true) : blanks.count c = 0 := by
    rw [List.count_eq_zero]
    intro mem
    rw [hb c mem] at h
    cases h
  obtain ⟨front, back, split, hf, hb⟩ := trimList_isMiddle cs
  conv_rhs => rw [split]
  rw [List.count_append, List.count_append, none front hf, none back hb, Nat.zero_add, Nat.add_zero]

end Text

namespace CommandLine

open Text (isBlank trimList HeadFails LastFails)

/-- A text can stand as a value among others and is read as it is. -/
structure IsValue (s : String) : Prop where
  nonempty : s ≠ ""
  comma : ',' ∉ s.toList
  start : HeadFails isBlank s.toList
  finish : LastFails isBlank s.toList

/-- The items between the commas are trimmed, and those that are blank are dropped. -/
theorem valuesOf_join {items : List String} (ne : items ≠ [])
    (free : ∀ s ∈ items, ',' ∉ s.toList) :
    valuesOf (Text.join "," items).toList =
      (items.map fun s => trimList s.toList).filter (· ≠ []) := by
  rw [valuesOf, Text.pieces_eq_splitOn, Text.splitOn_join_comma ne free, List.map_map]
  rfl

theorem valuesOf_join_values {values : List String} (ne : values ≠ [])
    (h : ∀ v ∈ values, IsValue v) :
    valuesOf (Text.join "," values).toList = values.map String.toList := by
  -- a value has no blanks at its ends, so it is trimmed to itself
  have trimmed : (values.map fun s => trimList s.toList) = values.map String.toList := by
    refine List.map_congr_left ?_
    intro v hv
    exact Text.trimList_eq_self (h v hv).start (h v hv).finish
  rw [valuesOf_join ne fun v hv => (h v hv).comma, trimmed, List.filter_eq_self]
  -- and it is not empty, so the filter leaves it
  intro cs hcs
  obtain ⟨v, hv, rfl⟩ := List.mem_map.mp hcs
  have some_text : v.toList ≠ [] := fun e => (h v hv).nonempty (String.toList_inj.mp e)
  exact decide_eq_true some_text

/-- Each other character is in the values as often as in the text. -/
theorem count_valuesOf {c : Char} (comma : c ≠ ',') (blank : isBlank c = false) (cs : List Char) :
    (valuesOf cs).flatten.count c = cs.count c := by
  have pieces : (Text.pieces (· = ',') cs).flatten.count c = cs.count c := by
    rw [Text.flatten_pieces, List.count_filter]
    simp [comma]
  rw [valuesOf, List.flatten_filter_ne_nil, ← pieces, List.count_flatten, List.count_flatten,
    List.map_map]
  refine congrArg List.sum (List.map_congr_left ?_)
  intro piece _
  exact Text.count_trimList blank piece

/-- The name ends at the first equals sign, and some value must follow. -/
theorem splitAssignment_eq_ok_iff {text name : String} {values : List String} :
    splitAssignment text = .ok (name, values) ↔
      ∃ before after, text.toList = before ++ '=' :: after ∧ '=' ∉ before ∧ valuesOf after ≠ [] ∧
        name = String.ofList (trimList before) ∧
        values = (valuesOf after).map String.ofList := by
  constructor
  · intro h
    unfold splitAssignment at h
    split at h
    · -- there is no equals sign
      cases h
    · next before after cut =>
      obtain ⟨split, free⟩ := Text.cut?_eq_some cut
      split at h
      · cases h
      · next some_value =>
        cases h
        exact ⟨before, after, split, free, some_value, rfl, rfl⟩
  · -- the first equals sign is the one that has none before it
    rintro ⟨before, after, split, free, some_value, rfl, rfl⟩
    unfold splitAssignment
    rw [split, Text.cut?_append after free]
    dsimp only
    split
    · next none => exact absurd none some_value
    · rfl

end CommandLine

end CloudApi
