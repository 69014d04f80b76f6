import CloudApi.Proofs.SentTexts
import CloudApi.Proofs.WholeNumbers

/-!
# Integers among loose values

A whole number of 64 bits is kept as a number if it is a signed one, and as its text if it is
larger. A list of texts does not see the difference: either way the element is the decimal text of
the number, wherever it stands, and this is the text that is sent. A list of numbers does see it,
and takes the signed ones only.

## Key results

- `Loose.ofJson_whole`: how a whole number is kept
- `Loose.readAs_text`, `Loose.readAs_int`, `Loose.refusedAs_int`: an integer as an element
- `integers_are_sent_as_written`: integers as identifiers, as values of filters, and as names of
  attributes
-/

namespace CloudApi

open Loose (HasAt ofJson)

namespace Loose

/-! ### Integers as elements -/

/-- Alone the document is read as the list of `x`; in a list it is read as `x` in its place, apart
from what stands before it and after it. -/
structure ReadAs (α : Type) [LooseElement α] (j : Json) (x : α) : Prop where
  alone : (ofJson j).toList α = .ok [x]
  listed : ∀ front back xs, (ofJson (.array (front ++ j :: back))).toList α = .ok xs ↔
    ∃ before after, (ofJson (.array front)).toList α = .ok before ∧
      (ofJson (.array back)).toList α = .ok after ∧ xs = before ++ x :: after

/-- Alone the document is refused with this error; a list that holds it is refused, and with the
error at its place if all elements before it are read. -/
structure RefusedAs (α : Type) [LooseElement α] (j : Json) (e : ShapeError) : Prop where
  alone : (ofJson j).toList α = .error e
  listed : ∀ front back xs, (ofJson (.array (front ++ j :: back))).toList α ≠ .ok xs
  first : ∀ front back before, (ofJson (.array front)).toList α = .ok before →
    (ofJson (.array (front ++ j :: back))).toList α = .error (.atItem front.length e)

section

variable {α : Type} [LooseElement α] {j : Json}

theorem toList_array (items : List Json) :
    (ofJson (.array items)).toList α = (Loose.list (items.map ofJson)).toList α := by
  rw [ofJson, ofItems_eq]

theorem readAs_of_ofLoose {x : α} (single : ∀ vs, ofJson j ≠ .list vs)
    (read : LooseElement.ofLoose (ofJson j) = .ok x) : ReadAs α j x where
  alone := by
    have law := readsLists_toList α
    exact (law.single _ single _).mpr ((law.items _ _).mpr (by simp [read]))
  listed front back xs := by
    rw [ofJson_array, (readsLists_toList α).append_cons_iff, toList_array, toList_array]
    simp [read]

theorem refusedAs_of_ofLoose {e : ShapeError} (single : ∀ vs, ofJson j ≠ .list vs)
    (bad : LooseElement.ofLoose (ofJson j) = (.error e : Except ShapeError α)) :
    RefusedAs α j e where
  alone := ((readsLists_toList α).single_fails _ single _).mpr bad
  listed front back xs h := by
    rw [ofJson_array, (readsLists_toList α).append_cons_iff] at h
    obtain ⟨_, _, _, _, read, _⟩ := h
    rw [bad] at read
    cases read
  first front back before h := by
    rw [toList_array] at h
    rw [ofJson_array, (readsLists_toList α).eq_error_of_bad h bad rfl, List.length_map]

end

/-- A signed number is kept as a number, and any other one as its text. -/
theorem ofJson_whole (n : Int) :
    ofJson (.number (.whole n)) =
      if -2 ^ 63 ≤ n ∧ n < 2 ^ 63 then .int n else .text (toString n) := by
  have limit : (Number.signedLimit : Int) = 2 ^ 63 := rfl
  simp [ofJson, ofNumber, fitsSigned, limit, Number.text]

theorem ofJson_whole_ne_list (n : Int) (vs : List Loose) :
    ofJson (.number (.whole n)) ≠ .list vs := by
  rw [ofJson_whole]
  split <;> exact nofun

/-- The text does not depend on how the number is kept. -/
theorem scalarText?_whole (n : Int) :
    (ofJson (.number (.whole n))).scalarText? = some (toString n) := by
  rw [ofJson_whole]
  split <;> rfl

/-- As a text, an integer is its decimal text. -/
theorem readAs_text (n : Int) : ReadAs String (.number (.whole n)) (toString n) := by
  refine readAs_of_ofLoose (ofJson_whole_ne_list n) ?_
  simp only [LooseElement.ofLoose, scalarText?_whole]

/-- As a number, it is taken if it is a signed one, -/
theorem readAs_int {n : Int} (least : -2 ^ 63 ≤ n) (signed : n < 2 ^ 63) :
    ReadAs Int (.number (.whole n)) n := by
  refine readAs_of_ofLoose (ofJson_whole_ne_list n) ?_
  rw [ofJson_whole, if_pos ⟨least, signed⟩]
  rfl

/-- and refused, since it is a text, if it is larger. -/
theorem refusedAs_int {n : Int} (large : 2 ^ 63 ≤ n) :
    RefusedAs Int (.number (.whole n)) (.mismatch "Int" "String") := by
  refine refusedAs_of_ofLoose (ofJson_whole_ne_list n) ?_
  rw [ofJson_whole, if_neg (by omega)]
  rfl

end Loose

/-- A whole number of 64 bits is read from its decimal text. As an element of a list of texts it is
this text again, alone or in any place, and as an element of a list of numbers it is the number,
if it is a signed one; a larger one is refused there. Its decimal text is what is sent, wherever the
number is given. -/
theorem integers_are_sent_as_written {n : Int} (least : -2 ^ 63 ≤ n) (largest : n < 2 ^ 64) :
    Json.read (toString n) = some (.number (.whole n)) ∧
    Loose.ReadAs String (.number (.whole n)) (toString n) ∧
    (n < 2 ^ 63 → Loose.ReadAs Int (.number (.whole n)) n) ∧
    (2 ^ 63 ≤ n → Loose.RefusedAs Int (.number (.whole n)) (.mismatch "Int" "String")) ∧
    SentAs (.number (.whole n)) (toString n) := by
  have read : Json.read (toString n) = some (.number (.whole n)) := by
    have nothingFollows : Text.HeadFails Number.carriesOn [] := nofun
    have whole := Json.readValue_toString least largest nothingFollows
    simp only [List.append_nil] at whole
    simp only [Json.read, whole]
    rfl
  exact ⟨read, Loose.readAs_text n, Loose.readAs_int least, Loose.refusedAs_int,
    sentAs_of_scalarText? (Loose.scalarText?_whole n)⟩

/-! The largest number that is read, as the second one of two identifiers of volumes and of two
names of attributes. -/

private def textAndLargest : Json :=
  .array [.text "vol-1", .number (.whole 18446744073709551615)]

theorem largest_number_is_sent :
    (ofJson textAndLargest).toList String = .ok ["vol-1", "18446744073709551615"] ∧
    (ofJson (.array [.number (.whole 18446744073709551615)])).toList Int =
      .error (.atItem 0 (.mismatch "Int" "String")) ∧
    (∃ r, (Ec2.volumesIn "us-east-1").queryOfLoose (ofJson textAndLargest) (.list []) >>=
        (Ec2.volumesIn "us-east-1").prepare = .ok r ∧
      r.param? "VolumeId.2" = some "18446744073709551615") ∧
    ∃ e, Ec2.accountAttributes (ofJson textAndLargest) = .ok e ∧
      ∀ endpoint version,
        ((Protocol.ec2Query .aws).prepare endpoint version e).param? "AttributeName.2" =
          some "18446744073709551615" := by
  obtain ⟨_, asText, _, refused, sent⟩ :=
    integers_are_sent_as_written (n := 18446744073709551615) (by omega) (by omega)
  -- the number stands behind a text, as the second item
  have place : HasAt Loose.HasText (.number (.whole 18446744073709551615)) textAndLargest 2 :=
    .listed [.text "vol-1"] [] fun other mem => List.mem_singleton.mp mem ▸ ⟨"vol-1", rfl⟩
  have compute : (Ec2.volumesIn "us-east-1").IsCompute :=
    ⟨by simp [Ec2.volumesIn, Ec2.definitions], .aws, rfl⟩
  obtain ⟨e, built, found⟩ := sent.attributes textAndLargest 2 place
  refine ⟨(asText.listed [.text "vol-1"] [] _).mpr ⟨["vol-1"], [], rfl, rfl, rfl⟩, ?_, ?_, ?_⟩
  · exact (refused (by omega)).first [] [] [] rfl
  · exact sent.ids _ compute "VolumeId" rfl textAndLargest 2 place (.list []) [] rfl
  · exact ⟨e, built, found .aws⟩

end CloudApi
