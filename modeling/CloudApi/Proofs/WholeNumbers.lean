import CloudApi.Json.Reader
import Mathlib

/-!
# Whole numbers are read as they are written

A whole number of 64 bits stands in a document as its decimal digits, after a sign if it is
negative. The reader gathers the digits as long as they fit into 64 bits, which is to the end, and
comes to the number again, provided that nothing follows that would carry the number on.

## Key results

- `gather_eq`: digits whose value fits are all gathered
- `read_toString`: the digits of a number are read as this number
- `Json.readValue_toString`: wherever a document is read
-/

namespace CloudApi

namespace Number

/-- The character carries a number on that stands before it. -/
def carriesOn (c : Char) : Bool :=
  (Text.digitValue? c).isSome || c = '.' || c = 'e' || c = 'E'

/-- The values of digits. -/
def digitValues (cs : List Char) : List Nat := cs.map fun c => c.toNat - '0'.toNat

/-! ### Gathering -/

theorem le_foldl (ds : List Nat) (acc : Nat) : acc ≤ ds.foldl (fun n d => n * 10 + d) acc := by
  induction ds generalizing acc with
  | nil => exact Nat.le_refl acc
  | cons d ds ih =>
    have := ih (acc * 10 + d)
    rw [List.foldl_cons]
    omega

/-- Digits whose value fits are all gathered. -/
theorem gather_eq {ds : List Nat} {acc : Nat}
    (h : ds.foldl (fun n d => n * 10 + d) acc < wordLimit) :
    gather acc ds = (ds.foldl (fun n d => n * 10 + d) acc, []) := by
  induction ds generalizing acc with
  | nil => rfl
  | cons d ds ih =>
    -- what is gathered only grows, so it fits all the way
    have fits : acc * 10 + d < wordLimit := Nat.lt_of_le_of_lt (le_foldl ds (acc * 10 + d)) h
    rw [gather, if_pos fits, ih h, List.foldl_cons]

theorem foldl_digitValues (cs : List Char) (acc : Nat) :
    (digitValues cs).foldl (fun n d => n * 10 + d) acc = Nat.ofDigitChars 10 cs acc := by
  induction cs generalizing acc with
  | nil => rfl
  | cons c cs ih =>
    rw [digitValues, List.map_cons, List.foldl_cons, Nat.ofDigitChars_cons, Nat.mul_comm 10]
    exact ih _

theorem gather_toDigits {n : Nat} (h : n < wordLimit) :
    gather 0 (digitValues (Nat.toDigits 10 n)) = (n, []) := by
  have value : (digitValues (Nat.toDigits 10 n)).foldl (fun n d => n * 10 + d) 0 = n := by
    rw [foldl_digitValues, Nat.ofDigitChars_ten_toDigits]
  rw [gather_eq, value]
  rwa [value]

/-! ### Reading -/

variable {rest : List Char}

theorem takeDigits_append {cs : List Char} (h : ∀ c ∈ cs, c.isDigit = true)
    (stop : Text.HeadFails carriesOn rest) : takeDigits (cs ++ rest) = (digitValues cs, rest) := by
  have digits : ∀ c ∈ cs, (Text.digitValue? c).isSome = true := by
    intro c hc
    rw [Text.digitValue?_of_isDigit (h c hc)]
    rfl
  have values : cs.filterMap Text.digitValue? = digitValues cs := by
    rw [digitValues, List.filterMap_eq_map_iff_forall_eq_some]
    exact fun c hc => Text.digitValue?_of_isDigit (h c hc)
  -- what follows carries no number on, so it begins with no digit
  have noDigit : Text.HeadFails (fun c => (Text.digitValue? c).isSome) rest := by
    intro c hc
    have none := stop c hc
    simp only [carriesOn, Bool.or_eq_false_iff] at none
    exact none.1.1.1
  rw [takeDigits, Text.takeWhile_append_of_headFails digits noDigit,
    Text.dropWhile_append_of_headFails digits noDigit, values]

/-- The digits of a number are taken whole: they have no zero at the front. -/
theorem takeInteger_toDigits (n : Nat) (stop : Text.HeadFails carriesOn rest) :
    takeInteger (Nat.toDigits 10 n ++ rest) = some (digitValues (Nat.toDigits 10 n), rest) := by
  have taken := takeDigits_append (fun c => Text.isDigit_of_mem_toDigits (n := n) (c := c)) stop
  -- there is a first digit, and it is zero only if it is the last one too
  obtain ⟨c, cs, digits, leading⟩ := Text.exists_toDigits_eq_cons n
  rw [takeInteger, taken, digits, digitValues, List.map_cons]
  split
  · next none => cases none
  · next second more _ zero =>
    -- a zero at the front would have to stand alone
    simp only [Prod.mk.injEq, List.cons.injEq] at zero
    have digit := Char.isDigit_iff_toNat.mp (Text.isDigit_of_mem_toDigits (n := n) (c := c)
      (digits ▸ List.mem_cons_self))
    have isZero : c = '0' := Char.toNat_inj.mp (by omega)
    rw [(leading isZero).2] at zero
    cases zero.1.2
  · next ds rest' _ _ all =>
    cases all
    rfl

theorem takeFraction_of_headFails (stop : Text.HeadFails carriesOn rest) :
    takeFraction rest = some (none, rest) := by
  unfold takeFraction
  split
  · exact absurd (stop '.' rfl) (by decide)
  · rfl

theorem takeExponent_of_headFails (stop : Text.HeadFails carriesOn rest) :
    takeExponent rest = some (none, rest) := by
  cases rest with
  | nil => rfl
  | cons c rest =>
    have none := stop c rfl
    simp only [carriesOn, Bool.or_eq_false_iff, decide_eq_false_iff_not] at none
    have notMark : ¬(c = 'e' ∨ c = 'E') := by simp [none]
    simp only [takeExponent, if_neg notMark]

/-- Digits that fit are a whole number, -/
theorem ofDigits_toDigits {n : Nat} (h : n < wordLimit) :
    ofDigits false (digitValues (Nat.toDigits 10 n)) = some (.whole n) := by
  rw [ofDigits, gather_toDigits h]
  rfl

/-- and so they are after a sign, if the number is not zero. -/
theorem ofDigits_toDigits_of_pos {n : Nat} (positive : 0 < n) (h : n ≤ signedLimit) :
    ofDigits true (digitValues (Nat.toDigits 10 n)) = some (.whole (-n)) := by
  have fits : n < wordLimit := Nat.lt_of_le_of_lt h (by decide)
  rw [ofDigits, gather_toDigits fits]
  simp [positive, h]

/-- A number that fits is read as it is written, whatever follows that does not carry it on. -/
theorem read_toString {n : Int} (least : -2 ^ 63 ≤ n) (largest : n < 2 ^ 64)
    (stop : Text.HeadFails carriesOn rest) :
    read ((toString n).toList ++ rest) = some (.whole n, rest) := by
  rw [Text.toList_toString]
  by_cases sign : 0 ≤ n
  · -- 64 bits hold the number
    have fits : n.natAbs < wordLimit := by
      rw [wordLimit]
      omega
    have same : (n.natAbs : Int) = n := Int.natAbs_of_nonneg sign
    -- the first digit is no sign
    have unsigned : ∀ r, Nat.toDigits 10 n.natAbs ++ rest ≠ '-' :: r := by
      obtain ⟨c, cs, digits, -⟩ := Text.exists_toDigits_eq_cons n.natAbs
      have digit := Text.isDigit_of_mem_toDigits (digits ▸ List.mem_cons_self)
      intro r same
      rw [digits, List.cons_append] at same
      rw [(List.cons.inj same).1] at digit
      exact absurd digit (by decide)
    rw [if_pos sign, read]
    · simp only [takeInteger_toDigits _ stop, takeFraction_of_headFails stop,
        takeExponent_of_headFails stop, ofDigits_toDigits fits, same, Option.bind_eq_bind,
        Option.bind_some]
      rfl
    · exact unsigned
  · -- below zero there are 63 bits, and one number more
    have signed : 0 < n.natAbs ∧ n.natAbs ≤ signedLimit := by
      rw [signedLimit]
      omega
    have same : -(n.natAbs : Int) = n := by omega
    rw [if_neg sign, List.cons_append]
    simp only [read, takeInteger_toDigits _ stop, takeFraction_of_headFails stop,
      takeExponent_of_headFails stop, ofDigits_toDigits_of_pos signed.1 signed.2, same,
      Option.bind_eq_bind, Option.bind_some]
    rfl

end Number

namespace Json

/-- A written number begins with a sign or a digit, whatever follows on it. -/
theorem begins_toString {n : Int} {rest : List Char} {c : Char} {cs : List Char}
    (h : (toString n).toList ++ rest = c :: cs) : c = '-' ∨ c.isDigit = true := by
  obtain ⟨d, ds, text⟩ := List.exists_cons_of_ne_nil (Text.toList_toString_ne_nil n)
  rw [text, List.cons_append] at h
  rw [← (List.cons.inj h).1]
  exact Text.signOrDigit_of_mem_toString (text ▸ List.mem_cons_self)

/-- A number that fits is read wherever a document is read. -/
theorem readValue_toString {n : Int} (least : -2 ^ 63 ≤ n) (largest : n < 2 ^ 64)
    {rest : List Char} (stop : Text.HeadFails Number.carriesOn rest) (fuel depth : Nat) :
    readValue (fuel + 1) depth ((toString n).toList ++ rest) =
      some (.number (.whole n), rest) := by
  -- a number begins with no blank
  have unspaced : skipSpace ((toString n).toList ++ rest) = (toString n).toList ++ rest := by
    apply Text.dropWhile_eq_self
    intro c hc
    obtain ⟨cs, text⟩ := List.head?_eq_some_iff.mp hc
    exact Text.isSpace_eq_false (begins_toString text)
  unfold readValue
  rw [unspaced]
  -- no other document begins with a sign or a digit
  split
  iterate 6 next h => exact absurd (begins_toString h) (by decide)
  · rw [Number.read_toString least largest stop]
    rfl

end Json

end CloudApi
