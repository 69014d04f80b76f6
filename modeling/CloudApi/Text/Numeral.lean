/-! # Numerals

Reading and writing whole numbers in base ten, and reading them in base sixteen.  A reader here
takes a row of digits and nothing else: no sign, no blanks, no separators.

* `digitValue?_of_isDigit` the value of a digit
* `decimalValue?_toDigits` what is written is read back
* `exists_toDigits_eq_cons` no leading zeros are written
* `toList_toString`, `signOrDigit_of_mem_toString` a whole number is written by its digits, after a
  sign if it is negative -/

namespace CloudApi.Text

/-- The value of a decimal digit. -/
def digitValue? (c : Char) : Option Nat :=
  if '0' ≤ c ∧ c ≤ '9' then some (c.toNat - 48) else none

/-- The value of a digit of base sixteen, in either case. -/
def hexValue? (c : Char) : Option Nat :=
  if '0' ≤ c ∧ c ≤ '9' then some (c.toNat - 48)
  else if 'a' ≤ c ∧ c ≤ 'f' then some (c.toNat - 87)
  else if 'A' ≤ c ∧ c ≤ 'F' then some (c.toNat - 55)
  else none

/-- The value of a row of digits read after the value `acc`, or nothing if one is no digit. -/
def valueFrom? (digit? : Char → Option Nat) (base acc : Nat) : List Char → Option Nat
  | [] => some acc
  | c :: cs =>
    match digit? c with
    | some d => valueFrom? digit? base (acc * base + d) cs
    | none => none

/-- The value of a row of decimal digits; the empty row has none. -/
def decimalValue? : List Char → Option Nat
  | [] => none
  | cs => valueFrom? digitValue? 10 0 cs

/-- The digits of a number in base ten, no leading zeros. -/
def decimal (n : Nat) : String := toString n

/-! ### Written digits -/

theorem digitValue?_of_isDigit {c : Char} (h : c.isDigit = true) :
    digitValue? c = some (c.toNat - '0'.toNat) := by
  have range : '0' ≤ c ∧ c ≤ '9' := Char.isDigit_iff_toNat.mp h
  rw [digitValue?, if_pos range]
  rfl

theorem valueFrom?_of_isDigit {cs : List Char} (h : ∀ c ∈ cs, c.isDigit = true) (acc : Nat) :
    valueFrom? digitValue? 10 acc cs = some (Nat.ofDigitChars 10 cs acc) := by
  induction cs generalizing acc with
  | nil => rfl
  | cons c cs ih =>
    have digit := digitValue?_of_isDigit (h c List.mem_cons_self)
    simp only [valueFrom?, digit]
    rw [ih fun d hd => h d (List.mem_cons_of_mem c hd), Nat.ofDigitChars_cons, Nat.mul_comm acc]

theorem isDigit_of_mem_toDigits {n : Nat} {c : Char} (h : c ∈ Nat.toDigits 10 n) :
    c.isDigit = true :=
  Nat.isDigit_of_mem_toDigits (by decide) (by decide) h

/-- What is written is read back. -/
theorem decimalValue?_toDigits (n : Nat) : decimalValue? (Nat.toDigits 10 n) = some n := by
  have value := valueFrom?_of_isDigit (fun c => isDigit_of_mem_toDigits (n := n) (c := c)) 0
  rw [Nat.ofDigitChars_ten_toDigits] at value
  cases h : Nat.toDigits 10 n with
  | nil => exact absurd h Nat.toDigits_ne_nil
  | cons c cs =>
    rw [h] at value
    exact value

/-- Only zero is written with a zero at the front. -/
theorem exists_toDigits_eq_cons (n : Nat) :
    ∃ c cs, Nat.toDigits 10 n = c :: cs ∧ (c = '0' → n = 0 ∧ cs = []) := by
  induction n using Nat.strongRecOn with
  | _ n ih =>
    by_cases h : n < 10
    · exact ⟨n.digitChar, [], Nat.toDigits_of_lt_base h, fun zero =>
        ⟨Nat.digitChar_eq_zero.mp zero, rfl⟩⟩
    · -- the first digit is that of a tenth of the number, which is not zero
      obtain ⟨c, cs, digits, leading⟩ := ih (n / 10) (by omega)
      have all := Nat.toDigits_of_base_le (b := 10) (by decide) (Nat.le_of_not_lt h)
      rw [digits, List.cons_append] at all
      refine ⟨c, _, all, fun zero => ?_⟩
      have := (leading zero).1
      omega

/-- A whole number is written by its digits, after a sign if it is negative. -/
theorem toList_toString (n : Int) :
    (toString n).toList =
      if 0 ≤ n then Nat.toDigits 10 n.natAbs else '-' :: Nat.toDigits 10 n.natAbs := by
  cases n with
  | ofNat m => exact Nat.toList_repr
  | negSucc m =>
    rw [if_neg (Int.not_le.mpr (Int.negSucc_lt_zero m))]
    show ("-" ++ (m + 1).repr).toList = _
    rw [String.toList_append, Nat.toList_repr]
    rfl

theorem toList_toString_ne_nil (n : Int) : (toString n).toList ≠ [] := by
  rw [toList_toString]
  split
  · exact Nat.toDigits_ne_nil
  · exact List.cons_ne_nil _ _

/-- A written number is made of digits and a sign. -/
theorem signOrDigit_of_mem_toString {n : Int} {c : Char} (h : c ∈ (toString n).toList) :
    c = '-' ∨ c.isDigit = true := by
  rw [toList_toString] at h
  split at h
  · exact .inr (isDigit_of_mem_toDigits h)
  · exact (List.mem_cons.mp h).imp_right isDigit_of_mem_toDigits

end CloudApi.Text
