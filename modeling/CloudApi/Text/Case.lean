import CloudApi.Text.CaseTable
import CloudApi.Text.Ranges

/-! # Small and capital letters

`small` and `capital` are the case mappings of one character; both answer with a list, because a
few characters change into more than one.  `lowercase` maps a whole text and writes the small
sigma at the end of a word in its final form.

ASCII is decided first and without the tables:

* `smallList_eq_map` a text of ASCII characters changes character by character, by `asciiSmall` -/

namespace CloudApi.Text

/-- The small form of an ASCII capital; every other character stays. -/
def asciiSmall (c : Char) : Char :=
  if 'A' ≤ c ∧ c ≤ 'Z' then Char.ofNat (c.toNat + 32) else c

/-- The capital form of a small ASCII letter; every other character stays. -/
def asciiCapital (c : Char) : Char :=
  if 'a' ≤ c ∧ c ≤ 'z' then Char.ofNat (c.toNat - 32) else c

/-- The character is one of the 128 of ASCII. -/
def isAscii (c : Char) : Bool := c.toNat < 128

/-- The text has ASCII characters only. -/
def IsAscii (s : String) : Prop := ∀ c ∈ s.toList, isAscii c = true

instance (s : String) : Decidable (IsAscii s) :=
  have test : s.toList.all isAscii = true ↔ IsAscii s := List.all_eq_true
  decidable_of_decidable_of_iff test

/-- The code point that a run sends `n` to, if it covers `n`. -/
def CaseRun.image? (r : CaseRun) (n : Nat) : Option Nat :=
  if r.first ≤ n ∧ n ≤ r.last ∧ (n - r.first) % r.step = 0 then some ((n : Int) + r.offset).toNat
  else none

/-- The image of a character beyond ASCII: a listed sequence, else the run that covers it, else
itself. -/
def mapCase (sequences : List (Nat × List Nat)) (runs : List CaseRun) (c : Char) : List Char :=
  match sequences.lookup c.toNat with
  | some image => image.map Char.ofNat
  | none =>
    match runs.findSome? (·.image? c.toNat) with
    | some n => [Char.ofNat n]
    | none => [c]

/-- The small form of a character. -/
def small (c : Char) : List Char :=
  if isAscii c then [asciiSmall c] else mapCase smallSequences smallRuns c

/-- The capital form of a character. -/
def capital (c : Char) : List Char :=
  if isAscii c then [asciiCapital c] else mapCase capitalSequences capitalRuns c

/-- The first character that the look at the surroundings of a sigma does not pass over has
case. -/
def letterFollows (cs : List Char) : Bool :=
  match cs.dropWhile fun c => inRanges caseIgnorableRanges c.toNat with
  | c :: _ => inRanges casedRanges c.toNat
  | [] => false

/-- The small forms of `rest`, read after the characters `before` (nearest first).  A capital
sigma ends a word if a letter stands before it and none after it. -/
def smallAfter (before : List Char) : List Char → List Char
  | [] => []
  | c :: rest =>
    (if c = 'Σ' then
      [if letterFollows before && !letterFollows rest then 'ς' else 'σ']
    else small c) ++ smallAfter (c :: before) rest

/-- The small form of a text, as a list. -/
def smallList (cs : List Char) : List Char := smallAfter [] cs

/-- The small form of a text. -/
def lowercase (s : String) : String := String.ofList (smallList s.toList)

/-- The two texts differ at most in the case of ASCII letters. -/
def sameIgnoringAsciiCase (s t : String) : Bool :=
  s.toList.map asciiSmall == t.toList.map asciiSmall

theorem small_of_isAscii {c : Char} (h : isAscii c = true) : small c = [asciiSmall c] := by
  rw [small, if_pos h]

theorem capital_of_isAscii {c : Char} (h : isAscii c = true) : capital c = [asciiCapital c] := by
  rw [capital, if_pos h]

/-- What holds of the first 128 characters holds of those of ASCII. -/
theorem forall_isAscii {p : Char → Prop} (h : ∀ n < 128, p (Char.ofNat n)) :
    ∀ c, isAscii c = true → p c := by
  intro c hc
  have small : c.toNat < 128 := of_decide_eq_true hc
  have same : Char.ofNat c.toNat = c := Char.ofNat_toNat c
  exact same ▸ h c.toNat small

theorem smallAfter_eq_map (before : List Char) {cs : List Char}
    (h : ∀ c ∈ cs, isAscii c = true) : smallAfter before cs = cs.map asciiSmall := by
  induction cs generalizing before with
  | nil => rfl
  | cons c cs ih =>
    have hc := h c (by simp)
    -- the one letter that looks at its neighbours is not of ASCII
    have hs : c ≠ 'Σ' := by
      intro e
      subst e
      simp [isAscii] at hc
    simp [smallAfter, hs, small, hc, ih (c :: before) fun d hd => h d (by simp [hd])]

/-- In a text of ASCII characters each character changes on its own. -/
theorem smallList_eq_map {cs : List Char} (h : ∀ c ∈ cs, isAscii c = true) :
    smallList cs = cs.map asciiSmall :=
  smallAfter_eq_map [] h

end CloudApi.Text
