import CloudApi.Text.Ranges

/-! # Blank characters and trimming

The blank characters are Unicode's white space; document formats know only four of them.
Trimming removes the blanks at both ends of a text and nothing else:

* `isBlank_eq_false`, `isSpace_eq_false` signs and digits are not blank
* `takeWhile_append_of_headFails`, `dropWhile_append_of_headFails` a run of characters ends where it
  stops
* `dropEnd_append` what is dropped is as long as it can be
* `trimList_eq_self` a text without blank ends is left alone
* `trimList_trimList` trimming twice is trimming once
* `trimList_isMiddle` what trimming drops are blanks at both ends
* `trimList_eq_iff` so a trimmed text is told by its ends and what stands around it
* `trimList_map` trimming and changing characters can be done in either order -/

namespace CloudApi.Text

/-- The code points of Unicode's white space. -/
def blankRanges : List (Nat × Nat) :=
  [(0x09, 0x0D), (0x20, 0x20), (0x85, 0x85), (0xA0, 0xA0), (0x1680, 0x1680), (0x2000, 0x200A),
   (0x2028, 0x2029), (0x202F, 0x202F), (0x205F, 0x205F), (0x3000, 0x3000)]

/-- The character is white space. -/
def isBlank (c : Char) : Bool := inRanges blankRanges c.toNat

/-- Nothing but blanks. -/
def IsBlankText (s : String) : Prop := ∀ c ∈ s.toList, isBlank c = true

instance (s : String) : Decidable (IsBlankText s) :=
  have test : s.toList.all isBlank = true ↔ IsBlankText s := List.all_eq_true
  decidable_of_decidable_of_iff test

/-- Space, tab, line feed and carriage return, the white space of document formats. -/
def isSpace (c : Char) : Bool := c = ' ' || c = '\t' || c = '\n' || c = '\r'

/-- Signs and digits are not blank, -/
theorem isBlank_eq_false {c : Char} (h : c = '-' ∨ c.isDigit = true) : isBlank c = false := by
  rcases h with rfl | digit
  · decide
  · have range : 48 ≤ c.toNat ∧ c.toNat ≤ 57 := Char.isDigit_iff_toNat.mp digit
    simp only [isBlank, inRanges, blankRanges, List.any_cons, List.any_nil, Bool.or_false,
      Bool.or_eq_false_iff, Bool.and_eq_false_imp, decide_eq_true_eq, decide_eq_false_iff_not,
      Nat.not_le]
    omega

/-- nor are they white space of documents. -/
theorem isSpace_eq_false {c : Char} (h : c = '-' ∨ c.isDigit = true) : isSpace c = false := by
  cases space : isSpace c with
  | false => rfl
  | true =>
    simp only [isSpace, Bool.or_eq_true, decide_eq_true_eq] at space
    rcases space with ((rfl | rfl) | rfl) | rfl <;> exact absurd h (by decide)

/-- Drop the characters at the end that satisfy `p`. -/
def dropEnd (p : Char → Bool) (cs : List Char) : List Char :=
  (cs.reverse.dropWhile p).reverse

/-- Drop the blanks at both ends. -/
def trimList (cs : List Char) : List Char := dropEnd isBlank (cs.dropWhile isBlank)

/-! ### Ends

What dropping leaves has no end of the dropped kind, so dropping again changes nothing. -/

/-- The first character, if there is one, fails `p`. -/
def HeadFails (p : Char → Bool) (cs : List Char) : Prop := ∀ c ∈ cs.head?, p c = false

/-- The last character, if there is one, fails `p`. -/
def LastFails (p : Char → Bool) (cs : List Char) : Prop := ∀ c ∈ cs.getLast?, p c = false

instance (p : Char → Bool) (cs : List Char) : Decidable (HeadFails p cs) :=
  have test : (cs.head?.all fun c => !p c) = true ↔ HeadFails p cs := by
    cases h : cs.head? <;> simp [HeadFails, h]
  decidable_of_decidable_of_iff test

instance (p : Char → Bool) (cs : List Char) : Decidable (LastFails p cs) :=
  have test : (cs.getLast?.all fun c => !p c) = true ↔ LastFails p cs := by
    cases h : cs.getLast? <;> simp [LastFails, h]
  decidable_of_decidable_of_iff test

theorem headFails_dropWhile (p : Char → Bool) (cs : List Char) :
    HeadFails p (cs.dropWhile p) := by
  induction cs with
  | nil => simp [HeadFails]
  | cons c cs ih =>
    cases h : p c with
    | true => simpa [List.dropWhile_cons, h] using ih
    | false => simp [HeadFails, h]

theorem dropWhile_eq_self {p : Char → Bool} {cs : List Char} (h : HeadFails p cs) :
    cs.dropWhile p = cs := by
  cases cs with
  | nil => rfl
  | cons c cs => simp [h c (by simp)]

theorem takeWhile_append_of_headFails {p : Char → Bool} {cs rest : List Char}
    (h : ∀ c ∈ cs, p c = true) (stop : HeadFails p rest) : (cs ++ rest).takeWhile p = cs := by
  rw [List.takeWhile_append_of_pos h]
  cases rest with
  | nil => simp
  | cons c rest => simp [stop c rfl]

theorem dropWhile_append_of_headFails {p : Char → Bool} {cs rest : List Char}
    (h : ∀ c ∈ cs, p c = true) (stop : HeadFails p rest) : (cs ++ rest).dropWhile p = rest := by
  rw [List.dropWhile_append_of_pos h, dropWhile_eq_self stop]

theorem lastFails_dropEnd (p : Char → Bool) (cs : List Char) : LastFails p (dropEnd p cs) := by
  have h := headFails_dropWhile p cs.reverse
  simpa [LastFails, dropEnd, HeadFails, List.getLast?_reverse] using h

theorem dropEnd_eq_self {p : Char → Bool} {cs : List Char} (h : LastFails p cs) :
    dropEnd p cs = cs := by
  have h' : HeadFails p cs.reverse := by
    intro c hc
    rw [List.head?_reverse] at hc
    exact h c hc
  simp [dropEnd, dropWhile_eq_self h']

/-- What is to be dropped can be longer at the end. -/
theorem dropEnd_append_of_forall {p : Char → Bool} (cs : List Char) {ending : List Char}
    (he : ∀ c ∈ ending, p c = true) : dropEnd p (cs ++ ending) = dropEnd p cs := by
  have dropped : ∀ c ∈ ending.reverse, p c = true := by
    intro c hc
    exact he c (List.mem_reverse.mp hc)
  rw [dropEnd, List.reverse_append, List.dropWhile_append_of_pos dropped]
  rfl

theorem dropEnd_append {p : Char → Bool} {cs ending : List Char} (h : LastFails p cs)
    (he : ∀ c ∈ ending, p c = true) : dropEnd p (cs ++ ending) = cs := by
  rw [dropEnd_append_of_forall cs he, dropEnd_eq_self h]

/-- What is left after dropping at the end is an initial part. -/
theorem dropEnd_isInitial (p : Char → Bool) (cs : List Char) :
    ∃ t, cs = dropEnd p cs ++ t ∧ ∀ c ∈ t, p c = true := by
  refine ⟨(cs.reverse.takeWhile p).reverse, ?_, ?_⟩
  · rw [dropEnd, ← List.reverse_append, List.takeWhile_append_dropWhile, List.reverse_reverse]
  · intro c hc
    rw [List.mem_reverse] at hc
    exact List.all_eq_true.mp List.all_takeWhile c hc

/-- What is left after trimming stands between blanks. -/
theorem trimList_isMiddle (cs : List Char) :
    ∃ front back, cs = front ++ trimList cs ++ back ∧ (∀ c ∈ front, isBlank c = true) ∧
      ∀ c ∈ back, isBlank c = true := by
  obtain ⟨back, dropped, blank⟩ := dropEnd_isInitial isBlank (cs.dropWhile isBlank)
  refine ⟨cs.takeWhile isBlank, back, ?_, ?_, blank⟩
  · rw [List.append_assoc, trimList, ← dropped, List.takeWhile_append_dropWhile]
  · intro c hc
    exact List.all_eq_true.mp List.all_takeWhile c hc

theorem headFails_dropEnd {p : Char → Bool} {cs : List Char} (h : HeadFails p cs) :
    HeadFails p (dropEnd p cs) := by
  obtain ⟨t, ht, _⟩ := dropEnd_isInitial p cs
  intro c hc
  apply h
  rw [ht]
  cases hd : dropEnd p cs with
  | nil => simp [hd] at hc
  | cons x xs => simpa [hd] using hc

theorem trimList_eq_self {cs : List Char} (h : HeadFails isBlank cs) (l : LastFails isBlank cs) :
    trimList cs = cs := by
  rw [trimList, dropWhile_eq_self h, dropEnd_eq_self l]

theorem headFails_trimList (cs : List Char) : HeadFails isBlank (trimList cs) :=
  headFails_dropEnd (headFails_dropWhile isBlank cs)

theorem lastFails_trimList (cs : List Char) : LastFails isBlank (trimList cs) :=
  lastFails_dropEnd isBlank _

theorem trimList_trimList (cs : List Char) : trimList (trimList cs) = trimList cs :=
  trimList_eq_self (headFails_trimList cs) (lastFails_trimList cs)

/-- Blanks around a text make no difference. -/
theorem trimList_between {front cs back : List Char} (hf : ∀ c ∈ front, isBlank c = true)
    (hb : ∀ c ∈ back, isBlank c = true) : trimList (front ++ cs ++ back) = trimList cs := by
  rw [trimList, List.append_assoc, List.dropWhile_append_of_pos hf, List.dropWhile_append]
  split
  · next empty =>
    -- nothing but blanks: nothing is left on either side
    have none : back.dropWhile isBlank = [] := by
      rw [← List.append_nil back]
      exact dropWhile_append_of_headFails hb nofun
    rw [none, trimList, List.isEmpty_iff.mp empty]
  · rw [dropEnd_append_of_forall _ hb]
    rfl

/-- A trimmed text is what stands between blanks and has no blank at its ends. -/
theorem trimList_eq_iff {cs middle : List Char} :
    trimList cs = middle ↔
      (∃ front back, cs = front ++ middle ++ back ∧ (∀ c ∈ front, isBlank c = true) ∧
        ∀ c ∈ back, isBlank c = true) ∧
      HeadFails isBlank middle ∧ LastFails isBlank middle := by
  constructor
  · rintro rfl
    exact ⟨trimList_isMiddle cs, headFails_trimList cs, lastFails_trimList cs⟩
  · rintro ⟨⟨front, back, rfl, hf, hb⟩, start, finish⟩
    rw [trimList_between hf hb, trimList_eq_self start finish]

/-- Only a text of blanks has nothing left. -/
theorem trimList_eq_nil_iff {cs : List Char} : trimList cs = [] ↔ ∀ c ∈ cs, isBlank c = true := by
  constructor
  · intro empty
    -- nothing is left between the blanks that have been dropped
    obtain ⟨front, back, split, hf, hb⟩ := trimList_isMiddle cs
    rw [empty, List.append_nil] at split
    intro c hc
    rw [split, List.mem_append] at hc
    exact hc.elim (hf c) (hb c)
  · intro blank
    exact trimList_eq_iff.mpr ⟨⟨cs, [], by simp, blank, nofun⟩, nofun, nofun⟩

/-- Trimming is not disturbed by a change of characters that leaves the blanks blank and makes no
new ones. -/
theorem trimList_map {f : Char → Char} (h : ∀ c, isBlank (f c) = isBlank c) (cs : List Char) :
    trimList (cs.map f) = (trimList cs).map f := by
  have same : isBlank ∘ f = isBlank := funext h
  rw [trimList, trimList, dropEnd, dropEnd, List.dropWhile_map, same, ← List.map_reverse,
    List.dropWhile_map, same, List.map_reverse]

end CloudApi.Text
