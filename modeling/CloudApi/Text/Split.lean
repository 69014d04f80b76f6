/-! # Cutting and joining texts

`pieces` cuts a text at every separator, `cut?` at the first occurrence of a character, and
`join` puts pieces together again.

* `pieces_ne_nil` there is always at least one piece
* `pieces_of_forall` a text without separators is one piece
* `mem_pieces` the pieces are made of the characters between the separators
* `pieces_eq_splitOnP`, `flatten_pieces` the pieces are those of the library's way of cutting, and
  only the separators are lost
* `cut?_append` a text is cut at the first occurrence
* `cut?_eq_some` what `cut?` returns is the text before and after the first occurrence
* `afterStart?_eq_some_iff` what follows the start of a text
* `startsWith_iff`, `endsWith_iff` how a text begins and ends
* `startsWith_eq_false`, `endsWith_eq_false` a text does not begin, or end, in two ways that
  differ -/

namespace CloudApi.Text

/-- The stretches between the characters that satisfy `p`, the empty ones included. -/
def pieces (p : Char → Bool) : List Char → List (List Char)
  | [] => [[]]
  | c :: cs =>
    if p c then [] :: pieces p cs
    else
      match pieces p cs with
      | [] => [[c]]
      | first :: rest => (c :: first) :: rest

/-- The text before and the text after the first `c`. -/
def cut? (c : Char) : List Char → Option (List Char × List Char)
  | [] => none
  | d :: cs =>
    if d = c then some ([], cs)
    else (cut? c cs).map fun (before, after) => (d :: before, after)

/-- The texts one after the other with `separator` between neighbours. -/
def join (separator : String) (texts : List String) : String := separator.intercalate texts

/-- The text begins with `start`; what follows it. -/
def afterStart? (start : List Char) (cs : List Char) : Option (List Char) :=
  if start.isPrefixOf cs then some (cs.drop start.length) else none

/-- The text begins with `start`. -/
def startsWith (start s : String) : Bool := start.toList.isPrefixOf s.toList

/-- The text ends with `ending`. -/
def endsWith (ending s : String) : Bool := ending.toList.isSuffixOf s.toList

/-- `part` occurs somewhere in the text. -/
def occursIn (part : List Char) : List Char → Bool
  | [] => part.isEmpty
  | c :: cs => part.isPrefixOf (c :: cs) || occursIn part cs

theorem pieces_ne_nil (p : Char → Bool) (cs : List Char) : pieces p cs ≠ [] := by
  cases cs with
  | nil => simp [pieces]
  | cons c cs =>
    unfold pieces
    split
    · simp
    · split <;> simp

theorem pieces_of_forall {p : Char → Bool} {cs : List Char} (h : ∀ c ∈ cs, p c = false) :
    pieces p cs = [cs] := by
  induction cs with
  | nil => rfl
  | cons c cs ih =>
    have hc := h c (by simp)
    have ih := ih fun d hd => h d (by simp [hd])
    simp [pieces, hc, ih]

theorem mem_pieces {p : Char → Bool} {cs piece : List Char} (h : piece ∈ pieces p cs) :
    ∀ c ∈ piece, c ∈ cs ∧ p c = false := by
  induction cs generalizing piece with
  | nil =>
    rw [pieces, List.mem_singleton] at h
    simp [h]
  | cons d cs ih =>
    have later : ∀ piece ∈ pieces p cs, ∀ c ∈ piece, c ∈ d :: cs ∧ p c = false := by
      intro piece hp c hc
      exact (ih hp c hc).imp_left (List.mem_cons_of_mem d)
    unfold pieces at h
    split at h
    · -- the piece before a separator is empty
      rcases List.mem_cons.mp h with rfl | h
      · simp
      · exact later piece h
    · next hd =>
      have own : d ∈ d :: cs ∧ p d = false := by simp [hd]
      split at h
      · rw [List.mem_singleton] at h
        simpa [h] using own
      · next first rest parts =>
        rcases List.mem_cons.mp h with rfl | h
        · intro c hc
          rcases List.mem_cons.mp hc with rfl | hc
          · exact own
          · exact later first (parts ▸ List.mem_cons_self) c hc
        · exact later piece (parts ▸ List.mem_cons_of_mem first h)

/-- The library cuts texts in the same way. -/
theorem pieces_eq_splitOnP (p : Char → Bool) (cs : List Char) : pieces p cs = cs.splitOnP p := by
  induction cs with
  | nil => rfl
  | cons d cs ih =>
    rw [pieces, ih, List.splitOnP_cons_eq_if_modifyHead]
    obtain ⟨first, rest, parts⟩ := List.exists_cons_of_ne_nil (List.splitOnP_ne_nil p cs)
    rw [parts]
    rfl

/-- The pieces are what is left without the separators. -/
theorem flatten_pieces (p : Char → Bool) (cs : List Char) :
    (pieces p cs).flatten = cs.filter fun c => !p c := by
  induction cs with
  | nil => rfl
  | cons d cs ih =>
    unfold pieces
    cases hd : p d with
    | true => simp [hd, ih]
    | false =>
      -- the character goes to the front of the first piece, which is there
      obtain ⟨first, rest, parts⟩ := List.exists_cons_of_ne_nil (pieces_ne_nil p cs)
      rw [parts] at ih
      simp [hd, parts, ← ih]

theorem cut?_append {c : Char} {before : List Char} (after : List Char) (h : c ∉ before) :
    cut? c (before ++ c :: after) = some (before, after) := by
  induction before with
  | nil => simp [cut?]
  | cons d before ih =>
    simp only [List.mem_cons, not_or] at h
    simp [cut?, Ne.symm h.1, ih h.2]

theorem cut?_eq_some {c : Char} {cs before after : List Char}
    (h : cut? c cs = some (before, after)) : cs = before ++ c :: after ∧ c ∉ before := by
  induction cs generalizing before with
  | nil => simp [cut?] at h
  | cons d cs ih =>
    unfold cut? at h
    split at h
    · rename_i hd
      simp only [Option.some.injEq, Prod.mk.injEq] at h
      obtain ⟨rfl, rfl⟩ := h
      simp [hd]
    · rename_i hd
      obtain ⟨⟨b, a⟩, hb, e⟩ := Option.map_eq_some_iff.mp h
      simp only [Prod.mk.injEq] at e
      obtain ⟨rfl, rfl⟩ := e
      obtain ⟨h1, h2⟩ := ih hb
      exact ⟨by simp [h1], by simp [h2, Ne.symm hd]⟩

theorem cut?_eq_none_iff {c : Char} {cs : List Char} : cut? c cs = none ↔ c ∉ cs := by
  induction cs with
  | nil => simp [cut?]
  | cons d cs ih =>
    unfold cut?
    by_cases hd : d = c
    · simp [hd]
    · simp [hd, ih, Ne.symm hd]

theorem afterStart?_eq_some_iff {start cs rest : List Char} :
    afterStart? start cs = some rest ↔ cs = start ++ rest := by
  unfold afterStart?
  constructor
  · intro h
    simp only [Option.ite_none_right_eq_some, Option.some.injEq] at h
    obtain ⟨starts, rfl⟩ := h
    obtain ⟨rest, rfl⟩ := List.isPrefixOf_iff_prefix.mp starts
    rw [List.drop_left]
  · rintro rfl
    rw [if_pos (List.isPrefixOf_iff_prefix.mpr ⟨rest, rfl⟩), List.drop_left]

theorem startsWith_iff {start s : String} :
    startsWith start s = true ↔ ∃ rest, s = start ++ rest := by
  rw [startsWith, List.isPrefixOf_iff_prefix]
  constructor
  · intro h
    obtain ⟨rest, hr⟩ := h
    refine ⟨String.ofList rest, String.toList_inj.mp ?_⟩
    rw [String.toList_append, String.toList_ofList, hr]
  · intro h
    obtain ⟨rest, rfl⟩ := h
    exact ⟨rest.toList, String.toList_append.symm⟩

theorem endsWith_iff {ending s : String} :
    endsWith ending s = true ↔ ∃ front, s = front ++ ending := by
  rw [endsWith, List.isSuffixOf_iff_suffix]
  constructor
  · intro h
    obtain ⟨front, hf⟩ := h
    refine ⟨String.ofList front, String.toList_inj.mp ?_⟩
    rw [String.toList_append, String.toList_ofList, hf]
  · intro h
    obtain ⟨front, rfl⟩ := h
    exact ⟨front.toList, String.toList_append.symm⟩

/-- Of two ways in which a text begins, the shorter one is how the longer one begins. -/
theorem startsWith_eq_false {a b s : String} (h : startsWith a s = true)
    (longer : startsWith a b = false) (shorter : startsWith b a = false) :
    startsWith b s = false := by
  cases hb : startsWith b s with
  | false => rfl
  | true =>
    have nested := List.prefix_or_prefix_of_prefix (List.isPrefixOf_iff_prefix.mp h)
      (List.isPrefixOf_iff_prefix.mp hb)
    cases nested with
    | inl ab => exact (List.isPrefixOf_iff_prefix.mpr ab).symm.trans longer
    | inr ba => exact (List.isPrefixOf_iff_prefix.mpr ba).symm.trans shorter

/-- The same for how a text ends. -/
theorem endsWith_eq_false {a b s : String} (h : endsWith a s = true)
    (longer : endsWith a b = false) (shorter : endsWith b a = false) : endsWith b s = false := by
  cases hb : endsWith b s with
  | false => rfl
  | true =>
    have nested := List.suffix_or_suffix_of_suffix (List.isSuffixOf_iff_suffix.mp h)
      (List.isSuffixOf_iff_suffix.mp hb)
    cases nested with
    | inl ab => exact (List.isSuffixOf_iff_suffix.mpr ab).symm.trans longer
    | inr ba => exact (List.isSuffixOf_iff_suffix.mpr ba).symm.trans shorter

end CloudApi.Text
