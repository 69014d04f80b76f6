import CloudApi.Reply.ErrorData

/-!
# Bodies without markup

A reply that cannot be decoded is reported with its body, the tags dropped and the ends trimmed.
Dropping a tag joins what stands on both sides of it, yet no new tag comes about: between the
dropped tags there is no `<` at all, since each one would have begun a tag, and after the last of
them no `>` follows on a `<`. `TagCut` is a text cut at its tags in this way, and every text is one.

## Key results

- `TagCut.dropTags_text`, `exists_tagCut`: what is left of a text are its stretches between the tags
- `TagCut.not_holdsTag_kept`: they make up no tag
- `dropTags_eq_self`: a text without a tag is left alone
- `sanitized_body_is_plain`: what this means for bodies, and for the errors they are reported as
-/

namespace CloudApi

/-- A `<` with a `>` somewhere after it. -/
def HoldsTag (cs : List Char) : Prop := ['<', '>'].Sublist cs

instance : DecidablePred HoldsTag := fun cs =>
  inferInstanceAs (Decidable (['<', '>'].Sublist cs))

/-- A tag needs a `<`: text without one can be taken from the front. -/
theorem holdsTag_append_iff {front cs : List Char} (h : '<' ∉ front) :
    HoldsTag (front ++ cs) ↔ HoldsTag cs := by
  constructor
  · intro tag
    obtain ⟨first, second, both, inFront, inRest⟩ := List.sublist_append_iff.mp tag
    cases first with
    | nil => rwa [HoldsTag, both]
    -- what is looked for begins with a bracket, and the front has none
    | cons c first =>
      obtain ⟨rfl, -⟩ := List.cons.inj both
      exact absurd (inFront.subset List.mem_cons_self) h
  · intro tag
    exact tag.trans (List.sublist_append_right front cs)

/-- After a `<`, a `>` is all that a tag needs. -/
theorem holdsTag_cons_iff {cs : List Char} : HoldsTag ('<' :: cs) ↔ '>' ∈ cs := by
  rw [HoldsTag, List.cons_sublist_cons, List.singleton_sublist]

/-! ### Dropping tags -/

theorem dropTags_append {front : List Char} (h : '<' ∉ front) (rest : List Char) :
    dropTags (front ++ rest) = front ++ dropTags rest := by
  induction front with
  | nil => rfl
  | cons c front ih =>
    rw [List.mem_cons, not_or] at h
    rw [List.cons_append, dropTags, if_neg (Ne.symm h.1), ih h.2, List.cons_append]

/-- A tag ends with the first `>`, whatever else stands inside it. -/
theorem dropTags_tag {inside : List Char} (h : '>' ∉ inside) (rest : List Char) :
    dropTags ('<' :: (inside ++ '>' :: rest)) = dropTags rest := by
  rw [dropTags, if_pos rfl]
  -- the tag is closed, by the first closing bracket
  split
  · next before after found =>
    rw [Text.cut?_append rest h] at found
    cases found
    rfl
  · next missing =>
    rw [Text.cut?_append rest h] at missing
    cases missing

theorem dropTags_open {rest : List Char} (h : '>' ∉ rest) :
    dropTags ('<' :: rest) = '<' :: rest := by
  rw [dropTags, if_pos rfl]
  split
  · next before after found =>
    rw [Text.cut?_eq_none_iff.mpr h] at found
    cases found
  · rfl

/-- A text without a tag is left alone. -/
theorem dropTags_eq_self {cs : List Char} (h : ¬HoldsTag cs) : dropTags cs = cs := by
  by_cases begins : '<' ∈ cs
  · -- the first `<` begins no tag, and then nor does any other
    obtain ⟨front, rest, rfl, none⟩ := List.eq_append_cons_of_mem begins
    rw [holdsTag_append_iff none, holdsTag_cons_iff] at h
    rw [dropTags_append none, dropTags_open h]
  · have kept := dropTags_append begins []
    rwa [List.append_nil, dropTags, List.append_nil] at kept

/-! ### Texts cut at their tags -/

/-- A text cut at its tags. -/
structure TagCut where
  /-- Stretches of text, each with what stands inside the tag after it. -/
  parts : List (List Char × List Char)
  /-- What follows on the last tag. -/
  last : List Char
  /-- A tag begins with the first `<`, -/
  before : ∀ p ∈ parts, '<' ∉ p.1
  /-- and ends with the next `>`. -/
  inside : ∀ p ∈ parts, '>' ∉ p.2
  /-- There are no more tags. -/
  rest : ¬HoldsTag last

namespace TagCut

/-- The text that is cut. -/
def text (cut : TagCut) : List Char :=
  cut.parts.flatMap (fun p => p.1 ++ '<' :: (p.2 ++ ['>'])) ++ cut.last

/-- The text without its tags. -/
def kept (cut : TagCut) : List Char := cut.parts.flatMap (·.1) ++ cut.last

/-- Dropping the tags leaves what is kept, wherever a text can be cut. -/
theorem dropTags_text (cut : TagCut) : dropTags cut.text = cut.kept := by
  obtain ⟨parts, last, before, inside, rest⟩ := cut
  unfold text kept
  -- tag by tag; behind the last one nothing is cut
  induction parts with
  | nil => exact dropTags_eq_self rest
  | cons p parts ih =>
    rw [List.forall_mem_cons] at before inside
    have others := ih before.2 inside.2
    simp only [List.flatMap_cons, List.append_assoc, List.cons_append, List.nil_append] at others ⊢
    rw [dropTags_append before.1, dropTags_tag inside.1, others]

/-- What is kept makes up no tag. -/
theorem not_holdsTag_kept (cut : TagCut) : ¬HoldsTag cut.kept := by
  have none : '<' ∉ cut.parts.flatMap (·.1) := by
    intro h
    obtain ⟨p, hp, inPart⟩ := List.mem_flatMap.mp h
    exact cut.before p hp inPart
  rw [kept, holdsTag_append_iff none]
  exact cut.rest

end TagCut

/-- Every text can be cut at its tags. -/
theorem exists_tagCut (cs : List Char) : ∃ cut : TagCut, cut.text = cs := by
  by_cases tag : HoldsTag cs
  · -- the tag begins with the first `<`, and ends with the first `>` after it
    obtain ⟨front, after, whole, begins⟩ :=
      List.eq_append_cons_of_mem (tag.subset List.mem_cons_self)
    rw [whole, holdsTag_append_iff begins, holdsTag_cons_iff] at tag
    obtain ⟨inside, rest, tail, ends⟩ := List.eq_append_cons_of_mem tag
    obtain ⟨cut, text⟩ := exists_tagCut rest
    refine ⟨⟨(front, inside) :: cut.parts, cut.last, ?_, ?_, cut.rest⟩, ?_⟩
    · exact List.forall_mem_cons.mpr ⟨begins, cut.before⟩
    · exact List.forall_mem_cons.mpr ⟨ends, cut.inside⟩
    · rw [whole, tail, ← text]
      simp [TagCut.text]
  · exact ⟨⟨[], cs, by simp, by simp, tag⟩, rfl⟩
termination_by cs.length
decreasing_by
  rw [whole, tail]
  simp only [List.length_append, List.length_cons]
  omega

theorem not_holdsTag_dropTags (cs : List Char) : ¬HoldsTag (dropTags cs) := by
  obtain ⟨cut, rfl⟩ := exists_tagCut cs
  rw [cut.dropTags_text]
  exact cut.not_holdsTag_kept

/-! ### Bodies -/

/-- Trimming makes up no tag. -/
theorem HoldsTag.of_trimList {cs : List Char} (h : HoldsTag (Text.trimList cs)) : HoldsTag cs := by
  obtain ⟨front, back, whole, -⟩ := Text.trimList_isMiddle cs
  have inner : (Text.trimList cs).Sublist cs := List.IsInfix.sublist ⟨front, back, whole.symm⟩
  exact h.trans inner

@[simp] theorem toList_sanitize (body : String) :
    (sanitize body).toList = Text.trimList (dropTags body.toList) :=
  String.toList_ofList

theorem not_holdsTag_sanitize (body : String) : ¬HoldsTag (sanitize body).toList := by
  rw [toList_sanitize]
  exact fun tag => not_holdsTag_dropTags body.toList tag.of_trimList

/-- A body without a tag is only trimmed. -/
theorem sanitize_of_not_holdsTag {body : String} (h : ¬HoldsTag body.toList) :
    sanitize body = String.ofList (Text.trimList body.toList) := by
  rw [sanitize, dropTags_eq_self h]

theorem sanitize_sanitize (body : String) : sanitize (sanitize body) = sanitize body := by
  rw [sanitize_of_not_holdsTag (not_holdsTag_sanitize body), toList_sanitize,
    Text.trimList_trimList]
  rfl

/-- The message about a body that cannot be decoded holds no tag. -/
theorem not_holdsTag_decodeFailure (status : Nat) (body : String) :
    ¬HoldsTag (ErrorData.decodeFailure status body).text.toList := by
  have start : '<' ∉ ErrorData.decodeFailureStart.toList := by decide
  rw [ErrorData.decodeFailure, String.toList_append, holdsTag_append_iff start]
  exact not_holdsTag_sanitize body

/-- What is left of a body holds no tag, has no blank at either end, and is left alone from then
on; a body without a tag is only trimmed. What has gone are tags, each from a `<` to the next `>`,
and blanks at both ends, and everything else stands where it stood. So nor is there a tag in the
message about a body that cannot be decoded. -/
theorem sanitized_body_is_plain (status : Nat) (body : String) :
    ¬HoldsTag (sanitize body).toList ∧
    Text.HeadFails Text.isBlank (sanitize body).toList ∧
    Text.LastFails Text.isBlank (sanitize body).toList ∧
    sanitize (sanitize body) = sanitize body ∧
    (¬HoldsTag body.toList → sanitize body = String.ofList (Text.trimList body.toList)) ∧
    (∃ (cut : TagCut) (front back : List Char),
      cut.text = body.toList ∧ cut.kept = front ++ (sanitize body).toList ++ back ∧
      (∀ c ∈ front, Text.isBlank c = true) ∧ ∀ c ∈ back, Text.isBlank c = true) ∧
    ¬HoldsTag (ErrorData.decodeFailure status body).text.toList := by
  refine ⟨not_holdsTag_sanitize body, ?_, ?_, sanitize_sanitize body, sanitize_of_not_holdsTag, ?_,
    not_holdsTag_decodeFailure status body⟩
  · rw [toList_sanitize]
    exact Text.headFails_trimList _
  · rw [toList_sanitize]
    exact Text.lastFails_trimList _
  · -- what is cut are the tags, and then the blanks at the ends of what is kept
    obtain ⟨cut, text⟩ := exists_tagCut body.toList
    obtain ⟨front, back, whole, blanks⟩ := Text.trimList_isMiddle cut.kept
    refine ⟨cut, front, back, text, ?_, blanks⟩
    rw [toList_sanitize, ← text, cut.dropTags_text]
    exact whole

theorem unclosed_body_is_trimmed :
    ¬HoldsTag " 1 > 0 < 2\n".toList ∧ sanitize " 1 > 0 < 2\n" = "1 > 0 < 2" := by
  have none : ¬HoldsTag " 1 > 0 < 2\n".toList := by decide
  obtain ⟨-, -, -, -, trimmed, -⟩ := sanitized_body_is_plain 503 " 1 > 0 < 2\n"
  exact ⟨none, trimmed none⟩

/-- What stands around a tag is joined, and makes up no other tag. -/
example : sanitize "  <p <i>>bad <b\n>gateway</b></p> <\n" = ">bad gateway <" := by cbv

end CloudApi
