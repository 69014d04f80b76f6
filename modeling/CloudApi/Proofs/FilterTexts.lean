import CloudApi.Ec2.Service
import CloudApi.Proofs.Results

/-!
# Wire texts read as free text

A filter name is written as its wire text, and read as free text, which may also be a symbol or a
call. For the compute service the wire text of a name means that name again.

Its wire texts have a form that tells them from symbols: either there is a separator, or there is
no capital. The symbol of a text with several parts has no separator and a capital, and the symbol
of any other text is the text itself.

## Key results

- `resolve_text`: the wire text of a name means that name, where wire texts stand apart
- `standsApart_of_mem_all`: and so they do in the compute service
-/

namespace CloudApi

namespace Filter

/-- A text is no call if the first character that is no letter and no digit is another one than
the parenthesis. -/
theorem call?_eq_none {text : String}
    (h : (text.toList.dropWhile isLetterOrDigit).head? ≠ some '(') : call? text = none := by
  unfold call? callParts?
  dsimp only
  split
  · next opened =>
    rw [opened] at h
    exact absurd rfl h
  · rfl

/-- Without parentheses there is no call. -/
theorem call?_eq_none_of_not_mem {text : String} (h : '(' ∉ text.toList) : call? text = none :=
  call?_eq_none fun opened =>
    h ((List.dropWhile_suffix isLetterOrDigit).subset (List.mem_of_mem_head? opened))

/-- A name made from a tag key has a colon after the letters of its scope. -/
theorem call?_eq_none_of_inScope {text : String}
    (h : FilterNames.inScope FilterNames.tagScope text = true) : call? text = none := by
  obtain ⟨c, key, e, _⟩ := FilterNames.inScope_iff.mp h
  refine call?_eq_none ?_
  rw [e]
  exact nofun

end Filter

/-- The wire texts of the listed names. -/
def FilterNames.literals (names : FilterNames) : List String := names.listed.map (·.2)

/-- Names can be made from tag keys only, if at all. -/
def FilterNames.TagsOnly (names : FilterNames) : Prop :=
  names.pattern = none ∨ names.pattern = some (inScope tagScope)

/-- Where names can be made from tag keys only, an accepted text is listed or made so. -/
theorem FilterNames.accepts_iff {names : FilterNames} (tags : names.TagsOnly) {text : String} :
    names.accepts text = true ↔
      text ∈ names.literals ∨ names.hasPattern = true ∧ inScope tagScope text = true := by
  rw [accepts, Bool.or_eq_true, isListed_iff, hasPattern]
  rcases tags with closed | tagged
  · simp [closed, literals]
  · simp [tagged, literals]

/-- The wire text of a name means that name, if it is no other name's symbol and no call. -/
theorem FilterNames.resolve_text {n : FilterName}
    (symbol : ∀ literal, n.names.ofSymbol? n.text = some literal → literal = n.text)
    (call : Filter.call? n.text = none) : n.names.resolve n.text = .ok n := by
  have own : (n.names.value n.text).mapError Error.name = .ok n :=
    mapError_eq_ok.mpr (value_eq_ok_iff.mpr ⟨rfl, rfl⟩)
  unfold resolve
  cases found : n.names.ofSymbol? n.text with
  | some literal =>
    rw [symbol literal found]
    exact own
  | none =>
    rw [call]
    exact own

namespace Ec2

/-- The text has a separator, or no capital. -/
def isWireForm (cs : List Char) : Bool :=
  cs.any isSeparator || !cs.any fun c => 'A' ≤ c && c ≤ 'Z'

/-- The text is in wire form and its symbol is not, unless that is the text itself; and the text
is no call. -/
def isApart (cs : List Char) : Bool :=
  let symbol := camelCase (parts cs)
  isWireForm cs && (symbol == cs || !isWireForm symbol) && !cs.contains '('

/-- The listed names stand under the symbols of their wire texts, all wire texts stand apart from
symbols and calls, and the names that are made have tag keys. -/
structure StandsApart (names : FilterNames) : Prop where
  listed : ∀ p ∈ names.listed, p.1 = toSymbol p.2 ∧ isApart p.2.toList = true
  tags : names.TagsOnly

private theorem of_isApart {t : String} (h : isApart t.toList = true) :
    isWireForm t.toList = true ∧ (toSymbol t = t ∨ isWireForm (toSymbol t).toList = false) ∧
      '(' ∉ t.toList := by
  simp only [isApart, Bool.and_eq_true, Bool.or_eq_true, Bool.not_eq_true', beq_iff_eq,
    List.contains_eq_mem, decide_eq_false_iff_not] at h
  obtain ⟨⟨wire, symbol⟩, noCall⟩ := h
  refine ⟨wire, ?_, noCall⟩
  unfold toSymbol
  rw [String.toList_ofList]
  exact symbol.imp_left fun e => by rw [e, String.ofList_toList]

variable {names : FilterNames}

/-- A name made from a tag key has a separator after the letters of its scope. -/
private theorem isWireForm_of_inScope {text : String}
    (h : FilterNames.inScope FilterNames.tagScope text = true) : isWireForm text.toList = true := by
  obtain ⟨c, key, e, _⟩ := FilterNames.inScope_iff.mp h
  rw [e]
  rfl

/-- Every accepted text is in wire form and is no call. -/
private theorem StandsApart.of_accepts (h : StandsApart names) {text : String}
    (ha : names.accepts text = true) :
    isWireForm text.toList = true ∧ Filter.call? text = none := by
  -- a listed text has been checked, and a tag key has a separator in front
  rcases (FilterNames.accepts_iff h.tags).mp ha with listed | ⟨_, made⟩
  · obtain ⟨p, hp, rfl⟩ := List.mem_map.mp listed
    obtain ⟨wire, _, noCall⟩ := of_isApart (h.listed p hp).2
    exact ⟨wire, Filter.call?_eq_none_of_not_mem noCall⟩
  · exact ⟨isWireForm_of_inScope made, Filter.call?_eq_none_of_inScope made⟩

/-- An accepted text is the symbol of no name but its own. -/
private theorem StandsApart.eq_of_ofSymbol? (h : StandsApart names) {text literal : String}
    (ha : names.accepts text = true) (found : names.ofSymbol? text = some literal) :
    literal = text := by
  obtain ⟨_, _, split, _⟩ := List.lookup_eq_some_iff.mp found
  obtain ⟨e, apart⟩ := h.listed (text, literal) (split ▸ List.mem_append_right _ (.head _))
  -- a symbol is its own wire text, or it is in no wire form
  obtain ⟨_, same | capital, _⟩ := of_isApart apart
  · exact same.symm.trans e.symm
  · rw [← e, (h.of_accepts ha).1] at capital
    exact nomatch capital

/-- The wire text of a name means that name. -/
theorem resolve_text {n : FilterName} (h : StandsApart n.names) :
    n.names.resolve n.text = .ok n :=
  FilterNames.resolve_text (fun _ => h.eq_of_ofSymbol? n.accepted) (h.of_accepts n.accepted).2

/-! ### The compute service -/

private theorem isApart_nil : ∀ t ∈ ([] : List String), isApart t.toList = true := nofun

/-- Literals are checked one by one, by their characters. -/
private theorem isApart_cons {cs : List Char} {rest : List String} (first : isApart cs = true)
    (others : ∀ t ∈ rest, isApart t.toList = true) :
    ∀ t ∈ String.ofList cs :: rest, isApart t.toList = true := by
  intro t ht
  rcases List.mem_cons.mp ht with rfl | ht
  · rwa [String.toList_ofList]
  · exact others t ht

private theorem standsApart_closed {resource : String} {texts : List String}
    (h : ∀ t ∈ texts, isApart t.toList = true) : StandsApart (Names.closed resource texts) where
  listed := by
    intro p hp
    obtain ⟨t, ht, rfl⟩ := List.mem_map.mp hp
    exact ⟨rfl, h t ht⟩
  tags := .inl rfl

private theorem standsApart_tagged {resource : String} {texts : List String}
    (h : ∀ t ∈ texts, isApart t.toList = true) : StandsApart (Names.tagged resource texts) where
  listed := by
    have tags : ∀ t ∈ Names.tagTexts, isApart t.toList = true := by
      unfold Names.tagTexts
      repeat' first | exact isApart_nil | refine isApart_cons (by decide) ?_
    show ∀ p ∈ (Names.closed resource (texts ++ Names.tagTexts)).listed, _
    refine (standsApart_closed ?_).listed
    intro t ht
    -- the texts are those of the resource and those of its tags
    rcases List.mem_append.mp ht with ht | ht
    · exact h t ht
    · exact tags t ht
  tags := .inr rfl

/-- The wire texts of the compute service stand apart. -/
theorem standsApart_of_mem_all : ∀ names ∈ Names.all, StandsApart names := by
  simp only [Names.all, List.forall_mem_cons]
  refine ⟨standsApart_closed ?_, standsApart_tagged ?_, standsApart_tagged ?_,
    standsApart_tagged ?_, standsApart_tagged ?_, standsApart_closed ?_, standsApart_tagged ?_,
    standsApart_closed ?_, standsApart_closed ?_, standsApart_tagged ?_, standsApart_tagged ?_,
    standsApart_closed ?_, standsApart_tagged ?_, standsApart_tagged ?_, standsApart_tagged ?_,
    standsApart_tagged ?_, nofun⟩
  all_goals repeat' first | exact isApart_nil | refine isApart_cons (by decide) ?_

end Ec2

end CloudApi
