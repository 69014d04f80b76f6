import CloudApi.Proofs.CallSyntax
import CloudApi.Proofs.FilterTexts
import Mathlib.Data.List.Nodup

/-!
# Symbols of ASCII wire texts

A symbol holds no separator, so it is a single part, and that part begins with a small letter
already: it is its own symbol. A wire text that is the symbol of another one therefore has the same
symbol as that one. Where symbols are distinct, this cannot be, and neither a symbol nor a call
stands in the way when a wire text is read as free text.

## Key results

- `not_isSeparator_of_mem_toSymbol`: there are no separators in a symbol
- `toSymbol_toSymbol`: a symbol is its own symbol
- `symbols_and_texts_agree`: the symbol and the wire text of a name mean that name
-/

namespace CloudApi

open Text (IsAscii isAscii asciiSmall asciiCapital)

namespace Ec2

/-! ### Parts -/

theorem mem_parts {cs part : List Char} (h : part ∈ parts cs) :
    part ≠ [] ∧ ∀ c ∈ part, c ∈ cs ∧ isSeparator c = false := by
  obtain ⟨piece, nonempty⟩ := List.mem_filter.mp h
  exact ⟨of_decide_eq_true nonempty, Text.mem_pieces piece⟩

theorem parts_of_forall {cs : List Char} (h : ∀ c ∈ cs, isSeparator c = false) (ne : cs ≠ []) :
    parts cs = [cs] := by
  rw [parts, Text.pieces_of_forall h]
  simp [ne]

/-! ### Characters of a symbol -/

/-- An ASCII character that is no separator. -/
private def Plain (c : Char) : Prop := isAscii c = true ∧ isSeparator c = false

private theorem plain_asciiSmall {c : Char} (h : Plain c) : Plain (asciiSmall c) := by
  have kept := Text.forall_isAscii (p := fun c => isAscii (asciiSmall c) = true ∧
    isSeparator (asciiSmall c) = isSeparator c) (by decide) c h.1
  exact ⟨kept.1, kept.2.trans h.2⟩

private theorem plain_asciiCapital {c : Char} (h : Plain c) : Plain (asciiCapital c) := by
  have kept := Text.forall_isAscii (p := fun c => isAscii (asciiCapital c) = true ∧
    isSeparator (asciiCapital c) = isSeparator c) (by decide) c h.1
  exact ⟨kept.1, kept.2.trans h.2⟩

theorem asciiSmall_asciiSmall {c : Char} (h : isAscii c = true) :
    asciiSmall (asciiSmall c) = asciiSmall c :=
  Text.forall_isAscii (p := fun c => asciiSmall (asciiSmall c) = asciiSmall c) (by decide) c h

/-- Changing the first character to a plain one leaves a plain part. -/
private theorem plain_of_mem_changeFirst {f : Char → List Char} {g : Char → Char}
    (hf : ∀ c, isAscii c = true → f c = [g c]) (hg : ∀ c, Plain c → Plain (g c))
    {part : List Char} (h : ∀ c ∈ part, Plain c) : ∀ c ∈ changeFirst f part, Plain c := by
  cases part with
  | nil => exact nofun
  | cons d ds =>
    have hd := h d (.head _)
    rw [changeFirst, hf d hd.1, List.singleton_append]
    -- only the first character is another one
    intro c hc
    rcases List.mem_cons.mp hc with rfl | hc
    · exact hg d hd
    · exact h c (.tail _ hc)

private theorem plain_of_mem_camelCase {ps : List (List Char)} (h : ∀ p ∈ ps, ∀ c ∈ p, Plain c) :
    ∀ c ∈ camelCase ps, Plain c := by
  cases ps with
  | nil => exact nofun
  | cons first rest =>
    -- the first part begins with a small letter and the others with a capital
    intro c hc
    rcases List.mem_append.mp hc with hc | hc
    · exact plain_of_mem_changeFirst (fun _ => Text.small_of_isAscii)
        (fun _ => plain_asciiSmall) (h first (.head _)) c hc
    · obtain ⟨part, hp, hc⟩ := List.mem_flatMap.mp hc
      exact plain_of_mem_changeFirst (fun _ => Text.capital_of_isAscii)
        (fun _ => plain_asciiCapital) (h part (.tail _ hp)) c hc

private theorem plain_of_mem_parts {s : String} (h : IsAscii s) :
    ∀ p ∈ parts s.toList, ∀ c ∈ p, Plain c := by
  intro p hp c hc
  obtain ⟨own, separator⟩ := (mem_parts hp).2 c hc
  exact ⟨h c own, separator⟩

private theorem plain_of_mem_toSymbol {s : String} (h : IsAscii s) :
    ∀ c ∈ (toSymbol s).toList, Plain c := by
  rw [toSymbol, String.toList_ofList]
  exact plain_of_mem_camelCase (plain_of_mem_parts h)

/-- There are no separators in a symbol. -/
theorem not_isSeparator_of_mem_toSymbol {s : String} (h : IsAscii s) :
    ∀ c ∈ (toSymbol s).toList, isSeparator c = false :=
  fun c hc => (plain_of_mem_toSymbol h c hc).2

/-- Parts that are put together begin in small. -/
private theorem changeFirst_small_camelCase {ps : List (List Char)}
    (h : ∀ p ∈ ps, ∀ c ∈ p, Plain c) (ne : ∀ p ∈ ps, p ≠ []) :
    changeFirst Text.small (camelCase ps) = camelCase ps := by
  cases ps with
  | nil => rfl
  | cons first rest =>
    obtain ⟨c, cs, rfl⟩ := List.exists_cons_of_ne_nil (ne first (.head _))
    have hc := h (c :: cs) (.head _) c (.head _)
    rw [camelCase, changeFirst, Text.small_of_isAscii hc.1, List.singleton_append, List.cons_append,
      changeFirst, Text.small_of_isAscii (plain_asciiSmall hc).1, asciiSmall_asciiSmall hc.1,
      List.singleton_append]

/-- A symbol is its own symbol. -/
theorem toSymbol_toSymbol {s : String} (h : IsAscii s) : toSymbol (toSymbol s) = toSymbol s := by
  have plain := not_isSeparator_of_mem_toSymbol h
  have small := changeFirst_small_camelCase (plain_of_mem_parts h) fun p hp => (mem_parts hp).1
  unfold toSymbol at plain ⊢
  rw [String.toList_ofList] at plain ⊢
  -- a text of separators has no parts, and so has its symbol
  by_cases empty : camelCase (parts s.toList) = []
  · rw [empty]
    rfl
  · -- without separators all of it is one part, the first
    rw [parts_of_forall plain empty, camelCase, List.flatMap_nil, List.append_nil, small]

end Ec2

/-! ### Names that are listed under symbols -/

open Ec2 (toSymbol)

/-- The names of a resource are these ASCII wire texts, listed under their symbols, and the names
that are made from tag keys, if any. No two symbols are equal, and no wire text is a call. -/
structure FilterNames.ListedBySymbol (names : FilterNames) (texts : List String) : Prop where
  listed : names.listed = texts.map fun t => (toSymbol t, t)
  tags : names.TagsOnly
  ascii : ∀ t ∈ texts, IsAscii t
  distinct : (texts.map toSymbol).Nodup
  noCall : ∀ t ∈ texts, ¬ Filter.IsCall t

namespace FilterNames.ListedBySymbol

variable {names : FilterNames} {texts : List String}

private theorem eq_of_toSymbol_eq (h : names.ListedBySymbol texts) {t u : String} (ht : t ∈ texts)
    (hu : u ∈ texts) (same : toSymbol t = toSymbol u) : t = u :=
  List.inj_on_of_nodup_map h.distinct ht hu same

/-- What is found under a symbol is the text whose symbol it is. -/
private theorem of_ofSymbol? (h : names.ListedBySymbol texts) {symbol text : String}
    (found : names.ofSymbol? symbol = some text) : text ∈ texts ∧ symbol = toSymbol text := by
  obtain ⟨_, _, split, _⟩ := List.lookup_eq_some_iff.mp found
  have listed : (symbol, text) ∈ names.listed := split ▸ List.mem_append_right _ (.head _)
  rw [h.listed] at listed
  obtain ⟨t, ht, e⟩ := List.mem_map.mp listed
  cases e
  exact ⟨ht, rfl⟩

private theorem ofSymbol?_toSymbol (h : names.ListedBySymbol texts) {t : String} (ht : t ∈ texts) :
    names.ofSymbol? (toSymbol t) = some t := by
  cases found : names.ofSymbol? (toSymbol t) with
  | none =>
    have listed : (toSymbol t, t) ∈ names.listed := h.listed ▸ List.mem_map_of_mem ht
    have other := List.lookup_eq_none_iff.mp found _ listed
    simp at other
  | some u =>
    obtain ⟨hu, same⟩ := h.of_ofSymbol? found
    rw [h.eq_of_toSymbol_eq ht hu same]

private theorem literals_eq (h : names.ListedBySymbol texts) : names.literals = texts := by
  rw [FilterNames.literals, h.listed, List.map_map]
  exact List.map_id texts

/-- An accepted text is listed, or it is made from a tag key. -/
private theorem mem_or_inScope (h : names.ListedBySymbol texts) {text : String}
    (ha : names.accepts text = true) :
    text ∈ texts ∨ FilterNames.inScope FilterNames.tagScope text = true := by
  have either := (FilterNames.accepts_iff h.tags).mp ha
  rw [h.literals_eq] at either
  exact either.imp_right And.right

/-- An accepted text is no symbol but its own. -/
private theorem eq_of_ofSymbol? (h : names.ListedBySymbol texts) {text literal : String}
    (ha : names.accepts text = true) (found : names.ofSymbol? text = some literal) :
    literal = text := by
  obtain ⟨hl, e⟩ := h.of_ofSymbol? found
  have ascii := h.ascii literal hl
  -- a text that is accepted is listed or in the scope of tags
  rcases h.mem_or_inScope ha with listed | made
  · -- both have the one symbol
    have same : toSymbol text = toSymbol literal := by
      rw [e, Ec2.toSymbol_toSymbol ascii]
    exact h.eq_of_toSymbol_eq hl listed same.symm
  · obtain ⟨c, key, chars, _⟩ := FilterNames.inScope_iff.mp made
    -- in the scope of tags there is a separator, and a symbol has none
    have colon : ':' ∈ (toSymbol literal).toList := by
      rw [← e, chars]
      simp [FilterNames.tagScope]
    have none := Ec2.not_isSeparator_of_mem_toSymbol ascii ':' colon
    exact absurd none (by decide)

private theorem call?_eq_none (h : names.ListedBySymbol texts) {text : String}
    (ha : names.accepts text = true) : Filter.call? text = none := by
  rcases h.mem_or_inScope ha with listed | made
  · exact Filter.call?_eq_none_iff.mpr (h.noCall text listed)
  · exact Filter.call?_eq_none_of_inScope made

theorem resolve_text (h : names.ListedBySymbol texts) {n : FilterName} (own : n.names = names) :
    names.resolve n.text = .ok n := by
  subst own
  exact FilterNames.resolve_text (fun _ => h.eq_of_ofSymbol? n.accepted)
    (h.call?_eq_none n.accepted)

theorem resolve_toSymbol (h : names.ListedBySymbol texts) {n : FilterName} (own : n.names = names)
    (ht : n.text ∈ texts) : names.resolve (toSymbol n.text) = .ok n := by
  have value : (names.value n.text).mapError Error.name = .ok n :=
    mapError_eq_ok.mpr (FilterNames.value_eq_ok_iff.mpr ⟨own, rfl⟩)
  rw [FilterNames.resolve, h.ofSymbol?_toSymbol ht]
  exact value

private theorem accepts_of_mem (h : names.ListedBySymbol texts) {t : String} (ht : t ∈ texts) :
    names.accepts t = true :=
  (FilterNames.accepts_iff h.tags).mpr (.inl (h.literals_eq.symm ▸ ht))

end FilterNames.ListedBySymbol

/-- Where names are listed under distinct symbols, a name is meant by its symbol and by its wire
text, and so is every name that is made from a tag key by its own text. The symbol of one name is
never the wire text of another. -/
theorem symbols_and_texts_agree {names : FilterNames} {texts : List String}
    (h : names.ListedBySymbol texts) :
    (∀ t ∈ texts, ∃ n : FilterName, n.names = names ∧ n.text = t ∧
      names.resolve (toSymbol t) = .ok n ∧ names.resolve t = .ok n) ∧
    (∀ n : FilterName, n.names = names → names.resolve n.text = .ok n) ∧
    ∀ t ∈ texts, ∀ u ∈ texts, t = toSymbol u → t = u := by
  refine ⟨?_, fun n own => h.resolve_text own, ?_⟩
  · intro t ht
    obtain ⟨n, own, rfl⟩ : ∃ n : FilterName, n.names = names ∧ n.text = t :=
      ⟨⟨names, t, h.accepts_of_mem ht⟩, rfl, rfl⟩
    exact ⟨n, own, rfl, h.resolve_toSymbol own ht, h.resolve_text own⟩
  · rintro t ht u hu rfl
    have same := Ec2.toSymbol_toSymbol (h.ascii u hu)
    exact h.eq_of_toSymbol_eq ht hu same

/-! The names for internet gateways; the tag key is the wire text of another name. -/

private def gatewayTexts : List String :=
  ["attachment.state", "attachment.vpc-id", "internet-gateway-id"] ++ Ec2.Names.tagTexts

private theorem listedBySymbol_internetGateways :
    Ec2.Names.internetGateways.ListedBySymbol gatewayTexts where
  listed := rfl
  tags := .inr rfl
  ascii := by decide
  distinct := by decide
  noCall := by
    have free : ∀ t ∈ gatewayTexts, '(' ∉ t.toList := by decide
    exact fun t ht => Filter.call?_eq_none_iff.mp (Filter.call?_eq_none_of_not_mem (free t ht))

private def byStateKey : FilterName :=
  ⟨Ec2.Names.internetGateways, "tag:attachment.state", by decide⟩

theorem gateway_names_are_meant :
    (∃ n : FilterName, n.names = Ec2.Names.internetGateways ∧ n.text = "tag:Name" ∧
      Ec2.Names.internetGateways.resolve "tagName" = .ok n ∧
      Ec2.Names.internetGateways.resolve "tag:Name" = .ok n) ∧
    Ec2.Names.internetGateways.resolve "tag:attachment.state" = .ok byStateKey := by
  obtain ⟨listed, made, _⟩ := symbols_and_texts_agree listedBySymbol_internetGateways
  have symbol : toSymbol "tag:Name" = "tagName" := by decide
  have byName := listed "tag:Name" (by decide)
  rw [symbol] at byName
  exact ⟨byName, made byStateKey rfl⟩

end CloudApi
