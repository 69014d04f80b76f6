import CloudApi.Proofs.Symbols
import Mathlib.Logic.Relation

/-!
# Symbols and the words of wire texts

The words of a wire text are what stands between its separators, the empty stretches left out. The
symbol is made of the words alone: which separators stand between them, how many, and whether there
are more at the ends makes no difference. Of an ASCII text the symbol keeps all characters but the
separators, up to the case of letters, and it is its own symbol.

## Key results

- `Ec2.words_append_cons`: a separator stands between the words before it and those after it
- `Ec2.Respaced.words_eq`: changing separators keeps the words
- `Ec2.sameIgnoringAsciiCase_toSymbol`: nothing but separators is lost
- `symbols_are_told_by_words`: the symbol is told by the words
-/

namespace CloudApi

open Text (IsAscii isAscii asciiSmall asciiCapital sameIgnoringAsciiCase)

namespace Ec2

/-- What stands between the separators of a text, without the empty stretches. -/
def words (s : String) : List (List Char) := (s.toList.splitOnP isSeparator).filter (· ≠ [])

/-- One separator of a text is replaced by another or doubled, or one is put at an end. -/
inductive Respaced : String → String → Prop where
  | replaced (front back : List Char) {a b : Char} (ha : isSeparator a = true)
    (hb : isSeparator b = true) :
    Respaced (String.ofList (front ++ a :: back)) (String.ofList (front ++ b :: back))
  | doubled (front back : List Char) {a : Char} (ha : isSeparator a = true) :
    Respaced (String.ofList (front ++ a :: back)) (String.ofList (front ++ a :: a :: back))
  | atStart (cs : List Char) {a : Char} (ha : isSeparator a = true) :
    Respaced (String.ofList cs) (String.ofList (a :: cs))
  | atEnd (cs : List Char) {a : Char} (ha : isSeparator a = true) :
    Respaced (String.ofList cs) (String.ofList (cs ++ [a]))

/-! ### Words -/

theorem parts_eq_words (s : String) : parts s.toList = words s := by
  rw [parts, Text.pieces_eq_splitOnP, words]

/-- A separator stands between the words before it and those after it. -/
theorem words_append_cons (front back : List Char) {a : Char} (ha : isSeparator a = true) :
    words (String.ofList (front ++ a :: back)) =
      words (String.ofList front) ++ words (String.ofList back) := by
  simp only [words, String.toList_ofList, List.splitOnP_append_cons front back ha,
    List.filter_append]

theorem words_cons (cs : List Char) {a : Char} (ha : isSeparator a = true) :
    words (String.ofList (a :: cs)) = words (String.ofList cs) :=
  words_append_cons [] cs ha

/-- Changing separators keeps the words. -/
theorem Respaced.words_eq {s t : String} (h : Respaced s t) : words s = words t := by
  -- a separator ends a word, and an empty word is none
  cases h with
  | replaced front back ha hb =>
    rw [words_append_cons front back ha, words_append_cons front back hb]
  | doubled front back ha =>
    rw [words_append_cons front back ha, words_append_cons front _ ha, words_cons back ha]
  | atStart cs ha => rw [words_cons cs ha]
  | atEnd cs ha =>
    rw [words_append_cons cs [] ha]
    exact (List.append_nil _).symm

/-- So do any changes of this kind, one after the other. -/
theorem words_eq_of_respaced {s t : String} (h : Relation.EqvGen Respaced s t) :
    words s = words t := by
  induction h with
  | rel _ _ h => exact h.words_eq
  | refl _ => rfl
  | symm _ _ _ ih => exact ih.symm
  | trans _ _ _ _ _ ih ih' => exact ih.trans ih'

/-- The symbol is made of the words. -/
theorem toSymbol_eq_of_words_eq {s t : String} (h : words s = words t) :
    toSymbol s = toSymbol t := by
  rw [toSymbol, toSymbol, parts_eq_words, parts_eq_words, h]

/-! ### Letters -/

private theorem asciiSmall_asciiCapital {c : Char} (h : isAscii c = true) :
    asciiSmall (asciiCapital c) = asciiSmall c :=
  Text.forall_isAscii (p := fun c => asciiSmall (asciiCapital c) = asciiSmall c) (by decide) c h

/-- Changing the case of the first character is not seen where case is ignored. -/
private theorem map_asciiSmall_changeFirst {f : Char → List Char} {g : Char → Char}
    (hf : ∀ c, isAscii c = true → f c = [g c])
    (hg : ∀ c, isAscii c = true → asciiSmall (g c) = asciiSmall c) {part : List Char}
    (h : ∀ c ∈ part, isAscii c = true) :
    (changeFirst f part).map asciiSmall = part.map asciiSmall := by
  cases part with
  | nil => rfl
  | cons c cs =>
    have hc := h c (.head _)
    rw [changeFirst, hf c hc, List.singleton_append, List.map_cons, hg c hc, List.map_cons]

/-- Parts are put together without a loss, where case is ignored. -/
private theorem map_asciiSmall_camelCase {ps : List (List Char)}
    (h : ∀ p ∈ ps, ∀ c ∈ p, isAscii c = true) :
    (camelCase ps).map asciiSmall = ps.flatten.map asciiSmall := by
  cases ps with
  | nil => rfl
  | cons first rest =>
    obtain ⟨ascii, later⟩ := List.forall_mem_cons.mp h
    -- each part after the first one has its first character changed, in its case only
    have capitals : (rest.flatMap (changeFirst Text.capital)).map asciiSmall =
        rest.flatten.map asciiSmall := by
      rw [List.map_flatMap, List.map_flatten, List.flatMap_def]
      refine congrArg List.flatten (List.map_congr_left fun part hp => ?_)
      exact map_asciiSmall_changeFirst (fun _ => Text.capital_of_isAscii)
        (fun _ => asciiSmall_asciiCapital) (later part hp)
    rw [camelCase, List.map_append, capitals, List.flatten_cons, List.map_append,
      map_asciiSmall_changeFirst (fun _ => Text.small_of_isAscii)
        (fun _ => asciiSmall_asciiSmall) ascii]

/-- A symbol is its text without the separators, up to the case of letters. -/
theorem sameIgnoringAsciiCase_toSymbol {s : String} (h : IsAscii s) :
    sameIgnoringAsciiCase (toSymbol s)
      (String.ofList (s.toList.filter fun c => !isSeparator c)) = true := by
  have ascii : ∀ p ∈ parts s.toList, ∀ c ∈ p, isAscii c = true :=
    fun p hp c hc => h c ((mem_parts hp).2 c hc).1
  -- cutting takes the separators out, and empty stretches hold nothing
  have kept : (parts s.toList).flatten = s.toList.filter fun c => !isSeparator c := by
    rw [parts, List.flatten_filter_ne_nil, Text.flatten_pieces]
  rw [sameIgnoringAsciiCase, toSymbol, String.toList_ofList, String.toList_ofList,
    map_asciiSmall_camelCase ascii, kept, beq_iff_eq]

/-- Separators are not in the symbol of an ASCII text. -/
theorem not_mem_toSymbol {s : String} (h : IsAscii s) {a : Char} (ha : isSeparator a = true) :
    a ∉ (toSymbol s).toList := by
  intro mem
  rw [not_isSeparator_of_mem_toSymbol h a mem] at ha
  cases ha

end Ec2

open Ec2 (toSymbol)

/-- The symbol of an ASCII wire text holds no separators and is its own symbol, and it is the text
without its separators, up to the case of letters. Texts with the same words between their
separators have the same symbol, so it does not matter which separators stand there, how many, and
whether there are more at the ends. -/
theorem symbols_are_told_by_words :
    (∀ s, IsAscii s →
      ('.' ∉ (toSymbol s).toList ∧ '-' ∉ (toSymbol s).toList ∧ ':' ∉ (toSymbol s).toList) ∧
      toSymbol (toSymbol s) = toSymbol s ∧
      sameIgnoringAsciiCase (toSymbol s)
        (String.ofList (s.toList.filter fun c => !Ec2.isSeparator c)) = true) ∧
    (∀ s t, Ec2.words s = Ec2.words t → toSymbol s = toSymbol t) ∧
    ∀ s t, Relation.EqvGen Ec2.Respaced s t → toSymbol s = toSymbol t := by
  refine ⟨fun s ascii => ⟨⟨?_, ?_, ?_⟩, ?_, ?_⟩, ?_, ?_⟩
  · exact Ec2.not_mem_toSymbol ascii (by decide)
  · exact Ec2.not_mem_toSymbol ascii (by decide)
  · exact Ec2.not_mem_toSymbol ascii (by decide)
  · exact Ec2.toSymbol_toSymbol ascii
  · exact Ec2.sameIgnoringAsciiCase_toSymbol ascii
  · exact fun _ _ => Ec2.toSymbol_eq_of_words_eq
  · exact fun _ _ respaced => Ec2.toSymbol_eq_of_words_eq (Ec2.words_eq_of_respaced respaced)

/-! One more separator at the front, another one in the middle, and one that is doubled. -/

theorem respaced_gateway_has_one_symbol :
    toSymbol ":internet.gateway--id" = toSymbol "internet-gateway-id" ∧
    toSymbol "internetGatewayId" = "internetGatewayId" ∧
    '-' ∉ (toSymbol "internet-gateway-id").toList := by
  obtain ⟨ascii, _, respaced⟩ := symbols_are_told_by_words
  have symbol : toSymbol "internet-gateway-id" = "internetGatewayId" := by decide
  have same : Relation.EqvGen Ec2.Respaced ":internet.gateway--id" "internet-gateway-id" := by
    refine .symm _ _ (.trans _ ":internet-gateway-id" _ ?_ ?_)
    · exact .rel _ _ (.atStart "internet-gateway-id".toList (by decide))
    refine .trans _ ":internet.gateway-id" _ ?_ ?_
    · exact .rel _ _ (.replaced ":internet".toList "gateway-id".toList (by decide) (by decide))
    · exact .rel _ _ (.doubled ":internet.gateway".toList "id".toList (by decide))
  have own := ascii "internet-gateway-id" (by decide)
  rw [symbol] at own
  exact ⟨respaced _ _ same, own.2.1, symbol ▸ own.1.2.1⟩

end CloudApi
