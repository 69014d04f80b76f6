import CloudApi.Ec2.Names
import Mathlib.Data.List.Forall2

/-!
# Calls written as free text

An argument can be written in several ways: in either kind of quotes, or bare, and with any blanks
around it. `WrittenCall` says what all the ways of writing a call are. Each of them is read back as
the same factory and the same arguments, so a call means what its factory makes of the arguments,
unless it happens to be spelled like the symbol of a name.

## Key results

- `call?_eq_none_iff`: which texts are calls
- `arguments_append`: one argument is read off, however it is written
- `written_call_reads_back`: a call is read back from however it is written
-/

namespace CloudApi

namespace Filter

open Text (IsBlankText isBlank HeadFails LastFails)

/-! ### Factories and parentheses -/

/-- A letter of ASCII, and then letters and digits. -/
def IsIdentifier (s : String) : Prop :=
  ∃ first rest, s.toList = first :: rest ∧ isLetter first = true ∧
    ∀ c ∈ rest, isLetterOrDigit c = true

/-- A text in the form of a call: an identifier with parentheses, all on one line. -/
def IsCall (text : String) : Prop :=
  ∃ factory inner, IsIdentifier factory ∧ '\n' ∉ inner.toList ∧
    text = factory ++ "(" ++ inner ++ ")"

private theorem IsIdentifier.isLetterOrDigit {s : String} (h : IsIdentifier s) :
    ∀ c ∈ s.toList, isLetterOrDigit c = true := by
  obtain ⟨first, rest, e, letter, others⟩ := h
  intro c hc
  rw [e] at hc
  rcases List.mem_cons.mp hc with rfl | hc
  · simp [Filter.isLetterOrDigit, letter]
  · exact others c hc

theorem callParts?_call {factory inner : String} (h : IsIdentifier factory)
    (line : '\n' ∉ inner.toList) :
    callParts? (factory ++ "(" ++ inner ++ ")").toList = some (factory.toList, inner.toList) := by
  have text : (factory ++ "(" ++ inner ++ ")").toList =
      factory.toList ++ '(' :: (inner.toList ++ [')']) := by simp
  -- the parenthesis is the first character that cannot be of the factory
  have stop : HeadFails isLetterOrDigit ('(' :: (inner.toList ++ [')'])) := by
    rintro _ ⟨⟩
    rfl
  have name := Text.takeWhile_append_of_headFails h.isLetterOrDigit stop
  have rest := Text.dropWhile_append_of_headFails h.isLetterOrDigit stop
  obtain ⟨first, others, e, letter, _⟩ := h
  rw [text]
  -- what is left of the call are its first letter, its end and its one line
  unfold callParts?
  rw [name, rest, e]
  simp [letter, line]

theorem isCall_of_callParts? {text : String} {name inner : List Char}
    (h : callParts? text.toList = some (name, inner)) : IsCall text := by
  unfold callParts? at h
  dsimp only at h
  split at h
  · next first others inside named opened =>
    simp only [Option.ite_none_right_eq_some, Bool.and_eq_true, beq_iff_eq,
      Bool.not_eq_true', List.contains_eq_mem, decide_eq_false_iff_not] at h
    obtain ⟨⟨⟨letter, closed⟩, line⟩, _⟩ := h
    -- the inner text is what stands before the closing parenthesis
    obtain ⟨between, rfl⟩ := List.getLast?_eq_some_iff.mp closed
    refine ⟨.ofList (first :: others), .ofList between, ?_, ?_, ?_⟩
    · refine ⟨first, others, String.toList_ofList, letter, fun c hc => ?_⟩
      -- the factory has been taken as long as there were letters and digits
      have all := List.all_takeWhile (l := text.toList) (p := isLetterOrDigit)
      rw [named] at all
      exact List.all_eq_true.mp all c (.tail _ hc)
    · rw [String.toList_ofList]
      exact fun hm => line (List.mem_append_left _ hm)
    · have parts := List.takeWhile_append_dropWhile (l := text.toList) (p := isLetterOrDigit)
      rw [named, opened] at parts
      rw [← String.toList_inj, ← parts]
      simp
  · exact nomatch h

/-- The texts that are not taken apart are those not in the form of a call. -/
theorem call?_eq_none_iff {text : String} : call? text = none ↔ ¬ IsCall text := by
  rw [call?, Option.map_eq_none_iff]
  constructor
  · rintro none ⟨factory, inner, h, line, rfl⟩
    rw [callParts?_call h line] at none
    exact nomatch none
  · intro other
    cases parts : callParts? text.toList with
    | none => rfl
    | some p => exact absurd (isCall_of_callParts? parts) other

/-! ### Ways of writing an argument -/

/-- Either kind of quotes. -/
def isQuote (c : Char) : Bool := c = '\'' || c = '"'

/-- An argument that can be written without quotes. -/
structure IsBare (arg : String) : Prop where
  nonempty : arg ≠ ""
  comma : ',' ∉ arg.toList
  start : HeadFails isBlank arg.toList
  quote : HeadFails isQuote arg.toList
  finish : LastFails isBlank arg.toList

/-- The spellings of an argument: between quotes that it does not hold, or as it is. -/
inductive Spelled (arg : String) : String → Prop where
  | single (h : '\'' ∉ arg.toList) : Spelled arg ("'" ++ arg ++ "'")
  | double (h : '"' ∉ arg.toList) : Spelled arg ("\"" ++ arg ++ "\"")
  | bare (h : IsBare arg) : Spelled arg arg

/-- A spelling of an argument, with blanks around it. -/
def WrittenArgument (arg piece : String) : Prop :=
  ∃ before spelling after, IsBlankText before ∧ Spelled arg spelling ∧ IsBlankText after ∧
    piece = before ++ spelling ++ after

/-- A call of the factory, with the arguments in any of the ways in which each can be written and
commas between them. -/
structure WrittenCall (factory : String) (args : List String) (text : String) : Prop where
  identifier : IsIdentifier factory
  written : ∃ pieces, List.Forall₂ WrittenArgument args pieces ∧
    text = factory ++ "(" ++ Text.join "," pieces ++ ")"

/-! ### Reading arguments -/

private theorem arguments_blanks {blanks : List Char} (h : ∀ c ∈ blanks, isBlank c = true)
    (cs : List Char) : arguments (blanks ++ cs) = arguments cs := by
  induction blanks with
  | nil => rfl
  | cons c blanks ih =>
    rw [List.cons_append, arguments_blank (h c (.head _)), ih fun d hd => h d (.tail _ hd)]

/-- Quotes are read up to the next one of their kind. -/
private theorem arguments_quoted {quote : Char} (hq : quote = '\'' ∨ quote = '"')
    {arg : List Char} (h : quote ∉ arg) (rest : List Char) :
    arguments (quote :: (arg ++ quote :: rest)) = arg :: arguments rest := by
  have begins : ¬ (isBlank quote = true ∨ quote = ',') := by
    rcases hq with rfl | rfl <;> decide
  refine arguments_of_quoted begins ?_
  rw [quotedArgument?, if_pos hq]
  exact Text.cut?_append rest h

/-- A bare argument is read up to the next comma, and the blanks before that are dropped. -/
private theorem arguments_bare {arg : String} (h : IsBare arg) {after : List Char}
    (ha : ∀ c ∈ after, isBlank c = true) {rest : List Char} (stop : HeadFails (· ≠ ',') rest) :
    arguments (arg.toList ++ after ++ rest) = arg.toList :: arguments rest := by
  obtain ⟨first, others, e⟩ : ∃ first others, arg.toList = first :: others :=
    List.exists_cons_of_ne_nil fun empty => h.nonempty (String.toList_inj.mp empty)
  obtain ⟨_, comma, blank, quote, finish⟩ := h
  rw [e] at comma blank quote finish ⊢
  have begins : ¬ (isBlank first = true ∨ first = ',') := by
    simp only [List.mem_cons, not_or] at comma
    simp [blank first rfl, Ne.symm comma.1]
  -- it does not begin with a quote, so it is read as it stands
  have unquoted : quotedArgument? (first :: (others ++ after ++ rest)) = none := by
    have other : ¬ (first = '\'' ∨ first = '"') := by simpa [isQuote] using quote first rfl
    rw [quotedArgument?, if_neg other]
  -- a comma is no blank, so the first one stands after the blanks
  have inside : ∀ c ∈ others ++ after, decide (c ≠ ',') = true := by
    intro c hc
    rw [decide_eq_true_eq]
    rintro rfl
    rcases List.mem_append.mp hc with hc | hc
    · exact comma (.tail _ hc)
    · exact absurd (ha ',' hc) (by decide)
  have taken := Text.takeWhile_append_of_headFails inside stop
  have dropped := Text.dropWhile_append_of_headFails inside stop
  have trimmed : Text.dropEnd isBlank (first :: (others ++ after)) = first :: others :=
    Text.dropEnd_append finish ha
  rw [List.cons_append, List.cons_append, arguments_of_bare begins unquoted, taken, dropped,
    trimmed]

/-- One argument is read off, however it is written. -/
theorem arguments_append {arg piece : String} (h : WrittenArgument arg piece) {rest : List Char}
    (stop : HeadFails (· ≠ ',') rest) :
    arguments (piece.toList ++ rest) = arg.toList :: arguments rest := by
  obtain ⟨before, spelling, after, hb, spelled, ha, rfl⟩ := h
  rw [String.toList_append, String.toList_append, List.append_assoc, List.append_assoc,
    arguments_blanks hb]
  -- the blanks behind are passed over after quotes, and trimmed off otherwise
  cases spelled with
  | single free =>
    have quoted := arguments_quoted (.inl rfl) free (after.toList ++ rest)
    rw [arguments_blanks ha] at quoted
    simpa using quoted
  | double free =>
    have quoted := arguments_quoted (.inr rfl) free (after.toList ++ rest)
    rw [arguments_blanks ha] at quoted
    simpa using quoted
  | bare plain =>
    rw [← List.append_assoc]
    exact arguments_bare plain ha stop

/-- Arguments with commas between them are read one after the other. -/
theorem arguments_join {args pieces : List String} (h : List.Forall₂ WrittenArgument args pieces) :
    arguments (Text.join "," pieces).toList = args.map String.toList := by
  rw [Text.join, String.toList_intercalate]
  induction h with
  | nil => simp [arguments]
  | @cons arg piece args pieces first others ih =>
    -- the last argument is followed by nothing, any other one by a comma
    cases others with
    | nil =>
      have one : arguments (piece.toList ++ []) = arg.toList :: arguments [] :=
        arguments_append first (by simp [HeadFails])
      simpa [arguments] using one
    | @cons _ next _ more =>
      have comma : HeadFails (· ≠ ',')
          (',' :: ",".toList.intercalate (next.toList :: more.map String.toList)) := by
        simp [HeadFails]
      have one := arguments_append first comma
      rw [arguments_comma] at one
      rw [List.map_cons, List.map_cons, List.intercalate_cons_cons, List.append_assoc,
        List.map_cons, ← ih]
      exact one

theorem WrittenCall.call?_eq {factory : String} {args : List String} {text : String}
    (h : WrittenCall factory args text) (line : '\n' ∉ text.toList) :
    call? text = some (factory, args) := by
  obtain ⟨identifier, pieces, written, rfl⟩ := h
  have inner : '\n' ∉ (Text.join "," pieces).toList := by
    intro hm
    simp [hm] at line
  rw [call?, callParts?_call identifier inner]
  show some (String.ofList factory.toList,
    (arguments (Text.join "," pieces).toList).map String.ofList) = _
  rw [arguments_join written, List.map_map, String.ofList_toList]
  simp [Function.comp_def]

end Filter

/-- A call on one line that is not the symbol of a name is read back from however it is written: as
the same factory with the same arguments in the same order, and so as the same name or with the same
error. -/
theorem written_call_reads_back (names : FilterNames) {factory : String} {args : List String}
    {text : String} (h : Filter.WrittenCall factory args text) (line : '\n' ∉ text.toList)
    (symbol : text ∉ names.listed.map (·.1)) :
    Filter.call? text = some (factory, args) ∧
    names.resolve text = names.invoke factory args := by
  have call := h.call?_eq line
  refine ⟨call, ?_⟩
  rw [FilterNames.resolve, FilterNames.ofSymbol?_of_not_mem symbol, call]

/-! Three arguments, one in each spelling: a comma in quotes, nothing in quotes, and a bare argument
with a parenthesis and a quote. -/

private def threeArguments : String := "tag( 'cost,center' ,\"\",\ta)b'c )"

private theorem threeArguments_written :
    Filter.WrittenCall "tag" ["cost,center", "", "a)b'c"] threeArguments where
  identifier := ⟨'t', ['a', 'g'], rfl, rfl, List.all_eq_true.mp rfl⟩
  written := by
    refine ⟨[" 'cost,center' ", "\"\"", "\ta)b'c "], .cons ?_ (.cons ?_ (.cons ?_ .nil)), rfl⟩
    · exact ⟨" ", _, " ", by decide, .single (by decide), by decide, rfl⟩
    · exact ⟨"", _, "", by decide, .double (by decide), by decide, rfl⟩
    · exact ⟨"\t", _, " ", by decide, .bare ⟨by decide, by decide, by decide, by decide, by decide⟩,
        by decide, rfl⟩

theorem tag_takes_one_argument :
    Ec2.Names.volumes.resolve threeArguments = .error (.call (.argumentCount "tag" 1 3)) :=
  (written_call_reads_back Ec2.Names.volumes threeArguments_written (by decide) (by decide)).2

end CloudApi
