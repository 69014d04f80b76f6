import CloudApi.Error
import CloudApi.Filter.Call
import CloudApi.Text.Quoted

/-! # Filter names

The names that the filters of one resource may have: the listed ones, each with a symbol, and those
that match a pattern, such as `tag:` followed by any key.  A `FilterName` carries the set that
accepted it, so a name that is not accepted cannot be held.

A name is built from its wire text (`value`), from its symbol (`name`), from a tag key (`tag`), by
a call (`invoke`), or from free text that may be any of these (`resolve`). -/

namespace CloudApi

namespace FilterNames

/-- The factory that makes names from tag keys. -/
def tagFactory : String := "tag"

/-- What the names made from tag keys start with. -/
def tagScope : String := "tag:"

/-- A text starts with the scope, and its next character is no line feed. -/
def inScope (scope value : String) : Bool :=
  match Text.afterStart? scope.toList value.toList with
  | some (c :: _) => c ≠ '\n'
  | _ => false

end FilterNames

/-- The filter names of one resource. -/
structure FilterNames where
  /-- What the resource is called. -/
  resource : String
  /-- The symbols and wire texts of the listed names, in order. -/
  listed : List (String × String) := []
  /-- Which other names match, if any can. -/
  pattern : Option (String → Bool) := some (FilterNames.inScope FilterNames.tagScope)

namespace FilterNames

/-- The wire text is that of a listed name. -/
def isListed (names : FilterNames) (value : String) : Bool := names.listed.any (·.2 == value)

/-- The wire text is that of a listed name or matches the pattern. -/
def accepts (names : FilterNames) (value : String) : Bool :=
  names.isListed value || names.pattern.any fun isMatch => isMatch value

/-- Names beyond the listed ones can be made. -/
def hasPattern (names : FilterNames) : Bool := names.pattern.isSome

/-- The wire text of the first name with this symbol. -/
def ofSymbol? (names : FilterNames) (symbol : String) : Option String := names.listed.lookup symbol

end FilterNames

/-- A name that its set accepts. -/
structure FilterName where
  names : FilterNames
  text : String
  accepted : names.accepts text = true

namespace FilterName

/-- What the resource of the name is called. -/
def resource (n : FilterName) : String := n.names.resource

/-- The name is in its set. -/
def isValid (n : FilterName) : Bool := n.names.accepts n.text

/-- The name matches the pattern and is not listed. -/
def isScoped (n : FilterName) : Bool := !n.names.isListed n.text

/-- The same text for resources of the same name. -/
def same (a b : FilterName) : Bool := a.resource == b.resource && a.text == b.text

/-- The description of a name in diagnostics. -/
def describe (n : FilterName) : String :=
  "FilterName \x7b resource: " ++ Text.quoted n.resource ++ ", value: " ++ Text.quoted n.text ++
    " \x7d"

end FilterName

namespace FilterNames

/-- The name with this wire text. -/
def value (names : FilterNames) (text : String) : Except NameError FilterName :=
  if h : names.accepts text = true then .ok ⟨names, text, h⟩
  else .error (.invalidFilter names.resource text)

/-- The name with this symbol. -/
def name (names : FilterNames) (symbol : String) : Except NameError FilterName :=
  match names.ofSymbol? symbol with
  | some text => names.value text
  | none => .error (.unknownSymbol names.resource symbol)

/-- The name for a tag key. -/
def tag (names : FilterNames) (key : String) : Except NameError FilterName :=
  names.value (tagScope ++ key)

/-- The name that a call makes: the tag factory takes one argument, a symbol takes none. -/
def invoke (names : FilterNames) (factory : String) (args : List String) :
    Except Error FilterName :=
  -- the factory hides a listed name that has its symbol
  if factory = tagFactory then
    match args with
    | [key] => (names.tag key).mapError .name
    | [] =>
      .error (.call (.missingArgument "Tag" (names.resource ++ " filter tag(\"symbolic-name\")")))
    | _ => .error (.call (.argumentCount tagFactory 1 args.length))
  else if args ≠ [] then .error (.call (.argumentCount factory 0 args.length))
  else (names.name factory).mapError .name

/-- The name that a free text means: first as a symbol, then as a call, then as a wire text. -/
def resolve (names : FilterNames) (text : String) : Except Error FilterName :=
  match names.ofSymbol? text with
  | some literal => (names.value literal).mapError .name
  | none =>
    match Filter.call? text with
    | some (factory, args) => names.invoke factory args
    | none => (names.value text).mapError .name

theorem ofSymbol?_of_not_mem {names : FilterNames} {symbol : String}
    (h : symbol ∉ names.listed.map (·.1)) : names.ofSymbol? symbol = none := by
  refine List.lookup_eq_none_iff.mpr fun p hp => ?_
  rw [bne_iff_ne]
  rintro rfl
  exact h (List.mem_map_of_mem hp)

theorem isListed_iff {names : FilterNames} {text : String} :
    names.isListed text = true ↔ text ∈ names.listed.map (·.2) := by
  simp [isListed]

theorem inScope_iff {scope value : String} :
    inScope scope value = true ↔
      ∃ c rest, value.toList = scope.toList ++ c :: rest ∧ c ≠ '\n' := by
  unfold inScope
  constructor
  · intro h
    split at h
    · next c rest found =>
      exact ⟨c, rest, Text.afterStart?_eq_some_iff.mp found, of_decide_eq_true h⟩
    · cases h
  · rintro ⟨c, rest, found, hc⟩
    rw [Text.afterStart?_eq_some_iff.mpr found]
    exact decide_eq_true hc

theorem value_eq_ok_iff {names : FilterNames} {text : String} {n : FilterName} :
    names.value text = .ok n ↔ n.names = names ∧ n.text = text := by
  unfold value
  split
  · next h =>
    constructor
    · intro e
      cases e
      exact ⟨rfl, rfl⟩
    · intro ⟨h1, h2⟩
      obtain ⟨_, _, _⟩ := n
      subst h1 h2
      rfl
  · next h =>
    constructor
    · intro e
      cases e
    · intro ⟨h1, h2⟩
      exact absurd (h1 ▸ h2 ▸ n.accepted) h

end FilterNames

end CloudApi
