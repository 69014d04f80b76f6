import CloudApi.CommandLine.Run
import CloudApi.Proofs.Assignments
import CloudApi.Proofs.Symbols

/-!
# Tags named on the command line

A filter argument is read twice: as an assignment, and then its name as free text, where quotes
protect whatever a tag key holds. The first reading knows nothing of quotes. A tag key comes
through both unless it holds an equals sign: then the argument is cut there, inside the quotes, and
the quote that closes the key is read as part of the values.

## Key results

- `Ec2.opening_mem_of_mem_toSymbol`: no symbol looks like a call unless its wire text does
- `call?_tagCall`: any key on one line can be quoted, if it does not hold the quote itself
- `splitAssignment_tagArgument`: where the argument is cut
- `tag_argument_is_read_back`: which tag arguments are read as the filters that they name
-/

namespace CloudApi

/-! ### Symbols that look like calls

A symbol would be read before a call. -/

namespace Text

private theorem toNat_ofNat (n : Nat) : (Char.ofNat n).toNat = n ∨ (Char.ofNat n).toNat = 0 := by
  unfold Char.ofNat
  split
  · exact .inl rfl
  · exact .inr rfl

/-- Where no character is sent to an opening parenthesis by the tables, it comes from itself. -/
private theorem eq_of_opening_mem_mapCase {sequences : List (Nat × List Nat)} {runs : List CaseRun}
    (hs : ∀ p ∈ sequences, '(' ∉ p.2.map Char.ofNat)
    (hr : ∀ run ∈ runs, 40 < run.first + run.offset) {c : Char}
    (h : '(' ∈ mapCase sequences runs c) : c = '(' := by
  unfold mapCase at h
  split at h
  · -- the images of several characters are a table without it
    next image found =>
    obtain ⟨_, _, split, _⟩ := List.lookup_eq_some_iff.mp found
    exact absurd h (hs (c.toNat, image) (split ▸ List.mem_append_right _ (.head _)))
  · split at h
    · next n found =>
      obtain ⟨run, mem, image⟩ := List.exists_of_findSome?_eq_some found
      simp only [CaseRun.image?, Option.ite_none_right_eq_some, Option.some.injEq] at image
      have high := hr run mem
      -- a run shifts codes, and no shifted code is as low as that of a parenthesis
      have code : 40 = (Char.ofNat n).toNat := congrArg Char.toNat (List.mem_singleton.mp h)
      have := toNat_ofNat n
      omega
    · exact (List.mem_singleton.mp h).symm

private theorem eq_of_opening_mem_small {c : Char} (h : '(' ∈ small c) : c = '(' := by
  unfold small at h
  split at h
  · next ascii =>
    have kept := forall_isAscii (p := fun c => '(' = asciiSmall c → c = '(') (by decide) c ascii
    exact kept (List.mem_singleton.mp h)
  · exact eq_of_opening_mem_mapCase (by decide +kernel) (by decide +kernel) h

private theorem eq_of_opening_mem_capital {c : Char} (h : '(' ∈ capital c) : c = '(' := by
  unfold capital at h
  split at h
  · next ascii =>
    have kept := forall_isAscii (p := fun c => '(' = asciiCapital c → c = '(') (by decide) c ascii
    exact kept (List.mem_singleton.mp h)
  · exact eq_of_opening_mem_mapCase (by decide +kernel) (by decide +kernel) h

end Text

namespace Ec2

private theorem opening_mem_of_mem_changeFirst {f : Char → List Char}
    (hf : ∀ c, '(' ∈ f c → c = '(') {part : List Char} (h : '(' ∈ changeFirst f part) :
    '(' ∈ part := by
  cases part with
  | nil => exact h
  | cons c cs =>
    rcases List.mem_append.mp h with changed | kept
    · rw [hf c changed]
      exact .head _
    · exact .tail _ kept

/-- A symbol has the parentheses of its wire text only. -/
theorem opening_mem_of_mem_toSymbol {s : String} (h : '(' ∈ (toSymbol s).toList) :
    '(' ∈ s.toList := by
  rw [toSymbol, String.toList_ofList] at h
  have own : ∀ p ∈ parts s.toList, '(' ∈ p → '(' ∈ s.toList :=
    fun p hp hc => ((mem_parts hp).2 '(' hc).1
  cases ps : parts s.toList with
  | nil =>
    rw [ps] at h
    cases h
  | cons first rest =>
    rw [ps] at h own
    -- the parts are those of the text but for the case of their first letters
    rcases List.mem_append.mp h with first_part | later_part
    · exact own first (.head _)
        (opening_mem_of_mem_changeFirst (fun _ => Text.eq_of_opening_mem_small) first_part)
    · obtain ⟨p, hp, later_part⟩ := List.mem_flatMap.mp later_part
      exact own p (.tail _ hp)
        (opening_mem_of_mem_changeFirst (fun _ => Text.eq_of_opening_mem_capital) later_part)

/-- In the compute service no text with a parenthesis is a symbol. -/
theorem ofSymbol?_eq_none_of_opening {names : FilterNames} (h : names ∈ Names.all) {text : String}
    (opening : '(' ∈ text.toList) : names.ofSymbol? text = none := by
  apply FilterNames.ofSymbol?_of_not_mem
  intro symbol
  obtain ⟨p, hp, rfl⟩ := List.mem_map.mp symbol
  obtain ⟨own, apart⟩ := (standsApart_of_mem_all names h).listed p hp
  rw [own] at opening
  have wire := opening_mem_of_mem_toSymbol opening
  simp [isApart, wire] at apart

end Ec2

namespace CommandLine

open Text (isBlank HeadFails LastFails)
open FilterNames (tagScope)

/-! ### Tag arguments -/

/-- A tag name as a call, with the key in single quotes. -/
def tagCall (key : String) : String := "tag('" ++ key ++ "')"

/-- The argument for a tag with any of these values. -/
def tagArgument (key : String) (values : List String) : String :=
  tagCall key ++ "=" ++ Text.join "," values

variable {key : String} {values : List String}

/-- Any key on one line can be quoted, if it does not hold the quote itself. -/
theorem call?_tagCall (quote : '\'' ∉ key.toList) (line : '\n' ∉ key.toList) :
    Filter.call? (tagCall key) = some ("tag", [key]) := by
  have written : Filter.WrittenCall "tag" [key] (tagCall key) := by
    refine ⟨⟨'t', ['a', 'g'], rfl, rfl, List.all_eq_true.mp rfl⟩, ["'" ++ key ++ "'"], ?_, ?_⟩
    · exact .cons ⟨"", _, "", by decide, .single quote, by decide, by simp⟩ .nil
    · rw [← String.toList_inj]
      simp [tagCall, Text.join]
  refine written.call?_eq ?_
  simp [tagCall, line]

theorem trimList_tagCall (key : String) :
    Text.trimList (tagCall key).toList = (tagCall key).toList := by
  -- it begins with a letter and ends with a parenthesis
  have chars : (tagCall key).toList = 't' :: ("ag('" ++ key ++ "'").toList ++ [')'] := by
    simp [tagCall]
  rw [chars]
  apply Text.trimList_eq_self
  · rintro _ ⟨⟩
    decide
  · intro c hc
    rw [List.getLast?_concat] at hc
    cases hc
    decide

/-- Without an equals sign in the key the argument is cut after the call, -/
theorem splitAssignment_tagArgument (free : '=' ∉ key.toList) (ne : values ≠ [])
    (plain : ∀ v ∈ values, IsValue v) :
    splitAssignment (tagArgument key values) = .ok (tagCall key, values) := by
  rw [splitAssignment_eq_ok_iff]
  refine ⟨(tagCall key).toList, (Text.join "," values).toList, by simp [tagArgument], ?_, ?_, ?_,
    ?_⟩
  · simp [tagCall, free]
  · rw [valuesOf_join_values ne plain]
    simpa using ne
  · rw [trimList_tagCall, String.ofList_toList]
  · rw [valuesOf_join_values ne plain, List.map_map]
    simp [Function.comp_def]

/-- and otherwise other values are read: the quote that closes the key is among them. -/
theorem values_ne_of_equals_mem (equals : '=' ∈ key.toList) (ne : values ≠ [])
    (plain : ∀ v ∈ values, IsValue v) {name : String} {read : List String}
    (h : splitAssignment (tagArgument key values) = .ok (name, read)) : read ≠ values := by
  obtain ⟨before, after, split, free, _, _, rfl⟩ := splitAssignment_eq_ok_iff.mp h
  obtain ⟨start, rest, hkey, hstart⟩ := List.eq_append_cons_of_mem equals
  -- the first equals sign is the one in the key
  have cut : after = rest ++ '\'' :: ')' :: '=' :: (Text.join "," values).toList := by
    have inside : (tagArgument key values).toList = ("tag('".toList ++ start) ++
        '=' :: (rest ++ '\'' :: ')' :: '=' :: (Text.join "," values).toList) := by
      simp [tagArgument, tagCall, hkey]
    have first := Text.cut?_append after free
    rw [← split, inside, Text.cut?_append _ (by simp [hstart])] at first
    cases first
    rfl
  -- splitting and trimming neither adds nor loses a quote
  have quotes (cs : List Char) : (valuesOf cs).flatten.count '\'' = cs.count '\'' :=
    count_valuesOf (by decide) (by decide) cs
  intro same
  have read_chars : valuesOf after = values.map String.toList := by
    rw [← same, List.map_map]
    simp [Function.comp_def]
  -- so the values would hold one quote more than they do
  have more := quotes after
  have own := quotes (Text.join "," values).toList
  rw [read_chars, cut, List.count_append, List.count_cons_self] at more
  rw [valuesOf_join_values ne plain] at own
  have others : ∀ cs : List Char, (')' :: '=' :: cs).count '\'' = cs.count '\'' := by
    intro cs
    rw [List.count_cons_of_ne (by decide), List.count_cons_of_ne (by decide)]
  rw [others] at more
  omega

/-! ### Filters -/

/-- The set accepts the name of every tag whose key stands on one line. -/
def AdmitsTags (names : FilterNames) : Prop :=
  ∀ key : String, key ≠ "" → '\n' ∉ key.toList → names.accepts (tagScope ++ key) = true

/-- A filter for a tag and these values. -/
def IsTagFilter (names : FilterNames) (key : String) (values : List String) (f : Filter) : Prop :=
  f.name.names = names ∧ f.name.text = tagScope ++ key ∧ f.values = values

variable {names : FilterNames} {d : Definition}

theorem admitsTags_of_pattern (h : names.pattern = some (FilterNames.inScope tagScope)) :
    AdmitsTags names := by
  intro key nonempty line
  obtain ⟨c, cs, e⟩ : ∃ c cs, key.toList = c :: cs :=
    List.exists_cons_of_ne_nil fun empty => nonempty (String.toList_inj.mp empty)
  have made : FilterNames.inScope tagScope (tagScope ++ key) = true := by
    refine FilterNames.inScope_iff.mpr ⟨c, cs, by simp [e], ?_⟩
    rintro rfl
    simp [e] at line
  rw [FilterNames.accepts, h, Option.any_some, made, Bool.or_true]

theorem parseFilter_eq_ok_iff (filters : d.filters = some names) {text : String} {f : Filter} :
    parseFilter d text = .ok f ↔
      ∃ name, splitAssignment text = .ok (name, f.values) ∧ names.resolve name = .ok f.name := by
  unfold parseFilter
  rw [filters]
  -- splitting and resolving are the two steps, each with an error of its own
  constructor
  · intro h
    obtain ⟨⟨name, values⟩, split, h⟩ := bind_eq_ok.mp h
    obtain ⟨n, resolved, h⟩ := bind_eq_ok.mp h
    cases h
    exact ⟨name, mapError_eq_ok.mp split, mapError_eq_ok.mp resolved⟩
  · rintro ⟨name, split, resolved⟩
    refine bind_eq_ok.mpr ⟨(name, f.values), mapError_eq_ok.mpr split, ?_⟩
    exact bind_eq_ok.mpr ⟨f.name, mapError_eq_ok.mpr resolved, rfl⟩

/-- A call for a tag means the tag, if the call is not the symbol of another name. -/
theorem resolve_tagCall (admits : AdmitsTags names) (nonempty : key ≠ "")
    (quote : '\'' ∉ key.toList) (line : '\n' ∉ key.toList) :
    (∃ n, names.resolve (tagCall key) = .ok n ∧ n.names = names ∧ n.text = tagScope ++ key) ↔
      ∀ literal, names.ofSymbol? (tagCall key) = some literal → literal = tagScope ++ key := by
  have value : ∃ n, (names.value (tagScope ++ key)).mapError Error.name = .ok n ∧
      n.names = names ∧ n.text = tagScope ++ key :=
    ⟨⟨names, tagScope ++ key, admits key nonempty line⟩,
      mapError_eq_ok.mpr (FilterNames.value_eq_ok_iff.mpr ⟨rfl, rfl⟩), rfl, rfl⟩
  unfold FilterNames.resolve
  -- symbols are looked for first, and only then is the text read as a call
  cases found : names.ofSymbol? (tagCall key) with
  | some literal =>
    constructor
    · rintro ⟨n, read, _, text⟩ _ ⟨⟩
      exact (FilterNames.value_eq_ok_iff.mp (mapError_eq_ok.mp read)).2.symm.trans text
    · intro same
      rw [same literal rfl]
      exact value
  | none =>
    rw [call?_tagCall quote line]
    exact ⟨fun _ => nofun, fun _ => value⟩

/-- The argument that names a tag by a call and gives values that can stand between commas is read
as the filter for that tag with these values exactly if the key holds no equals sign and the call is
not the symbol of another name. With an equals sign in the key the filter is never read with these
values, if one is read at all. In the shipped services no such call is a symbol. -/
theorem tag_argument_is_read_back (filters : d.filters = some names) (admits : AdmitsTags names)
    (nonempty : key ≠ "") (quote : '\'' ∉ key.toList) (line : '\n' ∉ key.toList) (ne : values ≠ [])
    (plain : ∀ v ∈ values, IsValue v) :
    ((∃ f, parseFilter d (tagArgument key values) = .ok f ∧ IsTagFilter names key values f) ↔
      '=' ∉ key.toList ∧
        ∀ literal, names.ofSymbol? (tagCall key) = some literal → literal = tagScope ++ key) ∧
    ('=' ∈ key.toList →
      ∀ f, parseFilter d (tagArgument key values) = .ok f → f.values ≠ values) ∧
    (d ∈ Ec2.definitions ++ CloudStack.definitions → names.ofSymbol? (tagCall key) = none) := by
  -- with an equals sign in the key the values come out different, whatever is resolved
  have other : '=' ∈ key.toList →
      ∀ f, parseFilter d (tagArgument key values) = .ok f → f.values ≠ values := by
    intro equals f h
    obtain ⟨name, split, _⟩ := (parseFilter_eq_ok_iff filters).mp h
    exact values_ne_of_equals_mem equals ne plain split
  refine ⟨⟨?_, ?_⟩, other, ?_⟩
  · rintro ⟨f, h, own, text, same⟩
    have free : '=' ∉ key.toList := fun equals => other equals f h same
    -- so what was resolved is the call as it was written
    refine ⟨free, (resolve_tagCall admits nonempty quote line).mp ⟨f.name, ?_, own, text⟩⟩
    obtain ⟨name, split, resolved⟩ := (parseFilter_eq_ok_iff filters).mp h
    rw [splitAssignment_tagArgument free ne plain] at split
    cases split
    exact resolved
  · rintro ⟨free, symbol⟩
    obtain ⟨n, resolved, own, text⟩ := (resolve_tagCall admits nonempty quote line).mpr symbol
    refine ⟨⟨n, values⟩, (parseFilter_eq_ok_iff filters).mpr ⟨tagCall key, ?_, resolved⟩, own, text,
      rfl⟩
    exact splitAssignment_tagArgument free ne plain
  · intro shipped
    rcases List.mem_append.mp shipped with compute | query
    · refine Ec2.ofSymbol?_eq_none_of_opening (Ec2.mem_all_of_mem_definitions compute filters) ?_
      simp [tagCall]
    · -- the other definitions have no filters
      have none : ∀ d ∈ CloudStack.definitions, d.filters = none := by decide
      rw [none d query] at filters
      cases filters

/-! Volumes by a tag whose key needs its quotes, and by tags with an equals sign in the key. -/

private theorem volumes_admitTags : AdmitsTags Ec2.Names.volumes :=
  admitsTags_of_pattern rfl

/-- A key that needs its quotes. -/
private def centerKey : String := " cost,(\"center\") "

theorem quoted_key_is_read_back :
    ∃ f, parseFilter Ec2.volumeDefinition "tag(' cost,(\"center\") ')=a=b,it's" = .ok f ∧
      IsTagFilter Ec2.Names.volumes centerKey ["a=b", "it's"] f := by
  have plain : ∀ v ∈ ["a=b", "it's"], IsValue v := by
    simp only [List.forall_mem_cons]
    exact ⟨⟨by decide, by decide, by decide, by decide⟩,
      ⟨by decide, by decide, by decide, by decide⟩, nofun⟩
  have shipped : Ec2.volumeDefinition ∈ Ec2.definitions ++ CloudStack.definitions := by
    simp [Ec2.definitions]
  have nonempty : centerKey ≠ "" := by decide
  obtain ⟨read, _, symbol⟩ := tag_argument_is_read_back (d := Ec2.volumeDefinition) rfl
    volumes_admitTags nonempty (by decide) (by decide) (by decide) plain
  refine read.mpr ⟨by decide, ?_⟩
  intro literal found
  cases (symbol shipped).symm.trans found

private theorem resolve_unclosed_quote :
    ∃ n, Ec2.Names.volumes.resolve "tag('a)" = .ok n ∧ n.text = "tag:'a" := by
  have symbol : Ec2.Names.volumes.ofSymbol? "tag('a)" = none := by decide
  have call : Filter.call? "tag('a)" = some ("tag", ["'a"]) := by
    have arguments : Filter.arguments ['\'', 'a'] = [['\'', 'a']] := by
      rw [Filter.arguments_of_bare (by decide) (by decide)]
      simp [Filter.arguments, Text.dropEnd]
      decide
    show some (String.ofList ['t', 'a', 'g'], (Filter.arguments ['\'', 'a']).map String.ofList) = _
    rw [arguments]
    rfl
  rw [FilterNames.resolve, symbol, call]
  exact ⟨⟨Ec2.Names.volumes, "tag:'a", by decide⟩, rfl, rfl⟩

/-- The same call is read as a name where no assignment is around it. The argument is refused, or
it is silently read as a filter for another tag. -/
theorem equals_sign_in_key_is_cut :
    AdmitsTags Ec2.Names.volumes ∧ IsValue "v" ∧
    (∃ n, Ec2.Names.volumes.resolve (tagCall "a=b") = .ok n ∧ n.text = "tag:a=b") ∧
    parseFilter Ec2.volumeDefinition (tagArgument "a=b" ["v"]) =
      .error (.client (.name (.invalidFilter "volume" "tag('a"))) ∧
    ∃ f, parseFilter Ec2.volumeDefinition (tagArgument "a)=b" ["v"]) = .ok f ∧
      f.name.text = "tag:'a" ∧ f.values = ["b')=v"] := by
  refine ⟨volumes_admitTags, ⟨by decide, by decide, by decide, by decide⟩, ?_, rfl, ?_⟩
  · -- on its own the call is resolved as it should be
    have known : Ec2.Names.volumes ∈ Ec2.Names.all := by simp [Ec2.Names.all]
    have opening : '(' ∈ (tagCall "a=b").toList := by decide
    have none := Ec2.ofSymbol?_eq_none_of_opening known opening
    have meant : ∀ literal, Ec2.Names.volumes.ofSymbol? (tagCall "a=b") = some literal →
        literal = tagScope ++ "a=b" := by
      intro literal found
      cases none.symm.trans found
    obtain ⟨n, read, _, text⟩ :=
      (resolve_tagCall volumes_admitTags (by decide) (by decide) (by decide)).mpr meant
    exact ⟨n, read, text⟩
  · -- cut in the key, the call has lost its closing quote and is read as a bare text
    obtain ⟨n, read, text⟩ := resolve_unclosed_quote
    exact ⟨⟨n, ["b')=v"]⟩, (parseFilter_eq_ok_iff rfl).mpr ⟨"tag('a)", rfl, read⟩, text, rfl⟩

end CommandLine

end CloudApi
