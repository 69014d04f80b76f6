import CloudApi.Proofs.LooseQuery

/-!
# Names that can be built

However a filter name is built, its wire text passes the one test of its set. Where names can be
made from tag keys only, that test is known for every text: the text is one of the listed wire
texts, or it is the scope with a key behind it that begins with another character than a line feed.

## Key results

- `FilterName.Built.names_eq`: whatever operation builds a name, the name is of the set
- `FilterNames.accepts_iff_tagged`: which texts a set accepts
- `built_names_are_accepted`: what is known of a name that has been built, and of unknown symbols
-/

namespace CloudApi

namespace FilterNames

/-- The scope of tag keys with a key behind it, which is not empty and does not begin with a line
feed. -/
def IsTagText (text : String) : Prop :=
  ∃ key, text = tagScope ++ key ∧ ∃ c ∈ key.toList.head?, c ≠ '\n'

theorem inScope_tagScope_iff {text : String} :
    inScope tagScope text = true ↔ IsTagText text := by
  rw [inScope_iff]
  constructor
  · rintro ⟨c, rest, e, hc⟩
    refine ⟨.ofList (c :: rest), ?_, c, by simp, hc⟩
    rw [← String.toList_inj, e, String.toList_append, String.toList_ofList]
  · rintro ⟨key, rfl, c, head, hc⟩
    obtain ⟨rest, e⟩ := List.head?_eq_some_iff.mp head
    exact ⟨c, rest, by rw [String.toList_append, e], hc⟩

theorem accepts_iff_tagged {names : FilterNames} (tags : names.TagsOnly) {text : String} :
    names.accepts text = true ↔
      text ∈ names.literals ∨ names.hasPattern = true ∧ IsTagText text := by
  rw [accepts_iff tags, inScope_tagScope_iff]

/-! ### Ways of building a name -/

variable {names : FilterNames} {n : FilterName}

private theorem names_eq_of_value {text : String} (h : names.value text = .ok n) :
    n.names = names :=
  (value_eq_ok_iff.mp h).1

private theorem names_eq_of_name {symbol : String} (h : names.name symbol = .ok n) :
    n.names = names := by
  unfold name at h
  split at h
  · exact names_eq_of_value h
  · cases h

private theorem names_eq_of_invoke {factory : String} {args : List String}
    (h : names.invoke factory args = .ok n) : n.names = names := by
  unfold invoke at h
  split at h
  · -- the tag factory
    split at h
    · exact names_eq_of_value (mapError_eq_ok.mp h)
    · cases h
    · cases h
  · split at h
    · cases h
    · exact names_eq_of_name (mapError_eq_ok.mp h)

private theorem names_eq_of_resolve {text : String} (h : names.resolve text = .ok n) :
    n.names = names := by
  unfold resolve at h
  split at h
  · exact names_eq_of_value (mapError_eq_ok.mp h)
  · split at h
    · exact names_eq_of_invoke h
    · exact names_eq_of_value (mapError_eq_ok.mp h)

theorem name_of_not_mem {symbol : String} (unknown : symbol ∉ names.listed.map (·.1)) :
    names.name symbol = .error (.unknownSymbol names.resource symbol) := by
  rw [name, ofSymbol?_of_not_mem unknown]

end FilterNames

/-- The names that can be built from a set: from a wire text, a symbol, a tag key, a call or a free
text, or as the name of a filter that is read from a loose value, alone or in a list. -/
inductive FilterName.Built (names : FilterNames) (n : FilterName) : Prop where
  | value {text : String} (h : names.value text = .ok n)
  | name {symbol : String} (h : names.name symbol = .ok n)
  | tag {key : String} (h : names.tag key = .ok n)
  | invoke {factory : String} {args : List String} (h : names.invoke factory args = .ok n)
  | resolve {text : String} (h : names.resolve text = .ok n)
  | filter {v : Loose} {f : Filter} (h : Filter.ofLoose names v = .ok f) (hn : n = f.name)
  | filters {v : Loose} {fs : List Filter} (h : Filter.listOfLoose names v = .ok fs)
      (hn : n ∈ fs.map (·.name))

namespace Filter

variable {names : FilterNames}

theorem names_eq_of_ofLoose {v : Loose} {f : Filter} (h : ofLoose names v = .ok f) :
    f.name.names = names := by
  unfold ofLoose at h
  split at h
  · next entries =>
    -- the name comes first; what follows does not change it
    obtain ⟨name, hn, h⟩ := bind_eq_ok.mp h
    obtain ⟨values, _, h⟩ := bind_eq_ok.mp h
    cases h
    unfold nameOfEntries at hn
    split at hn
    · exact FilterNames.names_eq_of_resolve hn
    · cases hn
    · cases hn
  · cases h

/-- Every filter of a list is read from one loose value. -/
theorem exists_ofLoose_of_mem {v : Loose} {fs : List Filter}
    (h : listOfLoose names v = .ok fs) {f : Filter} (hf : f ∈ fs) :
    ∃ item, ofLoose names item = .ok f := by
  have law := readsLists_listOfLoose names
  have inList {items : List Loose} (h : listOfLoose names (.list items) = .ok fs) :
      ∃ item, ofLoose names item = .ok f := by
    have given : .ok f ∈ items.map (ofLoose names) :=
      (law.items items fs).mp h ▸ List.mem_map_of_mem hf
    obtain ⟨item, _, hi⟩ := List.mem_map.mp given
    exact ⟨item, hi⟩
  -- a value that is no list is read like the list that holds it alone
  by_cases list : ∃ items, v = .list items
  · obtain ⟨items, rfl⟩ := list
    exact inList h
  · exact inList ((law.single v (not_exists.mp list) fs).mp h)

end Filter

/-- Whatever operation builds a name, the name is of the set. -/
theorem FilterName.Built.names_eq {names : FilterNames} {n : FilterName} (h : n.Built names) :
    n.names = names := by
  cases h with
  | value h => exact FilterNames.names_eq_of_value h
  | name h => exact FilterNames.names_eq_of_name h
  | tag h => exact FilterNames.names_eq_of_value h
  | invoke h => exact FilterNames.names_eq_of_invoke h
  | resolve h => exact FilterNames.names_eq_of_resolve h
  | filter h hn => exact hn ▸ Filter.names_eq_of_ofLoose h
  | filters h hn =>
    obtain ⟨f, hf, rfl⟩ := List.mem_map.mp hn
    obtain ⟨item, hi⟩ := Filter.exists_ofLoose_of_mem h hf
    exact Filter.names_eq_of_ofLoose hi

/-- Where names can be made from tag keys only: a wire text gives a name exactly if it is listed,
or if names can be made and it is a tag key in its scope. Every name that is built is valid, of the
set's resource, and scoped exactly if its text is not listed, as it always is where no names can be
made. An unknown symbol gives no name, unless it is that of the tag factory and called. -/
theorem built_names_are_accepted {names : FilterNames} (tags : names.TagsOnly) :
    (∀ text, (∃ n, names.value text = .ok n) ↔
      text ∈ names.literals ∨ names.hasPattern = true ∧ FilterNames.IsTagText text) ∧
    (∀ n : FilterName, n.Built names →
      n.names = names ∧ n.isValid = true ∧ n.resource = names.resource ∧
      (n.text ∈ names.literals ∨ names.hasPattern = true ∧ FilterNames.IsTagText n.text) ∧
      (n.isScoped = true ↔ n.text ∉ names.literals) ∧
      (names.hasPattern = false → n.text ∈ names.literals)) ∧
    ∀ symbol, symbol ∉ names.listed.map (·.1) →
      names.name symbol = .error (.unknownSymbol names.resource symbol) ∧
      (symbol ≠ FilterNames.tagFactory → ∀ args, ∃ e, names.invoke symbol args = .error e) := by
  refine ⟨fun text => ?_, fun n built => ?_, fun symbol unknown => ?_⟩
  · -- a name is given exactly if the text passes the test
    rw [← FilterNames.accepts_iff_tagged tags]
    constructor
    · rintro ⟨n, hn⟩
      obtain ⟨rfl, rfl⟩ := FilterNames.value_eq_ok_iff.mp hn
      exact n.accepted
    · intro accepted
      exact ⟨⟨names, text, accepted⟩, FilterNames.value_eq_ok_iff.mpr ⟨rfl, rfl⟩⟩
  · -- the name brings along that its set accepts it
    obtain rfl := built.names_eq
    have accepted := (FilterNames.accepts_iff_tagged tags).mp n.accepted
    refine ⟨rfl, n.accepted, rfl, accepted, ?_, fun closed => ?_⟩
    · rw [FilterName.isScoped, Bool.not_eq_true', ← Bool.not_eq_true, FilterNames.isListed_iff]
      rfl
    · rw [closed] at accepted
      exact accepted.resolve_right nofun
  · -- the tag factory aside, a call without arguments asks for a symbol, and no other one succeeds
    have unnamed := FilterNames.name_of_not_mem unknown
    refine ⟨unnamed, fun other args => ?_⟩
    unfold FilterNames.invoke
    rw [if_neg other]
    split
    · exact ⟨_, rfl⟩
    · rw [unnamed]
      exact ⟨_, rfl⟩

/-! A set with an empty wire text, a symbol that stands twice and one that is called like the tag
factory. -/

private def disks : FilterNames :=
  { resource := "disk"
    listed := [("tag", "tag"), ("", ""), ("size", "size"), ("size", "disk-size")] }

private def bySecondSize : FilterName := ⟨disks, "disk-size", by decide⟩

theorem disk_names_are_accepted :
    (∃ n, disks.value "" = .ok n) ∧ (∃ n, disks.value "tag:a\nb" = .ok n) ∧
    (¬ ∃ n, disks.value "tag:\na" = .ok n) ∧
    (bySecondSize.isScoped = true ↔ "disk-size" ∉ disks.literals) ∧
    (∃ e, disks.invoke "disk-size" [] = .error e) := by
  obtain ⟨texts, built, unknown⟩ := built_names_are_accepted (.inr rfl : disks.TagsOnly)
  have size : disks.resolve "disk-size" = .ok bySecondSize := rfl
  refine ⟨(texts "").mpr (.inl (by decide)), ?_, ?_, (built bySecondSize (.resolve size)).2.2.2.2.1,
    (unknown "disk-size" (by decide)).2 (by decide) []⟩
  · exact (texts "tag:a\nb").mpr (.inr ⟨rfl, "a\nb", rfl, 'a', rfl, by decide⟩)
  · rw [texts, ← FilterNames.inScope_tagScope_iff]
    decide

end CloudApi
