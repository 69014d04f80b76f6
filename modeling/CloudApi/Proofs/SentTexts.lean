import CloudApi.CloudStack.Service
import CloudApi.Proofs.AddressedParameters
import CloudApi.Proofs.BuiltNames
import CloudApi.Proofs.QueryEnvelope

/-!
# Texts that are sent

Identifiers, values of filters and names of attributes are given as a document alone or as a list of
documents. A document that is read as a text is sent as this text from wherever it stands, since
each element of a list is read apart from the others, and a request tells where each text came from
by its number, or joins them in order.

## Key results

- `Loose.ReadsLists.append_cons_iff`: an element of a list is read apart from the others
- `Loose.ReadsLists.exists_of_hasAt`: what is given at a place is read at this place
- `Capability.prepare_of_loose`: what is read of loose identifiers and filters is prepared
- `Capability.IsCompute.addresses`: what is prepared is found in the request by its numbers
- `sentAs_of_scalarText?`: a text is sent wherever it is given
-/

namespace CloudApi

/-! ### Elements in their places -/

namespace Loose

theorem ofItems_eq (items : List Json) : ofItems items = items.map ofJson := by
  induction items with
  | nil => rfl
  | cons j items ih => rw [ofItems, ih, List.map_cons]

theorem get?_ofMembers (members : Keyed Json) (name : String) :
    Keyed.get? (ofMembers members) name = (members.get? name).map ofJson := by
  induction members with
  | nil => rfl
  | cons member members ih =>
    obtain ⟨k, j⟩ := member
    rw [ofMembers, Keyed.get?_cons, Keyed.get?_cons, ih]
    split <;> rfl

/-- A list of documents with one of them in the middle. -/
theorem ofJson_array (front back : List Json) (j : Json) :
    ofJson (.array (front ++ j :: back)) =
      .list (front.map ofJson ++ ofJson j :: back.map ofJson) := by
  rw [ofJson, ofItems_eq, List.map_append, List.map_cons]

namespace ReadsLists

variable {ε α : Type} {item : Loose → Except ε α} {told : Nat → ε → ε → Prop}
  {list : Loose → Except ε (List α)} {front back : List Loose} {v : Loose}

/-- An element of a list is read apart from those before it and those after it. -/
theorem append_cons_iff (law : ReadsLists item told list) {xs : List α} :
    list (.list (front ++ v :: back)) = .ok xs ↔
      ∃ before x after, list (.list front) = .ok before ∧ item v = .ok x ∧
        list (.list back) = .ok after ∧ xs = before ++ x :: after := by
  simp only [law.items, List.map_append, List.map_cons]
  constructor
  · intro all
    obtain ⟨before, rest, rfl, hb, hr⟩ := List.map_eq_append_iff.mp all.symm
    obtain ⟨x, after, rfl, hx, ha⟩ := List.map_eq_cons_iff.mp hr
    exact ⟨before, x, after, hb.symm, hx.symm, ha.symm, rfl⟩
  · rintro ⟨before, x, after, hb, hx, ha, rfl⟩
    rw [hb, hx, ha, List.map_append, List.map_cons]

/-- The error of an element is told if all those before it are read. -/
theorem eq_error_of_bad (law : ReadsLists item told list) {before : List α} {e e' : ε}
    (hf : list (.list front) = .ok before) (bad : item v = .error e)
    (tells : told front.length e e') : list (.list (front ++ v :: back)) = .error e' := by
  refine (law.fails _ _).mpr ⟨front.length, e, ⟨?_, v, by simp, bad⟩, tells⟩
  rw [List.take_left]
  exact (law.succeeds front).mp ⟨before, hf⟩

end ReadsLists

/-! ### Places in what is given -/

/-- What is given is the document alone, or a list that has it at the `i`-th place, counted from
one, and whose other elements are good. -/
inductive HasAt (good : Json → Prop) (j : Json) : Json → Nat → Prop where
  | alone : HasAt good j j 1
  | listed (front back : List Json) (h : ∀ other ∈ front ++ back, good other) :
    HasAt good j (.array (front ++ j :: back)) (front.length + 1)

/-- What stands at a place is read there, if the other elements can be read. -/
theorem ReadsLists.exists_of_hasAt {ε α : Type} {item : Loose → Except ε α}
    {told : Nat → ε → ε → Prop} {list : Loose → Except ε (List α)}
    (law : ReadsLists item told list) {good : Json → Prop} {j given : Json} {i : Nat} {x : α}
    (h : HasAt good j given i) (read : item (ofJson j) = .ok x)
    (single : ∀ vs, ofJson j ≠ .list vs)
    (others : ∀ other, good other → ∃ y, item (ofJson other) = .ok y) :
    ∃ xs, list (ofJson given) = .ok xs ∧ nth? xs i = some x := by
  cases h with
  | alone =>
    have one : list (.list [ofJson j]) = .ok [x] := (law.items _ _).mpr (by simp [read])
    exact ⟨[x], (law.single _ single _).mpr one, rfl⟩
  | listed front back h =>
    -- what stands before and behind the value is read as a list of its own
    have readable {part : List Json} (hp : ∀ other ∈ part, good other) :
        ∃ xs, list (.list (part.map ofJson)) = .ok xs := by
      refine (law.succeeds _).mpr fun v hv => ?_
      obtain ⟨other, ho, rfl⟩ := List.mem_map.mp hv
      exact others other (hp other ho)
    obtain ⟨before, hb⟩ := readable fun other ho => h other (List.mem_append_left back ho)
    obtain ⟨after, ha⟩ := readable fun other ho => h other (List.mem_append_right front ho)
    refine ⟨before ++ x :: after, ?_, ?_⟩
    · rw [ofJson_array]
      exact law.append_cons_iff.mpr ⟨before, x, after, hb, read, ha, rfl⟩
    · -- there are as many elements before it as there were
      have lengths := congrArg List.length ((law.items _ _).mp hb)
      simp only [List.length_map] at lengths
      simp [nth?, lengths]

end Loose

/-! ### What is sent of loose values -/

open Loose (HasAt ofJson)

namespace Capability

variable {c : Capability} {ids filters : Loose} {texts : List String} {fs : List Filter}

/-- Filters that are read for a capability belong to it. -/
theorem checkFilters_of_loose (hf : c.filtersOfLoose filters = .ok fs) :
    c.checkFilters fs = .ok () := by
  -- a filter that has been read is one of the resource that it was read for
  have taken : ∀ f ∈ fs, c.takes f = true := by
    intro f mem
    unfold filtersOfLoose at hf
    split at hf
    · cases hf
      exact nomatch mem
    · split at hf
      · next names known =>
        obtain ⟨item, read⟩ := Filter.exists_ofLoose_of_mem hf mem
        have own := Filter.names_eq_of_ofLoose read
        simp [takes, known, FilterName.resource, own]
      · cases hf
  have none : fs.find? (fun f => !c.takes f) = none := by
    simpa using taken
  rw [checkFilters, none]

/-- What is read of loose identifiers and filters is prepared, if there are not too many
identifiers. -/
theorem prepare_of_loose (hi : ids.toList String = .ok texts)
    (hf : c.filtersOfLoose filters = .ok fs) (limit : c.checkIds texts = .ok ()) :
    c.queryOfLoose ids filters >>= c.prepare =
      .ok (c.target.prepare (envelopeOf c.definition { ids := texts, filters := fs })) := by
  -- the three steps that could fail are the three hypotheses
  have query : c.queryOfLoose ids filters = .ok { ids := texts, filters := fs } := by
    simp only [queryOfLoose, hi, hf]
    rfl
  have envelope : c.envelope { ids := texts, filters := fs } =
      .ok (envelopeOf c.definition { ids := texts, filters := fs }) := by
    simp only [Capability.envelope, limit, checkFilters_of_loose hf]
    rfl
  rw [query]
  show (c.envelope _).map _ = _
  rw [envelope]
  rfl

/-- A query that is read from loose values has no further parameters. -/
private theorem separate_loose (d : Definition) (texts : List String) (fs : List Filter) :
    ({ ids := texts, filters := fs } : Query).Separate d where
  lists_set := nofun
  distinct := List.nodup_nil
  plain := nofun
  not_id := nofun
  not_filter := nofun

/-- The capabilities of the compute service that take identifiers take any number of them, and
their parameters have names of their own. -/
private theorem parameters_compute : ∀ d ∈ Ec2.definitions,
    d.filterParam = "Filter" ∧ d.singleId = false ∧
    ∀ param ∈ d.idParam, param ≠ "Action" ∧ param ≠ "Version" := by
  decide

private theorem numberable_compute {d : Definition} (hd : d ∈ Ec2.definitions)
    (texts : List String) (fs : List Filter) :
    (envelopeOf d { ids := texts, filters := fs }).Numberable := by
  obtain ⟨filterParam, _, notHeader⟩ := parameters_compute d hd
  have separate := separate_compute d hd
  intro name known
  rw [Query.params_envelopeOf separate (separate_loose d texts fs)] at known
  -- there are no keys but the one of the identifiers and the one of the filters
  rcases Query.mem_keys_entries known with id | rfl | more
  · exact ⟨separate.id_plain name id, notHeader name id⟩
  · exact ⟨separate.filter_plain, by simp [filterParam], by simp [filterParam]⟩
  · exact nomatch more

/-- A capability of the compute service, over numbered parameters. -/
structure IsCompute (c : Capability) : Prop where
  defined : c.definition ∈ Ec2.definitions
  numbered : ∃ provider, c.target.handler.protocol = .ec2Query provider

/-- A capability of the query service, over joined parameters. -/
structure IsQuery (c : Capability) : Prop where
  defined : c.definition ∈ CloudStack.definitions
  joined : c.target.handler.protocol = .cloudStackQuery

/-- In the compute service, what a query tells is found in the request by its numbers. -/
theorem IsCompute.addresses (h : c.IsCompute) {name : String} {value : Param}
    (mem : (name, value) ∈ Query.entries c.definition { ids := texts, filters := fs }) :
    (c.target.prepare (envelopeOf c.definition { ids := texts, filters := fs })).Addresses
      name value := by
  obtain ⟨provider, numbered⟩ := h.numbered
  have separate := separate_compute c.definition h.defined
  have own := separate_loose c.definition texts fs
  have params := Query.params_envelopeOf separate own
  have distinct := Query.nodup_keys_entries separate own
  rw [← params] at distinct mem
  rw [CallTarget.prepare, Handler.prepare, numbered]
  exact (numberable_compute h.defined texts fs).addresses distinct provider _ _ mem

/-- In the compute service, the identifiers and the filters that have been read are sent. -/
theorem IsCompute.prepare_of_loose (h : c.IsCompute) (hi : ids.toList String = .ok texts)
    (taken : c.definition.idParam = none → texts = []) (hf : c.filtersOfLoose filters = .ok fs) :
    ∃ r, c.queryOfLoose ids filters >>= c.prepare = .ok r ∧
      (∀ param, c.definition.idParam = some param → texts ≠ [] →
        r.Addresses param (.list texts)) ∧
      (fs ≠ [] → r.Addresses "Filter" (.filters fs)) := by
  obtain ⟨filterParam, several, _⟩ := parameters_compute c.definition h.defined
  -- only a capability without identifiers could refuse them here
  have limit : c.checkIds texts = .ok () := by
    cases idParam : c.definition.idParam with
    | none => simp [checkIds, Definition.maxIds, idParam, taken idParam]
    | some param => simp [checkIds, Definition.maxIds, idParam, several]
  refine ⟨_, Capability.prepare_of_loose hi hf limit, fun param idParam ne => ?_, fun ne => ?_⟩
  · exact h.addresses (by simp [Query.entries, Query.idEntries, idParam, ne])
  · exact h.addresses (by simp [Query.entries, Query.filterEntries, filterParam, ne])

/-- In the query service, the identifiers that have been read are sent as one text. -/
theorem IsQuery.prepare_of_loose (h : c.IsQuery) (hi : ids.toList String = .ok texts)
    (ne : texts ≠ []) (limit : c.definition.singleId = true → texts.length = 1) :
    ∃ param r, c.definition.idParam = some param ∧
      c.queryOfLoose ids (.list []) >>= c.prepare = .ok r ∧
      r.param? param = some (Text.join "," texts) := by
  have parameters : ∀ d ∈ CloudStack.definitions,
      ∃ param ∈ d.idParam, "command" ≠ param ∧ "response" ≠ param := by decide
  obtain ⟨param, idParam, command, response⟩ := parameters c.definition h.defined
  rw [Option.mem_def] at idParam
  -- more than one identifier is too many for some capabilities, and one is not
  have few : c.checkIds texts = .ok () := by
    cases single : c.definition.singleId with
    | false => simp [checkIds, Definition.maxIds, idParam, single]
    | true => simp [checkIds, Definition.maxIds, idParam, single, limit single]
  have params : (envelopeOf c.definition { ids := texts }).params = [(param, .list texts)] := by
    simp [envelopeOf, idParam, Envelope.setList, Envelope.setFilters, Envelope.set, ne]
    rfl
  refine ⟨param, _, idParam, Capability.prepare_of_loose hi rfl few, ?_⟩
  rw [CallTarget.prepare, Handler.prepare, h.joined]
  -- the parameter comes right after the command and the form of the answer
  show Keyed.get? (("command", _) :: ("response", _) :: Envelope.query _ .joined) param = _
  rw [Keyed.get?_cons, if_neg command, Keyed.get?_cons, if_neg response, Envelope.query, params]
  simp [QueryStyle.pairs, QueryStyle.joinedPairs, Keyed.get?_cons]

end Capability

/-- The names of attributes that have been read are found in the request by their numbers. -/
theorem Ec2.accountAttributes_of_toList {names : Loose} {texts : List String}
    (read : names.toList String = .ok texts) (ne : texts ≠ []) :
    ∃ e, Ec2.accountAttributes names = .ok e ∧ ∀ provider endpoint version,
      ((Protocol.ec2Query provider).prepare endpoint version e).Addresses "AttributeName"
        (.list texts) := by
  let e : Envelope :=
    { command := "DescribeAccountAttributes", params := [("AttributeName", .list texts)] }
  -- an empty list would not be set
  have some_name : texts.isEmpty = false := by simpa using ne
  have built : Ec2.accountAttributes names = .ok e := by
    simp only [Ec2.accountAttributes, read, Except.map, Envelope.setList, some_name]
    rfl
  have numberable : e.Numberable := by
    have own : '.' ∉ "AttributeName".toList ∧ "AttributeName" ≠ "Action" ∧
        "AttributeName" ≠ "Version" := by decide
    intro name known
    exact List.mem_singleton.mp known ▸ own
  refine ⟨e, built, fun provider endpoint version => ?_⟩
  exact numberable.addresses (List.nodup_singleton _) provider endpoint version
    (List.mem_singleton.mpr rfl)

/-! ### Where a text comes out -/

namespace Loose

/-- The document is read as a text. -/
def HasText (j : Json) : Prop := ∃ s, (ofJson j).scalarText? = some s

/-- A document with a text is read at its place among others that have one. -/
theorem exists_texts_of_hasAt {j given : Json} {i : Nat} {text : String}
    (own : (ofJson j).scalarText? = some text) (h : HasAt HasText j given i) :
    ∃ texts, (ofJson given).toList String = .ok texts ∧ nth? texts i = some text := by
  -- a scalar is read as its own text
  have read {j : Json} {s : String} (hs : (ofJson j).scalarText? = some s) :
      LooseElement.ofLoose (ofJson j) = (.ok s : Except ShapeError String) := by
    simp only [LooseElement.ofLoose, hs]
  have single : ∀ vs, ofJson j ≠ .list vs := by
    intro vs list
    rw [list] at own
    cases own
  exact (readsLists_toList String).exists_of_hasAt h (read own) single
    fun _ ⟨s, hs⟩ => ⟨s, read hs⟩

end Loose

namespace Filter

/-- The document is read as a filter. -/
def IsReadable (names : FilterNames) (j : Json) : Prop := ∃ f, ofLoose names (ofJson j) = .ok f

/-- The document is a filter with a name that is accepted, and has these values. -/
def GivesValues (names : FilterNames) (filter values : Json) : Prop :=
  ∃ (members : Keyed Json) (text : String) (name : FilterName), filter = .object members ∧
    members.get? "name" = some (.text text) ∧ names.resolve text = .ok name ∧
    (members.get? "value").or (members.get? "values") = some values

theorem GivesValues.ofLoose_eq {names : FilterNames} {filter values : Json} {texts : List String}
    (h : GivesValues names filter values) (read : (ofJson values).toList String = .ok texts) :
    ∃ name, ofLoose names (ofJson filter) = .ok ⟨name, texts⟩ := by
  obtain ⟨members, text, name, rfl, named, resolved, valued⟩ := h
  -- the members of the filter are looked up by name, the values under either of two
  have hn : nameOfEntries names (Loose.ofMembers members) = .ok name := by
    simp only [nameOfEntries, Loose.get?_ofMembers, named]
    exact resolved
  have hv : valuesOfEntries (Loose.ofMembers members) = .ok texts := by
    simp only [valuesOfEntries, Loose.get?_ofMembers, ← Option.map_or, valued]
    exact read
  refine ⟨name, ?_⟩
  simp only [ofJson, ofLoose, hn, hv]
  rfl

end Filter

/-- Where a capability has filters, a value is read as a list of them. -/
theorem Capability.filtersOfLoose_eq_listOfLoose {c : Capability} {names : FilterNames}
    (known : c.definition.filters = some names) (v : Loose) :
    c.filtersOfLoose v = Filter.listOfLoose names v := by
  unfold filtersOfLoose
  split
  · rfl
  · rw [known]

/-- The text of the document is sent wherever the document is given: alone, or as an element of a
list whose other elements have texts. In the compute service it is found under the number of its
place, as an identifier, as a value of a filter and as the name of an attribute; in the query
service the identifiers are joined. -/
structure SentAs (j : Json) (text : String) : Prop where
  ids : ∀ c : Capability, c.IsCompute → ∀ param, c.definition.idParam = some param →
    ∀ given i, HasAt Loose.HasText j given i →
    ∀ filters fs, c.filtersOfLoose filters = .ok fs →
    ∃ r, c.queryOfLoose (ofJson given) filters >>= c.prepare = .ok r ∧
      r.param? (param ++ "." ++ toString i) = some text
  values : ∀ c : Capability, c.IsCompute → ∀ names, c.definition.filters = some names →
    ∀ given i, HasAt Loose.HasText j given i →
    ∀ filter, Filter.GivesValues names filter given →
    ∀ filters k, HasAt (Filter.IsReadable names) filter filters k →
    ∀ (ids : Loose) (texts : List String), ids.toList String = .ok texts →
    (c.definition.idParam = none → texts = []) →
    ∃ r, c.queryOfLoose ids (ofJson filters) >>= c.prepare = .ok r ∧
      r.param? ("Filter." ++ toString k ++ ".Value." ++ toString i) = some text
  attributes : ∀ given i, HasAt Loose.HasText j given i →
    ∃ e, Ec2.accountAttributes (ofJson given) = .ok e ∧ ∀ provider endpoint version,
      ((Protocol.ec2Query provider).prepare endpoint version e).param?
        ("AttributeName." ++ toString i) = some text
  joined : ∀ c : Capability, c.IsQuery → ∀ given i, HasAt Loose.HasText j given i →
    ∃ texts, (ofJson given).toList String = .ok texts ∧ nth? texts i = some text ∧
      ((c.definition.singleId = true → texts.length = 1) →
        ∃ param r, c.definition.idParam = some param ∧
          c.queryOfLoose (ofJson given) (.list []) >>= c.prepare = .ok r ∧
          r.param? param = some (Text.join "," texts))

private theorem ne_nil_of_nth? {α : Type} {xs : List α} {i : Nat} {x : α}
    (h : nth? xs i = some x) : xs ≠ [] := by
  rintro rfl
  cases i <;> cases h

/-- A document with a text is sent as this text. -/
theorem sentAs_of_scalarText? {j : Json} {text : String}
    (own : (ofJson j).scalarText? = some text) : SentAs j text where
  -- in each place the texts are read, sent one by one, and found again by number
  ids c compute param idParam given i place filters fs hf := by
    obtain ⟨texts, read, found⟩ := Loose.exists_texts_of_hasAt own place
    have taken : c.definition.idParam = none → texts = [] := by simp [idParam]
    obtain ⟨r, prepared, addressed, _⟩ := compute.prepare_of_loose read taken hf
    exact ⟨r, prepared, (addressed param idParam (ne_nil_of_nth? found) i).trans found⟩
  values c compute names known given i place filter gives filters k listed ids others hi taken := by
    obtain ⟨texts, read, found⟩ := Loose.exists_texts_of_hasAt own place
    obtain ⟨name, hf⟩ := gives.ofLoose_eq read
    have single : ∀ vs, ofJson filter ≠ .list vs := by
      obtain ⟨_, _, _, rfl, _⟩ := gives
      exact nofun
    -- the filter is read at its place, and then its values at theirs
    obtain ⟨fs, readFilters, hk⟩ :=
      (Filter.readsLists_listOfLoose names).exists_of_hasAt listed hf single fun _ => id
    rw [← Capability.filtersOfLoose_eq_listOfLoose known] at readFilters
    obtain ⟨r, prepared, _, addressed⟩ := compute.prepare_of_loose hi taken readFilters
    refine ⟨r, prepared, ((addressed (ne_nil_of_nth? hk) k).2 i).trans ?_⟩
    rw [hk]
    exact found
  attributes given i place := by
    obtain ⟨texts, read, found⟩ := Loose.exists_texts_of_hasAt own place
    obtain ⟨e, built, addressed⟩ := Ec2.accountAttributes_of_toList read (ne_nil_of_nth? found)
    refine ⟨e, built, fun provider endpoint version => ?_⟩
    exact (addressed provider endpoint version i).trans found
  joined c query given i place := by
    obtain ⟨texts, read, found⟩ := Loose.exists_texts_of_hasAt own place
    exact ⟨texts, read, found, query.prepare_of_loose read (ne_nil_of_nth? found)⟩

end CloudApi
