import CloudApi.Proofs.BuiltEnvelopes
import CloudApi.Proofs.QueryKeys
import CloudApi.Protocol

/-!
# Pairs in the joined style

In the joined style a list is one text with commas between its elements, and the elements can be
told apart as long as they hold no commas themselves and there is at least one of them. How many
pairs a parameter has depends on its filters, and it is told by the keys: a key belongs to the
parameter before its first opening bracket.

## Key results

- `Text.eq_of_join_comma_eq`: texts without commas are determined by their joined text
- `QueryStyle.owner_pairs`: in either style a key belongs to the parameter before its first mark
- `QueryStyle.plain_eq_of_joinedPairs_eq`: the pairs of a parameter of a known kind determine it
- `joined_pairs_determine_parameters`: so do the pairs of an envelope
-/

namespace CloudApi

namespace Text

/-- Texts without commas are what a text that joins them is cut into. -/
theorem splitOn_join_comma {texts : List String} (ne : texts ≠ [])
    (h : ∀ s ∈ texts, ',' ∉ s.toList) :
    (join "," texts).toList.splitOn ',' = texts.map String.toList := by
  have free : ∀ cs ∈ texts.map String.toList, ',' ∉ cs := by
    intro cs hcs
    obtain ⟨s, hs, rfl⟩ := List.mem_map.mp hcs
    exact h s hs
  have some_texts : texts.map String.toList ≠ [] := fun e => ne (List.map_eq_nil_iff.mp e)
  rw [join, String.toList_intercalate]
  exact List.splitOn_intercalate ',' free some_texts

/-- At least one text is needed: no text and one empty text are joined alike. -/
theorem eq_of_join_comma_eq {xs ys : List String} (nx : xs ≠ []) (ny : ys ≠ [])
    (hx : ∀ s ∈ xs, ',' ∉ s.toList) (hy : ∀ s ∈ ys, ',' ∉ s.toList)
    (h : join "," xs = join "," ys) : xs = ys := by
  have injective : Function.Injective String.toList := fun s s' => String.toList_inj.mp
  apply injective.list_map
  rw [← splitOn_join_comma nx hx, ← splitOn_join_comma ny hy, h]

end Text

/-! ### Keys in either style -/

namespace QueryStyle

/-- What stands behind the name of a parameter in the keys of its elements. -/
def mark : QueryStyle → Char
  | .indexed => '.'
  | .joined => '['

theorem owner_memberKey {name : String} (h : '[' ∉ name.toList) (i : Nat) (part : String) :
    owner '[' (memberKey name i part) = name.toList := by
  rw [memberKey, String.append_assoc, String.append_assoc, String.append_assoc]
  exact owner_append h (by simp)

/-- Every pair of a parameter belongs to it. -/
theorem owner_joinedPairs {name : String} (h : '[' ∉ name.toList) (value : Param) :
    ∀ pair ∈ joinedPairs name value, owner '[' pair.1 = name.toList := by
  intro pair hp
  cases value with
  | scalar text =>
    rw [List.mem_singleton.mp hp]
    exact owner_of_not_mem h
  | list values =>
    rw [List.mem_singleton.mp hp]
    exact owner_of_not_mem h
  -- each filter has two keys, which begin with the name and a bracket
  | filters fs =>
    rw [joinedPairs, flatten_numbered, List.mem_flatMap] at hp
    obtain ⟨f, _, hp⟩ := hp
    rcases List.mem_pair.mp hp with rfl | rfl
    · exact owner_memberKey h f.1 "key"
    · exact owner_memberKey h f.1 "value"

/-- In either style, every pair of a parameter belongs to it. -/
theorem owner_pairs (style : QueryStyle) {name : String} (h : style.mark ∉ name.toList)
    (value : Param) : ∀ pair ∈ style.pairs name value, owner style.mark pair.1 = name.toList := by
  cases style with
  | indexed => exact owner_indexedPairs h value
  | joined => exact owner_joinedPairs h value

end QueryStyle

/-! ### Parameters of one kind -/

/-- The kinds of parameters. -/
inductive Param.Kind where
  | scalar
  | list
  | filters
deriving DecidableEq, Repr

/-- What kind of a parameter this is the value of. -/
def Param.kind : Param → Kind
  | .scalar _ => .scalar
  | .list _ => .list
  | .filters _ => .filters

/-- The names and the kinds of an envelope's parameters, in order. -/
def Envelope.kinds (e : Envelope) : Keyed Param.Kind := e.params.map fun p => (p.1, p.2.kind)

/-- The elements of lists hold no commas, and every filter has a value. -/
def Param.CommaFree : Param → Prop
  | .scalar _ => True
  | .list values => ∀ value ∈ values, ',' ∉ value.toList
  | .filters fs => ∀ f ∈ fs, f.values ≠ [] ∧ ∀ value ∈ f.values, ',' ∉ value.toList

namespace QueryStyle

/-- The pairs of filters determine them. Each filter has two pairs, one for its name and one for its
values. -/
private theorem plain_eq_of_joinedFilters_eq {name : String} {first : Nat} {fs gs : List Filter}
    (hf : (Param.filters fs).CommaFree) (hg : (Param.filters gs).CommaFree)
    (h : (numbered (joinedFilter name) first fs).flatten =
      (numbered (joinedFilter name) first gs).flatten) :
    fs.map Filter.plain = gs.map Filter.plain := by
  induction fs generalizing first gs with
  | nil =>
    cases gs with
    | nil => rfl
    | cons g gs => cases h
  | cons f fs ih =>
    cases gs with
    | nil => cases h
    | cons g gs =>
      -- both lists begin with the two pairs of their first filters, and the rest is numbered alike
      obtain ⟨nf, cf⟩ := hf f (.head _)
      obtain ⟨ng, cg⟩ := hg g (.head _)
      simp only [numbered, joinedFilter, List.flatten_cons, List.cons_append, List.nil_append,
        List.cons.injEq, Prod.mk.injEq, true_and] at h
      obtain ⟨names, values, rest⟩ := h
      -- without commas the joined values fall apart in one way only
      have head : f.plain = g.plain := by
        rw [Filter.plain, Filter.plain, names, Text.eq_of_join_comma_eq nf ng cf cg values]
      have tail := ih (fun x hx => hf x (.tail _ hx)) (fun x hx => hg x (.tail _ hx)) rest
      rw [List.map_cons, List.map_cons, head, tail]

/-- The pairs of a parameter that is set determine it, if its kind is known: a single value is sent
like a list of one element. -/
theorem plain_eq_of_joinedPairs_eq {name : String} {v w : Param} (kinds : v.kind = w.kind)
    (hv : v.IsSet) (hw : w.IsSet) (cv : v.CommaFree) (cw : w.CommaFree)
    (h : joinedPairs name v = joinedPairs name w) : v.plain = w.plain := by
  -- the kinds agree, so of the nine cases only three are left
  cases v with
  | scalar a =>
    cases w with
    | scalar b =>
      rw [joinedPairs, joinedPairs, List.singleton_inj, Prod.mk.injEq] at h
      rw [h.2]
    | list bs => cases kinds
    | filters gs => cases kinds
  | list as =>
    cases w with
    | scalar b => cases kinds
    | list bs =>
      rw [joinedPairs, joinedPairs, List.singleton_inj, Prod.mk.injEq] at h
      rw [Text.eq_of_join_comma_eq hv hw cv cw h.2]
    | filters gs => cases kinds
  | filters fs =>
    cases w with
    | scalar b => cases kinds
    | list bs => cases kinds
    | filters gs =>
      rw [Param.plain, Param.plain, plain_eq_of_joinedFilters_eq cv cw h]

theorem joinedPairs_ne_nil (name : String) {value : Param} (h : value.IsSet) :
    joinedPairs name value ≠ [] := by
  cases value with
  | scalar text => exact List.cons_ne_nil _ _
  | list values => exact List.cons_ne_nil _ _
  | filters fs =>
    obtain ⟨f, rest, rfl⟩ := List.exists_cons_of_ne_nil h
    exact List.cons_ne_nil _ _

end QueryStyle

/-! ### Envelopes whose lists are not empty -/

namespace Envelope

/-- A step that sets nothing where there is nothing to set. -/
def Step.OmitsEmpty : Step → Prop
  | .set _ _ => False
  | _ => True

theorem isSet_of_setting? {s : Step} (h : s.OmitsEmpty) {p : String × Param}
    (hp : s.setting? = some p) : p.2.IsSet := by
  -- a list and filters are left out if they are empty, so one that is set is not
  cases s with
  | set name value => exact h.elim
  | scalar name value =>
    cases hp
    trivial
  | optional name value =>
    obtain ⟨text, _, rfl⟩ := Option.map_eq_some_iff.mp hp
    trivial
  | list name values =>
    obtain ⟨ne, same⟩ := Option.ite_none_left_eq_some.mp hp
    cases same
    exact fun e => ne (List.isEmpty_iff.mpr e)
  | filters name fs =>
    obtain ⟨ne, same⟩ := Option.ite_none_left_eq_some.mp hp
    cases same
    exact fun e => ne (List.isEmpty_iff.mpr e)

/-- What a parameter holds has been set by some step. -/
theorem exists_step_of_mem_build {command : String} {steps : List Step} {p : String × Param}
    (h : p ∈ (build command steps).params) : ∃ s ∈ steps, s.setting? = some p := by
  -- names are distinct, so a parameter that stands there is the one its name finds
  have held := (Keyed.get?_eq_some_iff (nodup_keys_build command steps)).mpr h
  rw [build_eq, Keyed.get?_foldl_set, Keyed.get?_nil, Option.or_none] at held
  exact List.mem_filterMap.mp (List.mem_reverse.mp (Keyed.mem_of_get?_eq_some held))

/-- An envelope whose parameters can be told apart in the joined style: it is built without setting
empty lists, no name holds an opening bracket and no element of a list a comma, and every filter has
a value. -/
structure Joinable (e : Envelope) : Prop where
  built : ∃ command steps, e = build command steps ∧ ∀ s ∈ steps, s.OmitsEmpty
  names : ∀ name ∈ e.params.keys, '[' ∉ name.toList
  values : ∀ p ∈ e.params, p.2.CommaFree

namespace Joinable

variable {e : Envelope}

theorem nodup_keys (h : e.Joinable) : e.params.keys.Nodup := by
  obtain ⟨command, steps, rfl, _⟩ := h.built
  exact nodup_keys_build command steps

theorem isSet (h : e.Joinable) : ∀ p ∈ e.params, p.2.IsSet := by
  obtain ⟨command, steps, rfl, omit_empty⟩ := h.built
  intro p hp
  obtain ⟨s, hs, set⟩ := exists_step_of_mem_build hp
  exact isSet_of_setting? (omit_empty s hs) set

theorem grouped (h : e.Joinable) : ∀ p ∈ e.params, QueryStyle.joined.pairs p.1 p.2 ≠ [] ∧
    ∀ pair ∈ QueryStyle.joined.pairs p.1 p.2, QueryStyle.owner '[' pair.1 = p.1.toList := by
  intro p hp
  have plain_name := h.names p.1 (List.mem_map_of_mem hp)
  exact ⟨QueryStyle.joinedPairs_ne_nil p.1 (h.isSet p hp),
    QueryStyle.owner_joinedPairs plain_name p.2⟩

end Joinable

/-- Where names are distinct, a name has one kind. -/
private theorem kind_eq_of_kinds_eq {e e' : Envelope} (distinct : e'.params.keys.Nodup)
    (kinds : e.kinds = e'.kinds) {name : String} {v w : Param} (hv : (name, v) ∈ e.params)
    (hw : (name, w) ∈ e'.params) : v.kind = w.kind := by
  -- both kinds are found among those of the second envelope, whose names are distinct
  have keys : e'.kinds.keys = e'.params.keys := by simp [Envelope.kinds, Keyed.keys]
  have found {t : Keyed Param} {x : Param} (hx : (name, x) ∈ t) :
      (name, x.kind) ∈ t.map fun p => (p.1, p.2.kind) := List.mem_map.mpr ⟨_, hx, rfl⟩
  have first : (name, v.kind) ∈ e'.kinds := kinds ▸ found hv
  have second : (name, w.kind) ∈ e'.kinds := found hw
  rw [← keys] at distinct
  exact Keyed.eq_of_mem distinct first second

end Envelope

/-- Two envelopes whose parameters can be told apart in the joined style, with the same names and
kinds of parameters in the same order, have the same parameters if their pairs are equal, filters
being told by the texts of their names. If even the requests are equal then the commands are the
same, too. -/
theorem joined_pairs_determine_parameters {e e' : Envelope} (h : e.Joinable) (h' : e'.Joinable)
    (kinds : e.kinds = e'.kinds) :
    (e.query .joined = e'.query .joined → e.plain = e'.plain) ∧
    ∀ endpoint version, Protocol.cloudStackQuery.prepare endpoint version e =
      Protocol.cloudStackQuery.prepare endpoint version e' →
        e.command = e'.command ∧ e.plain = e'.plain := by
  -- the pairs of each parameter can be told from those of the others by their keys
  have plain (pairs : e.query .joined = e'.query .joined) : e.plain = e'.plain := by
    refine Envelope.plain_eq_of_query_eq h.nodup_keys h'.nodup_keys h.grouped h'.grouped ?_ pairs
    intro name v w hv hw
    exact QueryStyle.plain_eq_of_joinedPairs_eq
      (Envelope.kind_eq_of_kinds_eq h'.nodup_keys kinds hv hw) (h.isSet _ hv) (h'.isSet _ hw)
      (h.values _ hv) (h'.values _ hw)
  refine ⟨plain, fun endpoint version requests => ?_⟩
  -- the command stands first, and the pairs of the parameters behind the two of the header
  have params := congrArg Prepared.params requests
  simp only [Protocol.params_prepare_cloudStackQuery, List.cons.injEq, Prod.mk.injEq,
    true_and] at params
  exact ⟨params.1, plain params.2⟩

/-! Two envelopes with a list of empty texts, and with filters of one text that are named under sets
for two resources. -/

private def zoneNames : FilterNames := { resource := "zone", listed := [("zoneName", "zone-name")] }

private def hostNames : FilterNames := { resource := "host", listed := [("zoneName", "zone-name")] }

private def filteredSteps (names : FilterNames) (h : names.accepts "zone-name" = true) :
    List Envelope.Step :=
  [.scalar "keyword" "a,b", .list "ids" ["", ""], .optional "domain" none,
    .filters "tags" [⟨⟨names, "zone-name", h⟩, ["", "b"]⟩, ⟨⟨names, "zone-name", h⟩, ["c"]⟩]]

private def filteredPairs : List (String × String) :=
  [("keyword", "a,b"), ("ids", ","), ("tags[0].key", "zone-name"), ("tags[0].value", ",b"),
   ("tags[1].key", "zone-name"), ("tags[1].value", "c")]

private theorem joinable_filteredSteps (names : FilterNames)
    (h : names.accepts "zone-name" = true) :
    (Envelope.build "listZones" (filteredSteps names h)).Joinable where
  built := ⟨_, _, rfl, by simp [filteredSteps, Envelope.Step.OmitsEmpty]⟩
  names := by
    have keys : (Envelope.build "listZones" (filteredSteps names h)).params.keys =
        ["keyword", "ids", "tags"] := rfl
    rw [keys]
    decide
  values := by
    have params : (Envelope.build "listZones" (filteredSteps names h)).params =
        [("keyword", .scalar "a,b"), ("ids", .list ["", ""]), ("tags", .filters
          [⟨⟨names, "zone-name", h⟩, ["", "b"]⟩, ⟨⟨names, "zone-name", h⟩, ["c"]⟩])] := rfl
    rw [params]
    simp [Param.CommaFree]

theorem filtered_pairs_determine_parameters :
    let e := Envelope.build "listZones" (filteredSteps zoneNames (by decide))
    let e' := Envelope.build "listZones" (filteredSteps hostNames (by decide))
    e.query .joined = filteredPairs ∧ e'.query .joined = filteredPairs ∧ e.plain = e'.plain := by
  have pairs (names : FilterNames) (h : names.accepts "zone-name" = true) :
      (Envelope.build "listZones" (filteredSteps names h)).query .joined = filteredPairs := rfl
  refine ⟨pairs _ _, pairs _ _, ?_⟩
  exact (joined_pairs_determine_parameters (joinable_filteredSteps _ _)
    (joinable_filteredSteps _ _) rfl).1 ((pairs _ _).trans (pairs _ _).symm)

end CloudApi
