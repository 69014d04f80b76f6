import CloudApi.Ec2.Service
import CloudApi.Proofs.QueryKeys
import CloudApi.Proofs.Results

/-!
# The envelope of a query

A capability puts the parts of a query under the names of its own two parameters and under the
names that the query gives to further ones. Where these names can be told apart nothing is
replaced, and the query can be read back from its envelope, filters by the texts of their names.

## Key results

- `envelope_eq_ok`, `prepare_eq_ok`: what is known of a query that has passed the checks
- `param?_envelopeOf`: what a parameter of a query's envelope holds
- `params_envelopeOf`: the parameters of a query whose names can be told apart
- `readBack_entries`: the parts of the query, read back from these parameters
- `prepare_determines_query`: numbered parameters lose nothing of a query
-/

namespace CloudApi

/-! ### Names that can be told apart -/

/-- The names of a capability's parameters hold no point and differ. -/
structure Definition.Separate (d : Definition) : Prop where
  id_plain : ∀ param, d.idParam = some param → '.' ∉ param.toList
  filter_plain : '.' ∉ d.filterParam.toList
  distinct : d.idParam ≠ some d.filterParam

/-- The names of a query's further parameters. -/
def Query.names (q : Query) : List String := q.lists.map (·.1) ++ q.params.map (·.1)

/-- The further parameters of a query are set, and their names hold no point and differ from each
other and from those of the capability. -/
structure Query.Separate (d : Definition) (q : Query) : Prop where
  lists_set : ∀ l ∈ q.lists, l.2 ≠ []
  distinct : q.names.Nodup
  plain : ∀ name ∈ q.names, '.' ∉ name.toList
  not_id : ∀ name ∈ q.names, d.idParam ≠ some name
  not_filter : d.filterParam ∉ q.names

/-- The same query: filters are the same if their names have the same resource and text and their
values are equal. -/
def Query.Same (q q' : Query) : Prop :=
  q.ids = q'.ids ∧
  List.Forall₂ (fun f g => f.name.same g.name = true ∧ f.values = g.values)
    q.filters q'.filters ∧
  q.lists = q'.lists ∧ q.params = q'.params

/-! ### Parameters of a query -/

namespace Query

/-- The parameter for identifiers. -/
def idEntries (d : Definition) (q : Query) : Keyed Param :=
  match d.idParam with
  | some param => if q.ids.isEmpty then [] else [(param, .list q.ids)]
  | none => []

/-- The parameter for filters. -/
def filterEntries (d : Definition) (q : Query) : Keyed Param :=
  if q.filters.isEmpty then [] else [(d.filterParam, .filters q.filters)]

/-- The further parameters. -/
def moreEntries (q : Query) : Keyed Param :=
  q.lists.map (fun l => (l.1, .list l.2)) ++ q.params.map fun p => (p.1, .scalar p.2)

/-- All parameters of a query, in order. -/
def entries (d : Definition) (q : Query) : Keyed Param :=
  idEntries d q ++ filterEntries d q ++ moreEntries q

end Query

namespace Query

/-- What a query sets, in order; an empty list sets nothing. -/
def settings (d : Definition) (q : Query) : Keyed Param :=
  idEntries d q ++ filterEntries d q ++
    ((q.lists.filter (·.2 ≠ [])).map (fun l => (l.1, .list l.2)) ++
      q.params.map fun p => (p.1, .scalar p.2))

private theorem params_setIds (d : Definition) (q : Query) :
    (d.idParam.elim ({ command := d.command } : Envelope) fun param =>
      Envelope.setList { command := d.command } param q.ids).params =
      (idEntries d q).foldl (fun (t : Keyed Param) e => t.set e.1 e.2) [] := by
  unfold idEntries
  cases d.idParam with
  | none => rfl
  | some param =>
    rw [Option.elim_some, Envelope.setList]
    split <;> rfl

private theorem params_setFilters (d : Definition) (q : Query) (e : Envelope) :
    (e.setFilters d.filterParam q.filters).params =
      (filterEntries d q).foldl (fun t e => t.set e.1 e.2) e.params := by
  unfold Envelope.setFilters filterEntries
  split <;> rfl

private theorem params_foldl_setList (lists : List (String × List String)) (e : Envelope) :
    (lists.foldl (fun e p => e.setList p.1 p.2) e).params =
      ((lists.filter (·.2 ≠ [])).map fun l => (l.1, Param.list l.2)).foldl
        (fun t e => t.set e.1 e.2) e.params := by
  induction lists generalizing e with
  | nil => rfl
  | cons l rest ih =>
    rw [List.foldl_cons, ih, Envelope.setList]
    by_cases empty : l.2 = []
    · simp [empty]
    · rw [if_neg (by simpa using empty), List.filter_cons_of_pos (by simpa using empty)]
      rfl

private theorem params_foldl_setScalar (params : List (String × String)) (e : Envelope) :
    (params.foldl (fun e p => e.setScalar p.1 p.2) e).params =
      (params.map fun p => (p.1, Param.scalar p.2)).foldl (fun t e => t.set e.1 e.2)
        e.params := by
  induction params generalizing e with
  | nil => rfl
  | cons p rest ih =>
    rw [List.foldl_cons, ih]
    rfl

/-- The envelope of a query is made by its settings, one after the other. -/
theorem params_envelopeOf_eq_foldl (d : Definition) (q : Query) :
    (Capability.envelopeOf d q).params =
      (settings d q).foldl (fun (t : Keyed Param) e => t.set e.1 e.2) [] := by
  unfold Capability.envelopeOf settings
  rw [params_foldl_setScalar, params_foldl_setList, params_setFilters, params_setIds]
  simp only [List.foldl_append]

/-- What a parameter is set to last is what it holds. -/
theorem param?_envelopeOf (d : Definition) (q : Query) (name : String) :
    (Capability.envelopeOf d q).param? name = Keyed.get? (settings d q).reverse name := by
  rw [Envelope.param?, params_envelopeOf_eq_foldl, Keyed.get?_foldl_set]
  exact Option.or_none

end Query

/-! ### Separate names are kept apart -/

namespace Query

variable {d : Definition} {q : Query}

private theorem keys_idEntries (d : Definition) (q : Query) :
    (idEntries d q).keys.Sublist d.idParam.toList := by
  unfold idEntries
  cases d.idParam with
  | none => exact List.nil_sublist _
  | some param =>
    by_cases h : q.ids.isEmpty
    · simp only [h, if_true]
      exact List.nil_sublist _
    · simp only [h]
      exact List.Sublist.refl _

private theorem keys_filterEntries (d : Definition) (q : Query) :
    (filterEntries d q).keys.Sublist [d.filterParam] := by
  unfold filterEntries
  split
  · exact List.nil_sublist _
  · exact List.Sublist.refl _

private theorem keys_moreEntries (q : Query) : (moreEntries q).keys = q.names := by
  simp [moreEntries, names, Keyed.keys, Function.comp_def]

/-- The names of all parameters that a query may set are distinct. -/
private theorem nodup_allNames (hd : d.Separate) (hq : q.Separate d) :
    ((d.idParam.toList ++ [d.filterParam]) ++ q.names).Nodup := by
  -- the two names of the capability differ, if it has two
  have own : (d.idParam.toList ++ [d.filterParam]).Nodup := by
    cases h : d.idParam with
    | none => exact List.nodup_singleton _
    | some param =>
      have hne : param ≠ d.filterParam := fun e => hd.distinct (e ▸ h)
      simpa using hne
  -- what is left is that the query's own names are not those of the capability
  rw [List.nodup_append]
  refine ⟨own, hq.distinct, ?_⟩
  rintro name hname _ hmore rfl
  rcases List.mem_append.mp hname with hid | hfilter
  · exact hq.not_id name hmore (Option.mem_toList.mp hid)
  · exact hq.not_filter (List.mem_singleton.mp hfilter ▸ hmore)

private theorem keys_append_sublist (d : Definition) (q : Query) :
    ((idEntries d q ++ filterEntries d q).keys ++ (moreEntries q).map (·.1)).Sublist
      ((d.idParam.toList ++ [d.filterParam]) ++ q.names) := by
  have keys : (idEntries d q ++ filterEntries d q).keys =
      (idEntries d q).keys ++ (filterEntries d q).keys := List.map_append
  have more : (moreEntries q).map (·.1) = q.names := keys_moreEntries q
  rw [keys, more]
  exact ((keys_idEntries d q).append (keys_filterEntries d q)).append_right q.names

private theorem keys_entries_sublist (d : Definition) (q : Query) :
    (entries d q).keys.Sublist ((d.idParam.toList ++ [d.filterParam]) ++ q.names) := by
  have keys : (entries d q).keys =
      (idEntries d q ++ filterEntries d q).keys ++ (moreEntries q).map (·.1) := List.map_append
  rw [keys]
  exact keys_append_sublist d q

theorem nodup_keys_entries (hd : d.Separate) (hq : q.Separate d) :
    (entries d q).keys.Nodup :=
  (nodup_allNames hd hq).sublist (keys_entries_sublist d q)

/-- A parameter is that of the identifiers, that of the filters, or one of the further ones. -/
theorem mem_keys_entries {name : String} (h : name ∈ (entries d q).keys) :
    d.idParam = some name ∨ name = d.filterParam ∨ name ∈ q.names := by
  have mem := (keys_entries_sublist d q).subset h
  simpa [or_assoc] using mem

/-- Where the names can be told apart, each part of a query has a parameter of its own. -/
theorem params_envelopeOf (hd : d.Separate) (hq : q.Separate d) :
    (Capability.envelopeOf d q).params = entries d q := by
  have all : q.lists.filter (·.2 ≠ []) = q.lists :=
    List.filter_eq_self.mpr fun l hl => decide_eq_true (hq.lists_set l hl)
  have settings : settings d q = entries d q := by
    rw [settings, all]
    rfl
  have distinct : (Keyed.keys ([] : Keyed Param) ++ (entries d q).map (·.1)).Nodup :=
    nodup_keys_entries hd hq
  rw [params_envelopeOf_eq_foldl, settings, Keyed.foldl_set_eq_append distinct, List.nil_append]

/-- Every parameter of a query is set, and its name holds no point. -/
private theorem plain_of_mem_entries (hd : d.Separate) (hq : q.Separate d) :
    ∀ p ∈ entries d q, '.' ∉ p.1.toList ∧ p.2.IsSet := by
  -- identifiers, filters and further parameters, and each of them is there only if it is set
  intro p hp
  rcases List.mem_append.mp hp with hp | hp
  · rcases List.mem_append.mp hp with hp | hp
    · unfold idEntries at hp
      cases h : d.idParam with
      | none => simp [h] at hp
      | some param =>
        by_cases hids : q.ids.isEmpty
        · simp [h, hids] at hp
        · simp only [h, hids, Bool.false_eq_true, if_false, List.mem_singleton] at hp
          rw [hp]
          exact ⟨hd.id_plain param h, fun e => hids (List.isEmpty_iff.mpr e)⟩
    · unfold filterEntries at hp
      split at hp
      · exact nomatch hp
      · next hfilters =>
        rw [List.mem_singleton.mp hp]
        exact ⟨hd.filter_plain, fun e => hfilters (List.isEmpty_iff.mpr e)⟩
  · -- a further parameter
    have hname : p.1 ∈ q.names := by
      rw [← keys_moreEntries]
      exact List.mem_map_of_mem hp
    refine ⟨hq.plain p.1 hname, ?_⟩
    rcases List.mem_append.mp hp with hp | hp
    · obtain ⟨l, hl, rfl⟩ := List.mem_map.mp hp
      exact hq.lists_set l hl
    · obtain ⟨_, _, rfl⟩ := List.mem_map.mp hp
      trivial

end Query

/-! ### Reading a query back

Filters are told by their kind, identifiers by the name of their parameter, and every other list
or single value is a further parameter. -/

namespace Query

/-- What is sent of a query. -/
structure Plain where
  ids : List String
  filters : List (String × List String)
  lists : List (String × List String)
  params : List (String × String)

/-- What is sent of this query. -/
def plain (q : Query) : Plain := ⟨q.ids, q.filters.map Filter.plain, q.lists, q.params⟩

/-- The identifiers that a parameter holds. -/
def readIds (d : Definition) : String × Param.Plain → List String
  | (name, .list values) => if d.idParam = some name then values else []
  | _ => []

/-- The filters that a parameter holds. -/
def readFilters : String × Param.Plain → List (String × List String)
  | (_, .filters fs) => fs
  | _ => []

/-- A parameter as a further list. -/
def readList? (d : Definition) : String × Param.Plain → Option (String × List String)
  | (name, .list values) => if d.idParam = some name then none else some (name, values)
  | _ => none

/-- A parameter as a further single value. -/
def readScalar? : String × Param.Plain → Option (String × String)
  | (name, .scalar value) => some (name, value)
  | _ => none

/-- The query in parameters that have been sent. -/
def readBack (d : Definition) (t : Keyed Param.Plain) : Plain where
  ids := t.flatMap (readIds d)
  filters := t.flatMap readFilters
  lists := t.filterMap (readList? d)
  params := t.filterMap readScalar?

variable {d : Definition} {q : Query}

/-- What is sent of the parameters of a table. -/
private def sent (t : Keyed Param) : Keyed Param.Plain := t.map fun p => (p.1, p.2.plain)

private theorem readBack_append (d : Definition) (t u : Keyed Param) :
    readBack d (sent (t ++ u)) =
      ⟨(readBack d (sent t)).ids ++ (readBack d (sent u)).ids,
       (readBack d (sent t)).filters ++ (readBack d (sent u)).filters,
       (readBack d (sent t)).lists ++ (readBack d (sent u)).lists,
       (readBack d (sent t)).params ++ (readBack d (sent u)).params⟩ := by
  simp [readBack, sent]

private theorem readBack_idEntries (hids : d.idParam = none → q.ids = []) :
    readBack d (sent (idEntries d q)) = ⟨q.ids, [], [], []⟩ := by
  unfold idEntries
  cases h : d.idParam with
  -- without a parameter for them there are no identifiers
  | none =>
    rw [hids h]
    rfl
  | some param =>
    by_cases empty : q.ids.isEmpty
    · rw [List.isEmpty_iff.mp empty]
      rfl
    · simp only [empty]
      simp [readBack, sent, Param.plain, readIds, readFilters, readList?, readScalar?, h]

private theorem readBack_filterEntries (d : Definition) (q : Query) :
    readBack d (sent (filterEntries d q)) = ⟨[], q.filters.map Filter.plain, [], []⟩ := by
  unfold filterEntries
  split
  · next empty =>
    rw [List.isEmpty_iff.mp empty]
    rfl
  · simp [readBack, sent, Param.plain, readIds, readFilters, readList?, readScalar?]

/-- A further list is one, since its name is not that of the identifiers. -/
private theorem readBack_lists {lists : List (String × List String)}
    (h : ∀ l ∈ lists, d.idParam ≠ some l.1) :
    readBack d (sent (lists.map fun l => (l.1, .list l.2))) = ⟨[], [], lists, []⟩ := by
  induction lists with
  | nil => rfl
  | cons l rest ih =>
    have hl := h l List.mem_cons_self
    -- a list that is none of the identifiers is read back as a further one
    have one : readBack d (sent [(l.1, .list l.2)]) = ⟨[], [], [l], []⟩ := by
      simp [readBack, sent, Param.plain, readIds, readFilters, readList?, readScalar?, hl]
    rw [List.map_cons, ← List.singleton_append, readBack_append, one,
      ih fun m hm => h m (List.mem_cons_of_mem l hm)]
    rfl

private theorem readBack_scalars (d : Definition) (params : List (String × String)) :
    readBack d (sent (params.map fun p => (p.1, .scalar p.2))) = ⟨[], [], [], params⟩ := by
  induction params with
  | nil => rfl
  | cons p rest ih =>
    have one : readBack d (sent [(p.1, .scalar p.2)]) = ⟨[], [], [], [p]⟩ := rfl
    rw [List.map_cons, ← List.singleton_append, readBack_append, one, ih]
    rfl

/-- A query is read back from its parameters. -/
theorem readBack_entries (hq : q.Separate d) (hids : d.idParam = none → q.ids = []) :
    readBack d ((entries d q).map fun p => (p.1, p.2.plain)) = q.plain := by
  have lists : ∀ l ∈ q.lists, d.idParam ≠ some l.1 := by
    intro l hl
    exact hq.not_id l.1 (List.mem_append_left _ (List.mem_map_of_mem hl))
  show readBack d (sent (entries d q)) = q.plain
  simp only [entries, moreEntries, readBack_append, readBack_idEntries hids,
    readBack_filterEntries, readBack_lists lists, readBack_scalars]
  simp [plain]

end Query

/-! ### Prepared queries -/

/-- A query with an envelope has passed the checks, and its envelope is that of its parts. -/
theorem Capability.envelope_eq_ok {c : Capability} {q : Query} {e : Envelope}
    (h : c.envelope q = .ok e) :
    c.checkIds q.ids = .ok () ∧ c.checkFilters q.filters = .ok () ∧
      e = envelopeOf c.definition q := by
  obtain ⟨_, hids, h⟩ := bind_eq_ok.mp h
  obtain ⟨_, hfilters, h⟩ := bind_eq_ok.mp h
  cases h
  exact ⟨mapError_eq_ok.mp hids, mapError_eq_ok.mp hfilters, rfl⟩

/-- A query that is prepared is sent with the envelope of its parts. -/
theorem Capability.prepare_eq_ok {c : Capability} {q : Query} {r : Prepared}
    (h : c.prepare q = .ok r) :
    c.checkIds q.ids = .ok () ∧ c.checkFilters q.filters = .ok () ∧
      r = c.target.prepare (envelopeOf c.definition q) := by
  obtain ⟨e, he, hr⟩ := map_eq_ok.mp h
  obtain ⟨hids, hfilters, rfl⟩ := envelope_eq_ok he
  exact ⟨hids, hfilters, hr.symm⟩

/-- A capability without a parameter for identifiers takes none. -/
theorem Capability.ids_eq_nil {c : Capability} {ids : List String}
    (h : c.checkIds ids = .ok ()) (none : c.definition.idParam = none) : ids = [] := by
  simp only [checkIds, Definition.maxIds, none] at h
  split at h
  · exact nomatch h
  · next hlen => exact List.eq_nil_of_length_eq_zero (by omega)

theorem Capability.takes_of_checkFilters {c : Capability} {filters : List Filter}
    (h : c.checkFilters filters = .ok ()) : ∀ f ∈ filters, c.takes f = true := by
  unfold checkFilters at h
  split at h
  · exact nomatch h
  · next hf =>
    intro f hm
    simpa using List.find?_eq_none.mp hf f hm

/-- A filter that is accepted has a name of the capability's resource. -/
theorem Capability.resource_of_takes {c : Capability} {f : Filter} (h : c.takes f = true) :
    ∃ names, c.definition.filters = some names ∧ f.name.resource = names.resource := by
  unfold takes at h
  cases hd : c.definition.filters with
  | none =>
    rw [hd] at h
    exact nomatch h
  | some names =>
    rw [hd] at h
    exact ⟨names, rfl, (eq_of_beq h).symm⟩

/-- Two accepted filters that are sent alike are the same. -/
private theorem same_of_plain_eq {c : Capability} {f g : Filter} (hf : c.takes f = true)
    (hg : c.takes g = true) (h : f.plain = g.plain) :
    f.name.same g.name = true ∧ f.values = g.values := by
  rw [Filter.plain, Filter.plain, Prod.mk.injEq] at h
  refine ⟨?_, h.2⟩
  -- accepted names are of the one resource that the capability has names for
  obtain ⟨names, hn, resource⟩ := Capability.resource_of_takes hf
  obtain ⟨_, hn', resource'⟩ := Capability.resource_of_takes hg
  obtain rfl := Option.some.inj (hn.symm.trans hn')
  simp [FilterName.same, h.1, resource, resource']

private theorem forall₂_same_of_plain_eq {c : Capability} {fs gs : List Filter}
    (hf : ∀ f ∈ fs, c.takes f = true) (hg : ∀ g ∈ gs, c.takes g = true)
    (h : fs.map Filter.plain = gs.map Filter.plain) :
    List.Forall₂ (fun f g => f.name.same g.name = true ∧ f.values = g.values) fs gs := by
  -- the two lists go side by side; they end together since their plain forms do
  induction fs generalizing gs with
  | nil =>
    cases gs with
    | nil => exact .nil
    | cons g gs => exact nomatch h
  | cons f fs ih =>
    cases gs with
    | nil => exact nomatch h
    | cons g gs =>
      rw [List.map_cons, List.map_cons, List.cons.injEq] at h
      refine .cons (same_of_plain_eq (hf f List.mem_cons_self) (hg g List.mem_cons_self) h.1) ?_
      exact ih (fun x hx => hf x (List.mem_cons_of_mem f hx))
        (fun x hx => hg x (List.mem_cons_of_mem g hx)) h.2

/-- Requests with numbered parameters are equal only if their envelopes have equal pairs: the
action and the version that stand before the pairs are the same for one capability. -/
private theorem query_eq_of_prepare_eq {t : CallTarget} {provider : Provider}
    (hp : t.handler.protocol = .ec2Query provider) {e e' : Envelope}
    (h : t.prepare e = t.prepare e') : e.query .indexed = e'.query .indexed := by
  have params := congrArg Prepared.params h
  simp only [CallTarget.prepare, Handler.prepare, hp, Protocol.params_prepare_ec2Query,
    List.cons.injEq] at params
  exact params.2.2

/-- The names of the parameters of the compute service can be told apart. -/
theorem separate_compute : ∀ d ∈ Ec2.definitions, d.Separate := by
  -- the definitions are a table, so this is looked up for all of them
  have plain : ∀ d ∈ Ec2.definitions, ∀ param ∈ d.idParam.toList, '.' ∉ param.toList := by
    decide
  have filter : ∀ d ∈ Ec2.definitions, d.filterParam = "Filter" := by decide
  have distinct : ∀ d ∈ Ec2.definitions, d.idParam ≠ some "Filter" := by decide
  intro d hd
  refine ⟨?_, ?_, ?_⟩
  · intro param h
    exact plain d hd param (Option.mem_toList.mpr h)
  · rw [filter d hd]
    decide
  · rw [filter d hd]
    exact distinct d hd

/-- Preparing a query with numbered parameters loses nothing. Each capability of the compute
service has names that can be told apart; and for any capability with such names, queries whose
own further names can be told apart are the same if their requests are equal. -/
theorem prepare_determines_query :
    (∀ d ∈ Ec2.definitions, d.Separate) ∧
    ∀ (c : Capability) (provider : Provider), c.target.handler.protocol = .ec2Query provider →
      c.definition.Separate → ∀ q q' : Query, q.Separate c.definition →
        q'.Separate c.definition → ∀ r, c.prepare q = .ok r → c.prepare q' = .ok r →
          q.Same q' := by
  refine ⟨separate_compute, ?_⟩
  intro c provider hp hd q q' hq hq' r h h'
  obtain ⟨hids, hfilters, hr⟩ := Capability.prepare_eq_ok h
  obtain ⟨hids', hfilters', hr'⟩ := Capability.prepare_eq_ok h'
  have pairs := query_eq_of_prepare_eq hp (hr.symm.trans hr')
  have params := Query.params_envelopeOf hd hq
  have params' := Query.params_envelopeOf hd hq'
  -- equal pairs are equal parameters, and these are read back
  have sent : (Capability.envelopeOf c.definition q).plain =
      (Capability.envelopeOf c.definition q').plain := by
    refine Envelope.plain_eq_of_indexed_query_eq ?_ ?_ ?_ ?_ pairs
    · rw [params]
      exact Query.nodup_keys_entries hd hq
    · rw [params']
      exact Query.nodup_keys_entries hd hq'
    · rw [params]
      exact Query.plain_of_mem_entries hd hq
    · rw [params']
      exact Query.plain_of_mem_entries hd hq'
  -- the two names of the capability and those of the query are read apart
  have plain : q.plain = q'.plain := by
    rw [← Query.readBack_entries hq (Capability.ids_eq_nil hids),
      ← Query.readBack_entries hq' (Capability.ids_eq_nil hids'), ← params, ← params']
    exact congrArg (Query.readBack c.definition) sent
  rw [Query.plain, Query.plain, Query.Plain.mk.injEq] at plain
  exact ⟨plain.1, forall₂_same_of_plain_eq (Capability.takes_of_checkFilters hfilters)
    (Capability.takes_of_checkFilters hfilters') plain.2.1, plain.2.2⟩

/-! Two queries for key pairs that are sent alike: the second has its filter names from another
set for the same resource. -/

private def keyPairs : Capability :=
  { definition := Ec2.define "keyPair" "DescribeKeyPairs" "KeyName" Ec2.Names.keyPairs
    target := { handler := Ec2.firstHandler "us-east-1" } }

private def keyPairQuery (names : FilterNames) (h : names.accepts "key-name" = true) : Query :=
  { ids := ["b", "a"]
    filters := [⟨⟨names, "key-name", h⟩, []⟩, ⟨⟨names, "key-name", h⟩, ["a", "b"]⟩]
    lists := [("Owner", ["self", "amazon"])]
    params := [("MaxResults", "5")] }

private def fewNames : FilterNames :=
  { resource := "keyPair", listed := [("keyName", "key-name")] }

private def keyPairRequest : Prepared :=
  { method := .post
    url := "https://ec2.us-east-1.amazonaws.com/"
    params :=
      [("Action", "DescribeKeyPairs"), ("Version", "2014-06-15"),
       ("KeyName.1", "b"), ("KeyName.2", "a"),
       ("Filter.1.Name", "key-name"), ("Filter.2.Name", "key-name"),
       ("Filter.2.Value.1", "a"), ("Filter.2.Value.2", "b"),
       ("Owner.1", "self"), ("Owner.2", "amazon"), ("MaxResults", "5")] }

private theorem separate_keyPairQuery (names : FilterNames)
    (h : names.accepts "key-name" = true) :
    (keyPairQuery names h).Separate keyPairs.definition where
  lists_set := by simp [keyPairQuery]
  distinct := by simp [Query.names, keyPairQuery]
  plain := by simp [Query.names, keyPairQuery]
  not_id := by simp [Query.names, keyPairQuery, keyPairs, Ec2.define]
  not_filter := by simp [Query.names, keyPairQuery, keyPairs, Ec2.define]

theorem keyPairs_request_determines_query :
    keyPairs.definition ∈ Ec2.definitions ∧
    keyPairs.prepare (keyPairQuery Ec2.Names.keyPairs (by decide)) = .ok keyPairRequest ∧
    keyPairs.prepare (keyPairQuery fewNames (by decide)) = .ok keyPairRequest ∧
    (keyPairQuery Ec2.Names.keyPairs (by decide)).Same (keyPairQuery fewNames (by decide)) := by
  have known : keyPairs.definition ∈ Ec2.definitions := by simp [Ec2.definitions, keyPairs]
  have first : keyPairs.prepare (keyPairQuery Ec2.Names.keyPairs (by decide)) =
      .ok keyPairRequest := rfl
  have second : keyPairs.prepare (keyPairQuery fewNames (by decide)) = .ok keyPairRequest := rfl
  refine ⟨known, first, second, ?_⟩
  have separate := prepare_determines_query.1 keyPairs.definition known
  exact prepare_determines_query.2 keyPairs .aws rfl separate _ _
    (separate_keyPairQuery _ _) (separate_keyPairQuery _ _) keyPairRequest first second

end CloudApi
