import CloudApi.Capability.Registry
import Mathlib.Data.Finset.Card
import Mathlib.Data.List.Forall2

/-!
# Runs of a registry

A registry runs the constructors of what it is asked for, each of them once. This file follows a
registry from its registrations through any number of requests, some of them for names that are not
registered, and with it the state that the constructors act on.

The invariant is `Registry.Sound`: what has been built is numbered in order, there is one of each
name, and a constructor is registered under each. `Registry.Asked` says all that one request can do,
so that the invariant is carried over without opening the definitions again. What constructors have
done is told by `Registry.Runs`: it names each run, and from one run to the next nothing else acts
on the state. So `Constructor.counted`, which counts runs in the state, counts what has been built.

## Key results

- `asked_ask`: what one request can do
- `Asked.leads`: it keeps the invariant and what has been built
- `leads_askAll`: so do many requests, and what is built are the registered names among them
- `Runs.count`: a count of runs goes up by one for each thing that is built
- `names_are_built_once`: what a registry runs, builds, answers and lists after any requests
-/

namespace CloudApi

/-- The constructor, which counts its runs beside what it does. -/
def Constructor.counted {σ α : Type} (c : Constructor σ α) : Constructor (σ × Nat) α :=
  fun s => ((c s.1).1, (c s.1).2, s.2 + 1)

namespace Registry

variable {σ α : Type}

/-- The registry of a service in which constructors have been registered in order. -/
def ofEntries (service : String) (entries : Keyed (Constructor σ α)) : Registry σ α :=
  entries.foldl (fun r e => r.register e.1 e.2) { service }

/-- Ask for names in order. -/
def askAll (r : Registry σ α) :
    List String → σ → List (Except SetupError (Instance α)) × Registry σ α × σ
  | [], s => ([], r, s)
  | name :: rest, s =>
    let (answer, r, s) := r.get name s
    let (answers, r, s) := r.askAll rest s
    (answer :: answers, r, s)

/-- The constructors, which count their runs. -/
def counted (entries : Keyed (Constructor σ α)) : Keyed (Constructor (σ × Nat) α) :=
  entries.map fun e => (e.1, e.2.counted)

/-! ### Registration -/

/-- Registering touches nothing but the table of constructors. -/
theorem ofEntries_eq (service : String) (entries : Keyed (Constructor σ α)) :
    ofEntries service entries = { service, constructors := Keyed.ofList entries } := by
  have general (r : Registry σ α) : entries.foldl (fun r e => r.register e.1 e.2) r =
      { r with constructors := entries.foldl (fun t e => t.insert e.1 e.2) r.constructors } := by
    induction entries generalizing r with
    | nil => rfl
    | cons e rest ih => rw [List.foldl_cons, ih]; rfl
  exact general { service }

theorem contains_iff {r : Registry σ α} {name : String} :
    r.contains name = true ↔ name ∈ r.names := by
  have missing : r.constructors.get? name = none ↔ name ∉ r.names := Keyed.get?_eq_none_iff
  rw [contains, Option.isSome_iff_ne_none, ne_eq, missing, Decidable.not_not]

theorem mem_names_of_get? {r : Registry σ α} {name : String} {c : Constructor σ α}
    (registered : r.constructors.get? name = some c) : name ∈ r.names := by
  rw [← contains_iff, contains, registered]
  rfl

theorem keys_counted (entries : Keyed (Constructor σ α)) :
    (counted entries).keys = entries.keys := by
  simp [counted, Keyed.keys, Function.comp_def]

/-! ### Runs of constructors -/

/-- In state `s` constructors are run one after the other, each for one of these things: the one
that `registered` has under its name is run, and builds it. They leave the state `t`. -/
inductive Runs (registered : String → Option (Constructor σ α)) :
    σ → List (Instance α) → σ → Prop where
  | none (s : σ) : Runs registered s [] s
  | more {s t : σ} {i : Instance α} {built : List (Instance α)} {c : Constructor σ α}
    (found : registered i.name = some c) (value : (c s).1 = i.value)
    (rest : Runs registered (c s).2 built t) : Runs registered s (i :: built) t

variable {registered : String → Option (Constructor σ α)} {s t u : σ}
  {built built' : List (Instance α)}

theorem Runs.append (h : Runs registered s built t) (h' : Runs registered t built' u) :
    Runs registered s (built ++ built') u := by
  induction h with
  | none s => exact h'
  | more found value rest ih => exact .more found value (ih h')

/-- What is built is what the constructor under its name has built, in some state. -/
theorem Runs.exists_of_mem (h : Runs registered s built t) {i : Instance α} (hi : i ∈ built) :
    ∃ c before, registered i.name = some c ∧ (c before).1 = i.value := by
  induction h with
  | none s => cases hi
  | @more s t j _ c found value rest ih =>
    rcases List.mem_cons.mp hi with rfl | later
    · exact ⟨c, s, found, value⟩
    · exact ih later

/-- Where all constructors count their runs, the count goes up by one for each thing that is
built. -/
theorem Runs.count {registered : String → Option (Constructor (σ × Nat) α)} {s t : σ × Nat}
    (counts : ∀ name c, registered name = some c → ∃ d : Constructor σ α, c = d.counted)
    (h : Runs registered s built t) : t.2 = s.2 + built.length := by
  induction h with
  | none s => rfl
  | @more s _ _ _ _ found value rest ih =>
    -- the constructor that is run here counts this run
    obtain ⟨d, rfl⟩ := counts _ _ found
    have up : (d.counted s).2.2 = s.2 + 1 := rfl
    rw [ih, up, List.length_cons]
    omega

/-! ### The invariant -/

/-- The state that a registry is in after any requests. -/
structure Sound (r : Registry σ α) : Prop where
  numbered : ∀ i (hi : i < r.built.length), r.built[i].serial = i
  distinct : (r.built.map (·.name)).Nodup

theorem sound_ofEntries (service : String) (entries : Keyed (Constructor σ α)) :
    (ofEntries service entries).Sound := by
  rw [ofEntries_eq]
  -- nothing has been built yet
  exact ⟨by simp, by simp⟩

/-- What has been built is known by its number, -/
theorem Sound.eq_of_serial_eq {r : Registry σ α} (hr : r.Sound) {i j : Instance α}
    (hi : i ∈ r.built) (hj : j ∈ r.built) (same : i.serial = j.serial) : i = j := by
  obtain ⟨m, hm, rfl⟩ := List.getElem_of_mem hi
  obtain ⟨n, hn, rfl⟩ := List.getElem_of_mem hj
  -- the number of each is its place
  rw [hr.numbered m hm, hr.numbered n hn] at same
  subst same
  rfl

/-- and by its name. -/
theorem Sound.eq_of_name_eq {r : Registry σ α} (hr : r.Sound) {i j : Instance α}
    (hi : i ∈ r.built) (hj : j ∈ r.built) (same : i.name = j.name) : i = j :=
  List.inj_on_of_nodup_map hr.distinct hi hj same

/-! ### One request -/

/-- What is built next, if it is built under this name with this value. -/
def fresh (r : Registry σ α) (name : String) (value : α) : Instance α :=
  { serial := r.built.length, name, value }

/-- What asking `r` for a name in state `s` can come to. -/
inductive Asked (r : Registry σ α) (s : σ) (name : String) :
    Except SetupError (Instance α) × Registry σ α × σ → Prop where
  /-- Nothing is registered under the name, and nothing changes. -/
  | unknown (missing : r.constructors.get? name = none) :
    Asked r s name (.error (.unknownCapability r.service name), r, s)
  /-- It has been built before, and nothing changes. -/
  | kept (i : Instance α) (mem : i ∈ r.built) (named : i.name = name) : Asked r s name (.ok i, r, s)
  /-- It is built now, by a run of the constructor that is registered under the name. -/
  | constructed (c : Constructor σ α) (registered : r.constructors.get? name = some c)
    (new : name ∉ r.built.map (·.name)) :
    Asked r s name
      (.ok (r.fresh name (c s).1), { r with built := r.built ++ [r.fresh name (c s).1] }, (c s).2)

theorem asked_get (r : Registry σ α) (s : σ) (name : String) : r.Asked s name (r.get name s) := by
  unfold get
  cases registered : r.constructors.get? name with
  | none => exact .unknown registered
  | some c =>
    cases found : r.built.find? (·.name == name) with
    | some i =>
      have named : i.name = name := by simpa using List.find?_some found
      exact .kept i (List.mem_of_find?_eq_some found) named
    | none =>
      refine .constructed c registered ?_
      -- what has been built under the name would have been found
      intro known
      obtain ⟨i, hi, named⟩ := List.mem_map.mp known
      exact List.find?_eq_none.mp found i hi (by simp [named])

/-- `r'` and `s'` are what `r` and the state `s` have come to by requests for names of which those
in `asked` have been built: `r'` has what `r` had, what was built since stands after it, and its
constructors are all that has acted on the state. -/
structure Leads (r : Registry σ α) (s : σ) (asked : List String) (r' : Registry σ α) (s' : σ) :
    Prop where
  sound : r'.Sound
  service : r'.service = r.service
  constructors : r'.constructors = r.constructors
  built : ∃ new, r'.built = r.built ++ new ∧ Runs (Keyed.get? r.constructors) s new s'
  names : ∀ name, name ∈ r'.built.map (·.name) ↔
    name ∈ r.built.map (·.name) ∨ name ∈ asked ∧ name ∈ r.names

/-- What a name has been answered with, once the registry has come to `r`. -/
def Answered (r : Registry σ α) (name : String) : Except SetupError (Instance α) → Prop
  | .error e => r.constructors.get? name = none ∧ e = .unknownCapability r.service name
  | .ok i => i ∈ r.built ∧ i.name = name

variable {r r' r'' : Registry σ α} {s' s'' : σ} {name : String}
  {answer : Except SetupError (Instance α)}

/-- What is built under a name that there was nothing for keeps the invariant. -/
private theorem Sound.append (hr : r.Sound) (value : α) (new : name ∉ r.built.map (·.name)) :
    { r with built := r.built ++ [r.fresh name value] }.Sound where
  numbered := by
    intro i hi
    by_cases old : i < r.built.length
    · rw [List.getElem_append_left old]
      exact hr.numbered i old
    · rw [List.length_append, List.length_singleton] at hi
      -- its number is how many there were
      have last : i = r.built.length := by omega
      subst last
      rw [List.getElem_concat_length rfl]
      rfl
  distinct := by
    rw [List.map_append, List.nodup_append]
    refine ⟨hr.distinct, by simp, ?_⟩
    intro a ha b hb same
    rw [List.map_singleton, List.mem_singleton] at hb
    have own : a = name := same.trans hb
    exact new (own ▸ ha)

/-- Where nothing is built, nothing has acted on the state. -/
private theorem Leads.same (hr : r.Sound) {asked : List String}
    (known : ∀ name ∈ asked, name ∈ r.names → name ∈ r.built.map (·.name)) :
    r.Leads s asked r s where
  sound := hr
  service := rfl
  constructors := rfl
  built := ⟨[], (List.append_nil _).symm, .none s⟩
  names other := ⟨.inl, fun h => h.elim id fun ⟨wanted, there⟩ => known other wanted there⟩

/-- One request builds at most what it asks for. -/
theorem Asked.leads (hr : r.Sound) (h : r.Asked s name (answer, r', s')) :
    r.Leads s [name] r' s' := by
  cases h with
  | unknown missing =>
    have absent : name ∉ r.names := Keyed.get?_eq_none_iff.mp missing
    refine .same hr fun other wanted there => ?_
    exact absurd (List.mem_singleton.mp wanted ▸ there) absent
  | kept i mem named =>
    refine .same hr fun other wanted _ => ?_
    rw [List.mem_singleton.mp wanted, ← named]
    exact List.mem_map_of_mem mem
  | constructed c registered new =>
    -- the constructor is run here, and only here
    have run : Runs (Keyed.get? r.constructors) s [r.fresh name (c s).1] (c s).2 :=
      .more registered rfl (.none _)
    refine ⟨hr.append _ new, rfl, rfl, ⟨_, rfl, run⟩, ?_⟩
    have present : name ∈ r.names := mem_names_of_get? registered
    intro other
    simp only [List.map_append, List.map_cons, List.map_nil, List.mem_append, List.mem_singleton]
    apply or_congr_right
    constructor
    · rintro rfl
      exact ⟨rfl, present⟩
    · exact And.left

theorem Asked.answered (h : r.Asked s name (answer, r', s')) : r'.Answered name answer := by
  cases h with
  | unknown missing => exact ⟨missing, rfl⟩
  | kept i mem named => exact ⟨mem, named⟩
  | constructed c registered new => exact ⟨by simp, rfl⟩

/-- So a request fails and changes nothing, or it gives what is built under the name from then
on. -/
theorem Sound.get_cases (hr : r.Sound) (s : σ) (name : String) :
    (r.constructors.get? name = none ∧
      r.get name s = (.error (.unknownCapability r.service name), r, s)) ∨
    ∃ i r' s', r.get name s = (.ok i, r', s') ∧ r.Leads s [name] r' s' ∧ i ∈ r'.built ∧
      i.name = name := by
  have one := asked_get r s name
  generalize r.get name s = result at one ⊢
  cases one with
  | unknown missing => exact .inl ⟨missing, rfl⟩
  | kept i mem named => exact .inr ⟨i, r, s, rfl, (Asked.kept i mem named).leads hr, mem, named⟩
  | constructed c registered new =>
    have step := Asked.constructed (s := s) c registered new
    exact .inr ⟨_, _, _, rfl, step.leads hr, step.answered⟩

/-! ### Many requests -/

theorem Leads.trans {asked more : List String} (h : r.Leads s asked r' s')
    (h' : r'.Leads s' more r'' s'') : r.Leads s (asked ++ more) r'' s'' where
  sound := h'.sound
  service := h'.service.trans h.service
  constructors := h'.constructors.trans h.constructors
  built := by
    obtain ⟨new, later, runs⟩ := h.built
    obtain ⟨new', later', runs'⟩ := h'.built
    rw [h.constructors] at runs'
    exact ⟨new ++ new', by rw [later', later, List.append_assoc], runs.append runs'⟩
  names := by
    intro name
    have names : r'.names = r.names := congrArg Keyed.keys h.constructors
    rw [h'.names, h.names, names, List.mem_append]
    tauto

/-- An answer stands whatever is asked later. -/
theorem Leads.answered {asked : List String} (h : r.Leads s asked r' s')
    (ha : r.Answered name answer) : r'.Answered name answer := by
  cases answer with
  | error e =>
    obtain ⟨missing, rfl⟩ := ha
    exact ⟨h.constructors ▸ missing, by rw [h.service]⟩
  | ok i =>
    obtain ⟨new, later, _⟩ := h.built
    exact ⟨later ▸ List.mem_append_left new ha.1, ha.2⟩

/-- After any requests the invariant holds, and each name has been answered with what is built under
it, or not at all if there is nothing registered. -/
theorem leads_askAll (hr : r.Sound) (s : σ) (asked : List String) :
    r.Leads s asked (r.askAll asked s).2.1 (r.askAll asked s).2.2 ∧
      List.Forall₂ (r.askAll asked s).2.1.Answered asked (r.askAll asked s).1 := by
  induction asked generalizing r s with
  | nil => exact ⟨.same hr nofun, .nil⟩
  | cons name rest ih =>
    have one := asked_get r s name
    have step := one.leads hr
    -- the answer to the first name is still right when the others have been asked for
    obtain ⟨leads, answers⟩ := ih step.sound (r.get name s).2.2
    exact ⟨step.trans leads, .cons (leads.answered one.answered) answers⟩

/-! ### From registrations to requests -/

section

variable {service : String} {entries : Keyed (Constructor σ α)} {asked : List String}
  (h : (ofEntries service entries).Leads s asked r s')

include h

theorem Leads.service_eq : r.service = service := by
  rw [h.service, ofEntries_eq]

theorem Leads.constructors_eq : r.constructors = Keyed.ofList entries := by
  rw [h.constructors, ofEntries_eq]

theorem Leads.mem_names_iff : name ∈ r.names ↔ name ∈ entries.keys := by
  rw [Registry.names, h.constructors_eq]
  exact Keyed.mem_keys_ofList

theorem Leads.sorted_names : r.names.Pairwise (· < ·) := by
  rw [Registry.names, h.constructors_eq]
  exact Keyed.sorted_ofList entries

theorem Leads.get?_constructors_eq_none_iff :
    r.constructors.get? name = none ↔ name ∉ entries.keys := by
  rw [h.constructors_eq, Keyed.get?_eq_none_iff, Keyed.mem_keys_ofList]
  exact Iff.rfl

/-- All that has been built was built by runs of constructors, of which the last one that was
registered under a name counts. -/
theorem Leads.runs : Runs (Keyed.get? entries.reverse) s r.built s' := by
  obtain ⟨new, later, runs⟩ := h.built
  rw [ofEntries_eq] at later runs
  have last : Keyed.get? (Keyed.ofList entries) = Keyed.get? entries.reverse :=
    funext fun name => Keyed.get?_ofList entries name
  rw [later, List.nil_append, ← last]
  exact runs

/-- What has been built is counted by the registered names that were asked for. -/
theorem Leads.length_built :
    r.built.length = {name ∈ asked.toFinset | name ∈ entries.keys}.card := by
  have wanted : (r.built.map (·.name)).toFinset =
      {name ∈ asked.toFinset | name ∈ entries.keys} := by
    ext name
    have before : name ∈ (ofEntries service entries).names ↔ name ∈ entries.keys := by
      rw [← h.mem_names_iff, Registry.names, Registry.names, h.constructors]
    rw [List.mem_toFinset, h.names, before, ofEntries_eq]
    simp
  -- no two of what has been built have one name
  rw [← wanted, List.toFinset_card_of_nodup h.sound.distinct, List.length_map]

/-- An answer is an error, or what was registered last under the name has built it. -/
theorem Leads.answer_cases (given : r.Answered name answer) :
    (name ∉ entries.keys ∧ answer = .error (.unknownCapability service name)) ∨
    ∃ i ∈ r.built, answer = .ok i ∧ i.name = name ∧
      ∃ c before, Keyed.get? entries.reverse name = some c ∧ (c before).1 = i.value := by
  cases answer with
  | error e =>
    obtain ⟨missing, rfl⟩ := given
    exact .inl ⟨h.get?_constructors_eq_none_iff.mp missing, by rw [h.service_eq]⟩
  | ok i =>
    obtain ⟨mem, rfl⟩ := given
    exact .inr ⟨i, mem, rfl, rfl, h.runs.exists_of_mem mem⟩

theorem Leads.get_unregistered (absent : name ∉ entries.keys) (t : σ) :
    r.get name t = (.error (.unknownCapability service name), r, t) := by
  rw [get, h.get?_constructors_eq_none_iff.mpr absent, h.service_eq]

end

/-- Constructors that count their runs have counted the registered names that were asked for. -/
theorem count_askAll (service : String) (entries : Keyed (Constructor σ α)) (asked : List String)
    (s : σ) (n : Nat) :
    ((ofEntries service (counted entries)).askAll asked (s, n)).2.2.2 =
      n + {name ∈ asked.toFinset | name ∈ entries.keys}.card := by
  obtain ⟨leads, _⟩ := leads_askAll (sound_ofEntries service (counted entries)) (s, n) asked
  -- every constructor that can be run counts its runs
  have counts : ∀ name c, Keyed.get? (counted entries).reverse name = some c →
      ∃ d : Constructor σ α, c = d.counted := by
    intro name c found
    have mem := List.mem_reverse.mp (Keyed.mem_of_get?_eq_some found)
    obtain ⟨e, _, same⟩ := List.mem_map.mp mem
    exact ⟨e.2, (congrArg Prod.snd same).symm⟩
  rw [leads.runs.count counts, leads.length_built, keys_counted]

/-- Constructors are registered, of which several may have one name, and then names are asked for,
of which some may not be registered and some may be asked for again. As many constructors have been
run as there are registered names among those asked for, whatever constructors do beside: a count of
the runs says so, and the state is left as by one run for each thing that has been built, in order.
A registered name is answered with the one thing that is built under it, by the constructor that was
registered last; two of these are one thing exactly if they have one name. Any other name is
answered with an error that names the service and the name, and asking for it changes nothing. The
names that are listed are the registered ones in order. -/
theorem names_are_built_once (service : String) (entries : Keyed (Constructor σ α))
    (asked : List String) (s : σ) :
    let (answers, r, t) := (ofEntries service entries).askAll asked s
    (∀ n, ((ofEntries service (counted entries)).askAll asked (s, n)).2.2.2 =
      n + {name ∈ asked.toFinset | name ∈ entries.keys}.card) ∧
    Runs (Keyed.get? entries.reverse) s r.built t ∧
    r.built.length = {name ∈ asked.toFinset | name ∈ entries.keys}.card ∧
    List.Forall₂ (fun name answer =>
      (name ∉ entries.keys ∧ answer = .error (.unknownCapability service name)) ∨
      ∃ i ∈ r.built, answer = .ok i ∧ i.name = name ∧
        ∃ c before, Keyed.get? entries.reverse name = some c ∧ (c before).1 = i.value)
      asked answers ∧
    (∀ i ∈ r.built, ∀ j ∈ r.built,
      (i.serial = j.serial ↔ i.name = j.name) ∧ (i.serial = j.serial → i = j)) ∧
    (∀ name, name ∉ entries.keys → ∀ u,
      r.get name u = (.error (.unknownCapability service name), r, u)) ∧
    r.names.Pairwise (· < ·) ∧
    ∀ name, (name ∈ r.names ↔ name ∈ entries.keys) ∧
      (r.contains name = true ↔ name ∈ entries.keys) := by
  have counts := count_askAll service entries asked s
  -- all but the count is told by what the requests have led to
  obtain ⟨leads, answers⟩ := leads_askAll (sound_ofEntries service entries) s asked
  generalize (ofEntries service entries).askAll asked s = result at leads answers ⊢
  obtain ⟨answered, r, t⟩ := result
  refine ⟨counts, leads.runs, leads.length_built, answers.imp fun _ _ => leads.answer_cases, ?_,
    fun _ absent => leads.get_unregistered absent, leads.sorted_names, ?_⟩
  · -- things are one if their numbers or their names are
    intro i hi j hj
    have one := leads.sound.eq_of_serial_eq hi hj
    refine ⟨⟨fun same => congrArg Instance.name (one same), fun same => ?_⟩, one⟩
    exact congrArg Instance.serial (leads.sound.eq_of_name_eq hi hj same)
  · intro name
    exact ⟨leads.mem_names_iff, contains_iff.trans leads.mem_names_iff⟩

/-! A name that is registered twice, one that is asked for twice, and one that is not registered.
Each constructor counts its runs; of the three that are registered two are run, once each. -/

example :
    let entries : Keyed (Constructor Nat Nat) :=
      [("disk", fun n => (1, n + 1)), ("label", fun n => (2, n + 1)), ("disk", fun n => (3, n + 1))]
    let (answers, r, runs) :=
      (ofEntries "compute" entries).askAll ["disk", "zone", "label", "disk"] 0
    answers.map (·.toOption.map fun i => (i.serial, i.value)) =
      [some (0, 3), none, some (1, 2), some (0, 3)] ∧ r.names = ["disk", "label"] ∧ runs = 2 := by
  decide

end Registry

end CloudApi
