import CloudApi.Request.Envelope
import Mathlib.Data.List.Induction

/-!
# Envelopes that are built step by step

An envelope begins without parameters, and each step sets one or none: an absent value and an empty
list set nothing. What the parameters are in the end is told by the settings alone. A name stands
where it was first set, and it holds what it was last set to.

## Key results

- `Envelope.step_eq`, `Envelope.build_eq`: a step sets a parameter or none, and so the parameters
  are made by a row of settings
- `Envelope.nodup_keys_build`, `Envelope.keys_build`: no name stands twice, and in which order they
  stand
- `Envelope.param?_build`: what a parameter holds
- `Envelope.built_parameters_are_told_by_settings`: these together
-/

namespace CloudApi

namespace Keyed

variable {α : Type}

/-- Names that are set stand in the order in which each was set first. -/
theorem keys_foldl_set (entries : Keyed α) :
    keys (entries.foldl (fun (t : Keyed α) e => t.set e.1 e.2) []) =
      (entries.map (·.1)).eraseDups := by
  -- from the last entry: whether it adds a name depends on all that stand before it
  induction entries using List.reverseRecOn with
  | nil => rfl
  | append_singleton entries e ih =>
    rw [List.foldl_append, List.foldl_cons, List.foldl_nil, keys_set, ih, List.map_append,
      List.map_singleton, eraseDups_concat]
    simp only [List.mem_eraseDups]
    split
    · rw [List.append_nil]
    · rfl

/-- Read from the end, the first entry of a name is the last of those that have it. -/
theorem get?_reverse (entries : Keyed α) (name : String) :
    get? entries.reverse name = (entries.filter (·.1 = name)).getLast?.map (·.2) := by
  induction entries with
  | nil => rfl
  | cons e rest ih =>
    obtain ⟨k, v⟩ := e
    rw [List.reverse_cons, get?_append, ih, get?_cons, get?_nil]
    by_cases h : k = name
    · -- the entry counts only if no later one has the name
      rw [if_pos h, List.filter_cons_of_pos (by simpa using h)]
      cases later : rest.filter (·.1 = name) with
      | nil => rfl
      | cons d ds => simp [List.getLast?_cons]
    · rw [if_neg h, List.filter_cons_of_neg (by simpa using h), Option.or_none]

end Keyed

namespace Envelope

/-- A step in building an envelope. -/
inductive Step where
  | set (name : String) (value : Param)
  | scalar (name value : String)
  | optional (name : String) (value : Option String)
  | list (name : String) (values : List String)
  | filters (name : String) (fs : List Filter)

/-- What a step sets, if anything. Only a step that gives a value as it is can set an empty list. -/
def Step.setting? : Step → Option (String × Param)
  | .set name value => some (name, value)
  | .scalar name value => some (name, .scalar value)
  | .optional name value => value.map fun text => (name, .scalar text)
  | .list name values => if values.isEmpty then none else some (name, .list values)
  | .filters name fs => if fs.isEmpty then none else some (name, .filters fs)

/-- The envelope after a step. -/
def step (e : Envelope) : Step → Envelope
  | .set name value => e.set name value
  | .scalar name value => e.setScalar name value
  | .optional name value => e.setOptional name value
  | .list name values => e.setList name values
  | .filters name fs => e.setFilters name fs

/-- The envelope of a command after these steps. -/
def build (command : String) (steps : List Step) : Envelope := steps.foldl step { command }

/-- What steps set, in order. -/
def settings (steps : List Step) : Keyed Param := steps.filterMap Step.setting?

theorem setting?_eq_none_iff {s : Step} :
    s.setting? = none ↔
      ∃ name, s = .optional name none ∨ s = .list name [] ∨ s = .filters name [] := by
  cases s with
  | set name value => simp [Step.setting?]
  | scalar name value => simp [Step.setting?]
  | optional name value => simp [Step.setting?]
  | list name values => simp [Step.setting?]
  | filters name fs => simp [Step.setting?]

/-! ### What a step does, and what steps do -/

/-- A step sets what is told of it and does nothing else. -/
theorem step_eq (e : Envelope) (s : Step) :
    e.step s = s.setting?.elim e fun p => e.set p.1 p.2 := by
  cases s with
  | set name value => rfl
  | scalar name value => rfl
  | optional name value => cases value <;> rfl
  | list name values => cases values <;> rfl
  | filters name fs => cases fs <;> rfl

theorem foldl_step (e : Envelope) (steps : List Step) :
    steps.foldl step e =
      { e with params := (settings steps).foldl (fun t p => t.set p.1 p.2) e.params } := by
  induction steps generalizing e with
  | nil => rfl
  | cons s rest ih =>
    rw [List.foldl_cons, ih, step_eq, settings, settings]
    -- a step that sets nothing leaves no trace in the settings either
    cases h : s.setting? with
    | none =>
      rw [List.filterMap_cons_none h]
      rfl
    | some p =>
      rw [List.filterMap_cons_some h]
      rfl

theorem build_eq (command : String) (steps : List Step) :
    build command steps =
      { command, params := (settings steps).foldl (fun (t : Keyed Param) p => t.set p.1 p.2) [] } :=
  foldl_step { command } steps

/-- Steps that set nothing can be left out. -/
theorem build_filter (command : String) (steps : List Step) :
    build command (steps.filter (·.setting?.isSome)) = build command steps := by
  -- what is left out sets nothing
  have same : settings (steps.filter (·.setting?.isSome)) = settings steps := by
    rw [settings, settings, List.filterMap_filter]
    congr 1
    funext s
    cases s.setting? <;> rfl
  rw [build_eq, build_eq, same]

/-! ### The parameters that have been built -/

theorem nodup_keys_build (command : String) (steps : List Step) :
    (build command steps).params.keys.Nodup := by
  have start : (Keyed.keys ([] : Keyed Param)).Nodup := List.nodup_nil
  rw [build_eq]
  exact Keyed.nodup_keys_foldl_set start _

theorem keys_build (command : String) (steps : List Step) :
    (build command steps).params.keys = ((settings steps).map (·.1)).eraseDups := by
  rw [build_eq]
  exact Keyed.keys_foldl_set _

theorem param?_build (command : String) (steps : List Step) (name : String) :
    (build command steps).param? name =
      ((settings steps).filter (·.1 = name)).getLast?.map (·.2) := by
  -- a new envelope holds nothing under any name, so the settings alone decide
  rw [build_eq, param?, Keyed.get?_foldl_set, Keyed.get?_nil, Option.or_none, Keyed.get?_reverse]

theorem mem_keys_build_iff (command : String) (steps : List Step) {name : String} :
    name ∈ (build command steps).params.keys ↔
      ∃ s ∈ steps, ∃ value, s.setting? = some (name, value) := by
  rw [keys_build, List.mem_eraseDups, List.mem_map]
  constructor
  · rintro ⟨⟨_, value⟩, hp, rfl⟩
    obtain ⟨s, hs, set⟩ := List.mem_filterMap.mp hp
    exact ⟨s, hs, value, set⟩
  · rintro ⟨s, hs, value, set⟩
    exact ⟨(name, value), List.mem_filterMap.mpr ⟨s, hs, set⟩, rfl⟩

/-- However an envelope is built, its parameters have distinct names, which are those that some step
has set. They stand in the order in which they were first set, and each holds what it was last set
to. The steps that set nothing are an absent value, an empty list and an empty list of filters;
without them the envelope would be the same. -/
theorem built_parameters_are_told_by_settings (command : String) (steps : List Step) :
    let e := build command steps
    e.params.keys.Nodup ∧
    (∀ name, name ∈ e.params.keys ↔ ∃ s ∈ steps, ∃ value, s.setting? = some (name, value)) ∧
    e.params.keys = ((settings steps).map (·.1)).eraseDups ∧
    (∀ name, e.param? name = ((settings steps).filter (·.1 = name)).getLast?.map (·.2)) ∧
    (∀ s : Step, s.setting? = none ↔
      ∃ name, s = .optional name none ∨ s = .list name [] ∨ s = .filters name []) ∧
    build command (steps.filter (·.setting?.isSome)) = e :=
  ⟨nodup_keys_build command steps, fun _ => mem_keys_build_iff command steps,
    keys_build command steps, param?_build command steps, fun _ => setting?_eq_none_iff,
    build_filter command steps⟩

example :
    (build "ListZones" [.list "id" [], .scalar "available" "true", .scalar "id" "1",
      .optional "available" none, .scalar "available" "false"]).params.map (·.1) =
      ["available", "id"] := by
  decide

end Envelope

end CloudApi
