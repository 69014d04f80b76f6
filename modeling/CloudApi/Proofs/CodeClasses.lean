import CloudApi.Ec2.Refusals

/-!
# Classes of error codes

The kind of a code is that of its entry in a table or, if it has none, of the first rule that fits
how the code begins and ends. The rules overlap, so a code that fits a rule may have the kind of an
entry or of an earlier rule instead. This file shows which codes come to the kinds that a caller
acts on: the transient ones, after which the same request may succeed, the one of things that are
not there, and the one of limits.

Of two endings of one text the shorter is an ending of the longer. No two endings that the rules
look for are so related, and hence no code has two of them; the same is true of the beginnings.

## Key results

- `kindOf_iff`: what is true of the table and of the rules is true of the kinds
- `kindByShape_eq_notFound_iff`, `kindByShape_eq_limitExceeded_iff`,
  `kindByShape_eq_insufficientCapacity_iff`: what the rules come to
- `classes_are_told_by_code`: which codes are transient, not found, or over a limit
-/

namespace CloudApi.Ec2

open CloudApi.Text

variable {code : String}

/-! ### The table -/

/-- The codes that have an entry in the table. -/
def listedCodes : List String := codeKinds.map (·.1)

/-- A code has the kind of its entry, since it has no other one, -/
theorem kindOf_of_mem {p : String × RefusalKind} (hp : p ∈ codeKinds) : kindOf p.1 = p.2 := by
  -- no code has two entries
  have entries : ∀ p ∈ codeKinds, codeKinds.lookup p.1 = some p.2 := by decide
  rw [kindOf, entries p hp]
  rfl

/-- or else that of its shape. -/
theorem kindOf_of_not_mem (unlisted : code ∉ listedCodes) : kindOf code = kindByShape code := by
  have missing : codeKinds.lookup code = none := by
    rw [List.lookup_eq_none_iff]
    intro p hp
    have other : code ≠ p.1 := fun same => unlisted (same ▸ List.mem_map_of_mem hp)
    simpa using other
  rw [kindOf, missing]
  rfl

/-- What is true of the entries, and of the rules for codes without an entry, is true of all. -/
theorem kindOf_iff {P : RefusalKind → Prop} {Q : String → Prop}
    (entries : ∀ p ∈ codeKinds, P p.2 ↔ Q p.1)
    (rules : code ∉ listedCodes → (P (kindByShape code) ↔ Q code)) : P (kindOf code) ↔ Q code := by
  by_cases listed : code ∈ listedCodes
  · obtain ⟨p, hp, rfl⟩ := List.mem_map.mp listed
    rw [kindOf_of_mem hp]
    exact entries p hp
  · rw [kindOf_of_not_mem listed]
    exact rules listed

/-! ### The rules -/

/-- The endings that the rules look for. -/
def endings : List String :=
  [".NotFound", ".Malformed", ".InUse", ".Duplicate", "LimitExceeded", "Capacity"]

/-- The beginnings that the rules look for. -/
def beginnings : List String := ["InvalidParameter", "InvalidFilter", "Insufficient"]

/-- A code has one of the endings at most. -/
theorem endsWith_eq_false_of_mem {a b : String} (h : endsWith a code = true) (ha : a ∈ endings)
    (hb : b ∈ endings) (ne : a ≠ b) : endsWith b code = false := by
  have apart : ∀ a ∈ endings, ∀ b ∈ endings, a ≠ b → endsWith a b = false := by decide
  exact endsWith_eq_false h (apart a ha b hb ne) (apart b hb a ha ne.symm)

/-- A code has one of the beginnings at most. -/
theorem startsWith_eq_false_of_mem {a b : String} (h : startsWith a code = true)
    (ha : a ∈ beginnings) (hb : b ∈ beginnings) (ne : a ≠ b) : startsWith b code = false := by
  have apart : ∀ a ∈ beginnings, ∀ b ∈ beginnings, a ≠ b → startsWith a b = false := by decide
  exact startsWith_eq_false h (apart a ha b hb ne) (apart b hb a ha ne.symm)

/-- The first rule looks for things that are not there. -/
theorem kindByShape_eq_notFound_iff :
    kindByShape code = .notFound ↔ endsWith ".NotFound" code = true := by
  unfold kindByShape
  grind

/-- The rule for limits comes after others, but only those for beginnings can take a code from
it. -/
theorem kindByShape_eq_limitExceeded_iff :
    kindByShape code = .limitExceeded ↔ endsWith "LimitExceeded" code = true ∧
      startsWith "InvalidParameter" code = false ∧ startsWith "InvalidFilter" code = false := by
  by_cases limit : endsWith "LimitExceeded" code = true
  · -- the rules for other endings do not apply to it
    simp (disch := decide) only [kindByShape, limit, endsWith_eq_false_of_mem limit]
    grind
  · -- no other rule comes to this kind
    unfold kindByShape
    grind

/-- The rule for capacities comes last, but none of the others can take a code from it. -/
theorem kindByShape_eq_insufficientCapacity_iff :
    kindByShape code = .insufficientCapacity ↔
      startsWith "Insufficient" code = true ∧ endsWith "Capacity" code = true := by
  by_cases shape : startsWith "Insufficient" code = true ∧ endsWith "Capacity" code = true
  · obtain ⟨insufficient, capacity⟩ := shape
    simp (disch := decide) only [kindByShape, insufficient, capacity,
      startsWith_eq_false_of_mem insufficient, endsWith_eq_false_of_mem capacity]
    decide
  · -- the kind comes from no other rule
    unfold kindByShape
    grind

/-- By its shape a code is transient only if it comes to the last rule. -/
theorem isTransient_kindByShape_iff :
    (kindByShape code).isTransient = true ↔ kindByShape code = .insufficientCapacity := by
  unfold kindByShape RefusalKind.isTransient
  grind

/-! ### Codes of both sorts -/

/-- The codes of the table that are transient. -/
def transientCodes : List String :=
  ["RequestLimitExceeded", "Throttling", "InternalError", "InternalFailure", "ServiceUnavailable",
   "Unavailable"]

theorem isTransient_kindOf_iff :
    (kindOf code).isTransient = true ↔ code ∈ transientCodes ∨
      startsWith "Insufficient" code = true ∧ endsWith "Capacity" code = true := by
  apply kindOf_iff (P := fun kind => kind.isTransient = true)
    (Q := fun code => code ∈ transientCodes ∨
      startsWith "Insufficient" code = true ∧ endsWith "Capacity" code = true)
  · decide
  · intro unlisted
    -- the six have entries, so a code without one is none of them
    have listed : ∀ c ∈ transientCodes, c ∈ listedCodes := by decide
    have other : code ∉ transientCodes := fun h => unlisted (listed code h)
    rw [isTransient_kindByShape_iff, kindByShape_eq_insufficientCapacity_iff]
    simp only [other, false_or]

theorem kindOf_eq_notFound_iff :
    kindOf code = .notFound ↔ endsWith ".NotFound" code = true := by
  apply kindOf_iff (P := fun kind => kind = .notFound)
    (Q := fun code => endsWith ".NotFound" code = true)
  · decide
  · intro _
    exact kindByShape_eq_notFound_iff

theorem kindOf_eq_limitExceeded_iff :
    kindOf code = .limitExceeded ↔
      endsWith "LimitExceeded" code = true ∧ code ≠ "RequestLimitExceeded" ∧
        startsWith "InvalidParameter" code = false ∧ startsWith "InvalidFilter" code = false := by
  apply kindOf_iff (P := fun kind => kind = .limitExceeded)
    (Q := fun code => endsWith "LimitExceeded" code = true ∧ code ≠ "RequestLimitExceeded" ∧
        startsWith "InvalidParameter" code = false ∧ startsWith "InvalidFilter" code = false)
  · decide
  · intro unlisted
    -- the exception has an entry of its own
    have listed : "RequestLimitExceeded" ∈ listedCodes := by decide
    have other : code ≠ "RequestLimitExceeded" := fun same => unlisted (same ▸ listed)
    rw [kindByShape_eq_limitExceeded_iff]
    simp only [ne_eq, other, not_false_eq_true, true_and]

/-- A code is transient exactly if it is one of six, or tells of a capacity that does not suffice.
It is not found exactly if it ends so, and over a limit exactly if it ends so, is not the one for
too many requests, and does not begin as a parameter or a filter that is not valid. -/
theorem classes_are_told_by_code (code : String) :
    ((kindOf code).isTransient = true ↔
      code ∈ transientCodes ∨
        (∃ rest, code = "Insufficient" ++ rest) ∧ ∃ front, code = front ++ "Capacity") ∧
    (kindOf code = .notFound ↔ ∃ front, code = front ++ ".NotFound") ∧
    (kindOf code = .limitExceeded ↔
      (∃ front, code = front ++ "LimitExceeded") ∧ code ≠ "RequestLimitExceeded" ∧
        (¬∃ rest, code = "InvalidParameter" ++ rest) ∧
        ¬∃ rest, code = "InvalidFilter" ++ rest) := by
  simp only [← startsWith_iff, ← endsWith_iff, Bool.not_eq_true]
  exact ⟨isTransient_kindOf_iff, kindOf_eq_notFound_iff, kindOf_eq_limitExceeded_iff⟩

/-! Both of these end so, but the one begins like a fault of a parameter and the other has an
entry. -/

example : kindOf "InvalidParameterLimitExceeded" = .invalidParameter ∧
    kindOf "RequestLimitExceeded" = .throttled := by
  decide

end CloudApi.Ec2
