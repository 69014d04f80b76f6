/-!
# Results that are values

A computation that has succeeded is taken apart at its joints: each part of it has succeeded, and
what it gave went on to the next part. `FailsWith` is about the errors of a computation that has
not, and it is carried from the parts to the whole.
-/

namespace CloudApi

variable {ε ε' α β : Type}

theorem bind_eq_ok {x : Except ε α} {f : α → Except ε β} {b : β} :
    x >>= f = .ok b ↔ ∃ a, x = .ok a ∧ f a = .ok b := by
  cases x with
  | error e => simp [bind, Except.bind]
  | ok a => simp [bind, Except.bind]

theorem map_eq_ok {x : Except ε α} {f : α → β} {b : β} :
    x.map f = .ok b ↔ ∃ a, x = .ok a ∧ f a = b := by
  cases x with
  | error e => simp [Except.map]
  | ok a => simp [Except.map]

theorem mapError_eq_ok {x : Except ε α} {f : ε → ε'} {a : α} :
    x.mapError f = .ok a ↔ x = .ok a := by
  cases x with
  | error e => constructor <;> (intro h; cases h)
  | ok a' =>
    show Except.ok a' = Except.ok a ↔ _
    rw [Except.ok.injEq, Except.ok.injEq]

theorem map_eq_error {x : Except ε α} {f : α → β} {e : ε} :
    x.map f = .error e ↔ x = .error e := by
  cases x with
  | error e => simp [Except.map]
  | ok a => simp [Except.map]

/-- Every error of a result has this property. -/
def FailsWith (P : ε → Prop) (x : Except ε α) : Prop := ∀ e, x = .error e → P e

variable {P Q : ε → Prop}

theorem failsWith_ok (a : α) : FailsWith P (.ok a : Except ε α) := by
  intro e h
  cases h

theorem failsWith_error {e : ε} (he : P e) : FailsWith P (.error e : Except ε α) := by
  intro e' h
  cases h
  exact he

theorem FailsWith.imp {x : Except ε α} (hx : FailsWith P x) (h : ∀ e, P e → Q e) :
    FailsWith Q x :=
  fun e he => h e (hx e he)

theorem FailsWith.bind {x : Except ε α} {f : α → Except ε β} (hx : FailsWith P x)
    (hf : ∀ a, FailsWith P (f a)) : FailsWith P (x >>= f) := by
  intro e h
  cases x with
  | error e' =>
    cases h
    exact hx e rfl
  | ok a => exact hf a e h

/-- An error that is wrapped has the property if all that are wrapped so have it. -/
theorem failsWith_mapError {wrap : ε' → ε} (x : Except ε' α) (hw : ∀ e, P (wrap e)) :
    FailsWith P (x.mapError wrap) := by
  intro e h
  cases x with
  | error e' =>
    cases h
    exact hw e'
  | ok a => cases h

end CloudApi
