import CloudApi.Error
import CloudApi.Keyed

/-! # Registries

A registry has a constructor under each name, and runs it when the name is first asked for.  What
it has built is kept; its serial is the number of things that were built before it. -/

namespace CloudApi

/-- What builds something.  What it does beside is seen in a state. -/
abbrev Constructor (σ α : Type) : Type := σ → α × σ

/-- The constructor that does nothing beside. -/
def Constructor.plain {σ α : Type} (value : α) : Constructor σ α := fun s => (value, s)

/-- Something that has been built. -/
structure Instance (α : Type) where
  serial : Nat
  name : String
  value : α
deriving Repr

/-- What a service can build, by name, and what it has built, the first first. -/
structure Registry (σ α : Type) where
  service : String
  /-- The constructors, sorted by name. -/
  constructors : Keyed (Constructor σ α) := []
  built : List (Instance α) := []

namespace Registry

variable {σ α : Type}

/-- Register a constructor under a name, in place of one that was registered under it. -/
def register (r : Registry σ α) (name : String) (c : Constructor σ α) : Registry σ α :=
  { r with constructors := Keyed.insert r.constructors name c }

/-- A constructor is registered under the name. -/
def contains (r : Registry σ α) (name : String) : Bool := (r.constructors.get? name).isSome

/-- The registered names, sorted. -/
def names (r : Registry σ α) : List String := r.constructors.keys

/-- What is registered under a name, built if it has not been. -/
def get (r : Registry σ α) (name : String) (s : σ) :
    Except SetupError (Instance α) × Registry σ α × σ :=
  match r.constructors.get? name with
  | none => (.error (.unknownCapability r.service name), r, s)
  | some c =>
    match r.built.find? (·.name == name) with
    -- it is given again, whatever has been registered since
    | some i => (.ok i, r, s)
    | none =>
      let (value, s) := c s
      let i : Instance α := { serial := r.built.length, name, value }
      (.ok i, { r with built := r.built ++ [i] }, s)

end Registry

end CloudApi
