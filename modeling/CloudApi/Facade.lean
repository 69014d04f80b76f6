import CloudApi.Capability.Basic
import CloudApi.Capability.Registry

/-! # Facades

A facade is the entry to one service: where its calls go, and its capabilities, which are built
when they are first asked for.  A facade for another region has the same handler and definitions,
an endpoint of its own, and capabilities of its own. -/

namespace CloudApi

/-- The entry to a service. -/
structure Facade where
  service : String
  definitions : List Definition
  target : CallTarget
  capabilities : Registry Unit Capability

namespace Facade

/-- The facade with a capability for each definition; the last of one name counts. -/
def assemble (service : String) (definitions : List Definition) (target : CallTarget) : Facade :=
  { service, definitions, target
    capabilities :=
      definitions.foldl (fun r d => r.register d.name (.plain ⟨d, target⟩)) { service } }

/-- The facade of a service with these definitions.  Each of them must be declared by the
service. -/
def make (r : Resolver) (service : String) (definitions : List Definition) :
    Except SetupError Facade × Resolver :=
  match r.binding service with
  | .error e => (.error e, r)
  | .ok b =>
    match definitions.find? (!b.descriptor.hasCapability ·.name) with
    | some d =>
      (.error (.invalidDescriptor service ("capability '" ++ d.name ++ "' is not declared")), r)
    | none =>
      -- only now can the resolver come to keep another handler
      let (answer, r) := r.resolve service
      (answer.map fun handler => assemble service definitions { handler }, r)

/-- The names of the capabilities, sorted. -/
def capabilityNames (f : Facade) : List String := f.capabilities.names

/-- The capability of this name, and the facade with it built. -/
def capability (f : Facade) (name : String) : Except SetupError (Instance Capability) × Facade :=
  let (answer, capabilities, _) := f.capabilities.get name ()
  (answer, { f with capabilities })

/-- The facade whose calls go to the public endpoint of a region. -/
def forRegion (f : Facade) (r : Resolver) (region : String) : Except SetupError Facade := do
  let b ← r.binding f.service
  let endpoint ← r.endpoint b.descriptor (some region)
  -- the capabilities are built anew, for the same handler
  return assemble f.service f.definitions
    { handler := f.target.handler, override := some endpoint }

end Facade

end CloudApi
