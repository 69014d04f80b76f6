import CloudApi.Filter.Basic

/-! # Request envelopes

The command of one call and its parameters in order.  Setting a parameter again replaces its
value where it stands; empty lists and absent values set nothing. -/

namespace CloudApi

/-- The value of a parameter. -/
inductive Param where
  | scalar (value : String)
  | list (values : List String)
  | filters (filters : List Filter)

/-- A command with its parameters. -/
structure Envelope where
  command : String
  params : Keyed Param := []

namespace Envelope

/-- Set a parameter. -/
def set (e : Envelope) (name : String) (value : Param) : Envelope :=
  { e with params := e.params.set name value }

/-- Set a parameter to one value. -/
def setScalar (e : Envelope) (name value : String) : Envelope := e.set name (.scalar value)

/-- Set a parameter to one value, if there is one. -/
def setOptional (e : Envelope) (name : String) : Option String → Envelope
  | some value => e.setScalar name value
  | none => e

/-- Set a parameter to a list, unless it is empty. -/
def setList (e : Envelope) (name : String) (values : List String) : Envelope :=
  if values.isEmpty then e else e.set name (.list values)

/-- Set a parameter to a list of filters, unless it is empty. -/
def setFilters (e : Envelope) (name : String) (filters : List Filter) : Envelope :=
  if filters.isEmpty then e else e.set name (.filters filters)

/-- The value of a parameter. -/
def param? (e : Envelope) (name : String) : Option Param := e.params.get? name

end Envelope

end CloudApi
