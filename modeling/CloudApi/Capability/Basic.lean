import CloudApi.Exchange
import CloudApi.Loose.Element
import CloudApi.Resolver

/-! # Capabilities

A capability describes one kind of resource of a service.  Its definition says which command does
so, which parameter takes identifiers and how many, and which filters it has.  A query is checked
and put into an envelope, which is sent to the capability's call target. -/

namespace CloudApi

/-- The shape of a capability. -/
structure Definition where
  name : String
  command : String
  /-- The parameter for identifiers, if the command takes any. -/
  idParam : Option String := none
  /-- The parameter for identifiers takes only one. -/
  singleId : Bool := false
  filterParam : String := "Filter"
  /-- The names of its filters, if it has any. -/
  filters : Option FilterNames := none

/-- The number of identifiers that a capability takes; nothing if there is no limit. -/
def Definition.maxIds (d : Definition) : Option Nat :=
  match d.idParam with
  | none => some 0
  | some _ => if d.singleId then some 1 else none

/-- Where calls go: a handler, and the endpoint to use in place of its own. -/
structure CallTarget where
  handler : Handler
  override : Option Endpoint := none

namespace CallTarget

/-- The endpoint that calls go to. -/
def endpoint (t : CallTarget) : Endpoint := t.override.getD t.handler.endpoint

/-- The request for an envelope. -/
def prepare (t : CallTarget) (e : Envelope) : Prepared := t.handler.prepare e t.override

/-- Send an envelope and decode the answer. -/
def call (t : CallTarget) (e : Envelope) (l : Link) : Except Error (Option Json) × Link :=
  l.exchange (t.handler.protocol.decode e.command) (t.prepare e)

end CallTarget

/-- What is asked of a capability. -/
structure Query where
  ids : List String := []
  filters : List Filter := []
  /-- Further list parameters. -/
  lists : List (String × List String) := []
  /-- Further parameters of one value. -/
  params : List (String × String) := []

/-- A capability of a service. -/
structure Capability where
  definition : Definition
  target : CallTarget

namespace Capability

/-- A filter's name belongs to the capability's resource. -/
def takes (c : Capability) (f : Filter) : Bool :=
  match c.definition.filters with
  -- of the two sets only the names of the resources are compared
  | some names => names.resource == f.name.resource
  | none => false

/-- Fail if there are more identifiers than the capability takes. -/
def checkIds (c : Capability) (ids : List String) : Except NameError Unit :=
  -- a further list under the parameter of the identifiers is not counted
  match c.definition.maxIds with
  | some max =>
    if max < ids.length then .error (.tooManyIds c.definition.name max ids.length) else .ok ()
  | none => .ok ()

/-- Fail at the first filter that does not belong to the capability. -/
def checkFilters (c : Capability) (filters : List Filter) : Except NameError Unit :=
  match filters.find? (!c.takes ·) with
  | some f => .error (.invalidFilter c.definition.name f.name.text)
  | none => .ok ()

/-- The envelope of a query whose parts have been checked. -/
def envelopeOf (d : Definition) (q : Query) : Envelope :=
  let e : Envelope := { command := d.command }
  -- later parts may replace what earlier ones have set under the same name
  let e := d.idParam.elim e fun param => e.setList param q.ids
  let e := e.setFilters d.filterParam q.filters
  let e := q.lists.foldl (fun e p => e.setList p.1 p.2) e
  q.params.foldl (fun e p => e.setScalar p.1 p.2) e

/-- The envelope of a query. -/
def envelope (c : Capability) (q : Query) : Except Error Envelope := do
  (c.checkIds q.ids).mapError .name
  (c.checkFilters q.filters).mapError .name
  return envelopeOf c.definition q

/-- What a loose filter is called in an error: its name, or the first of a list, or its text, or
else its type. -/
def looseName : Loose → String
  | .map entries =>
    ((Keyed.get? entries "name").bind Loose.scalarText?).getD (Loose.map entries).typeName
  | .list (item :: _) => looseName item
  | v => v.scalarText?.getD v.typeName

/-- The filters of a loose query. -/
def filtersOfLoose (c : Capability) (filters : Loose) : Except Error (List Filter) :=
  match filters with
  -- no filters are fine even where none are taken
  | .list [] => .ok []
  | v =>
    match c.definition.filters with
    | some names => Filter.listOfLoose names v
    | none => .error (.name (.invalidFilter c.definition.name (looseName v)))

/-- The query that loose identifiers and filters stand for. -/
def queryOfLoose (c : Capability) (ids filters : Loose) : Except Error Query := do
  let ids ← (ids.toList String).mapError .shape
  let filters ← c.filtersOfLoose filters
  return { ids, filters }

/-- The request for a query. -/
def prepare (c : Capability) (q : Query) : Except Error Prepared :=
  (c.envelope q).map c.target.prepare

/-- Send a query and decode the answer. -/
def describe (c : Capability) (q : Query) (l : Link) : Except Error (Option Json) × Link :=
  match c.envelope q with
  | .ok e => c.target.call e l
  | .error e => (.error e, l)

/-- Send a loose query and decode the answer. -/
def describeLoose (c : Capability) (ids filters : Loose) (l : Link) :
    Except Error (Option Json) × Link :=
  match c.queryOfLoose ids filters with
  | .ok q => c.describe q l
  | .error e => (.error e, l)

end Capability

end CloudApi
