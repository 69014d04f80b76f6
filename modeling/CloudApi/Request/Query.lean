import CloudApi.Request.Envelope

/-! # Query pairs

How the parameters of an envelope become pairs of texts.  In the indexed style the elements of a
list are numbered from one (`Name.1`, `Name.2`) and a filter has a numbered name and numbered
values (`Filter.1.Name`, `Filter.1.Value.1`).  In the joined style a list is one text with commas
and the filters are numbered from zero (`name[0].key`, `name[0].value`). -/

namespace CloudApi

/-- How repeated parameters are written. -/
inductive QueryStyle where
  | indexed
  | joined
deriving DecidableEq, Repr

namespace QueryStyle

/-- The pairs `f i x` for the elements of a list, where `i` counts from `first`. -/
def numbered {α β : Type} (f : Nat → α → β) (first : Nat) : List α → List β
  | [] => []
  | x :: rest => f first x :: numbered f (first + 1) rest

/-- The key of the `i`-th element of a parameter. -/
def elementKey (name : String) (i : Nat) : String := name ++ "." ++ toString i

/-- The key of the name of the `i`-th filter. -/
def filterNameKey (name : String) (i : Nat) : String := elementKey name i ++ ".Name"

/-- The key of the `j`-th value of the `i`-th filter. -/
def filterValueKey (name : String) (i j : Nat) : String :=
  elementKey (elementKey name i ++ ".Value") j

/-- The pairs of the `i`-th filter in the indexed style. -/
def indexedFilter (name : String) (i : Nat) (f : Filter) : List (String × String) :=
  (filterNameKey name i, f.name.text) ::
    numbered (fun j value => (filterValueKey name i j, value)) 1 f.values

/-- The pairs of a parameter in the indexed style. -/
def indexedPairs (name : String) : Param → List (String × String)
  | .scalar value => [(name, value)]
  | .list values => numbered (fun i value => (elementKey name i, value)) 1 values
  | .filters filters => (numbered (indexedFilter name) 1 filters).flatten

/-- The key of a part of the `i`-th filter in the joined style. -/
def memberKey (name : String) (i : Nat) (part : String) : String :=
  name ++ "[" ++ toString i ++ "]." ++ part

/-- The pairs of the `i`-th filter in the joined style. -/
def joinedFilter (name : String) (i : Nat) (f : Filter) : List (String × String) :=
  [(memberKey name i "key", f.name.text), (memberKey name i "value", Text.join "," f.values)]

/-- The pairs of a parameter in the joined style. -/
def joinedPairs (name : String) : Param → List (String × String)
  | .scalar value => [(name, value)]
  | .list values => [(name, Text.join "," values)]
  | .filters filters => (numbered (joinedFilter name) 0 filters).flatten

/-- The pairs of a parameter. -/
def pairs (style : QueryStyle) (name : String) (value : Param) : List (String × String) :=
  match style with
  | .indexed => indexedPairs name value
  | .joined => joinedPairs name value

end QueryStyle

/-- The pairs of an envelope's parameters, in order. -/
def Envelope.query (e : Envelope) (style : QueryStyle) : List (String × String) :=
  e.params.flatMap fun p => style.pairs p.1 p.2

end CloudApi
