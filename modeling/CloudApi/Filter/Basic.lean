import CloudApi.Filter.Name
import CloudApi.Loose.Element

/-! # Filters

A filter restricts one property of a resource, by name, to a list of values.  A loose filter is a
map with a name, and its values under `value` or else `values`. -/

namespace CloudApi

/-- A name and the values that it matches. -/
structure Filter where
  name : FilterName
  values : List String

namespace Filter

/-- The filter for one value. -/
def ofValue (name : FilterName) (value : String) : Filter := ⟨name, [value]⟩

/-- Read the name of a loose filter. -/
def nameOfEntries (names : FilterNames) (entries : Keyed Loose) : Except Error FilterName :=
  match entries.get? "name" with
  | some (.text s) => names.resolve s
  | some v => .error (.shape (.expected "String" v))
  | none => .error (.shape (.missingField "Filter" "name"))

/-- Read the values of a loose filter. -/
def valuesOfEntries (entries : Keyed Loose) : Except ShapeError (List String) :=
  match (entries.get? "value").or (entries.get? "values") with
  | some v => v.toList String
  | none => .error (.missingField "Filter" "value")

/-- Read a loose filter. -/
def ofLoose (names : FilterNames) : Loose → Except Error Filter
  | .map entries => do
    let name ← nameOfEntries names entries
    let values ← (valuesOfEntries entries).mapError .shape
    return ⟨name, values⟩
  | v => .error (.shape (.expected "Filter" v))

/-- The error of an item in a list of filters: where a value has the wrong shape, the index is
told. -/
def errorAtItem (index : Nat) : Error → Error
  | .shape e => .shape (.atItem index e)
  | e => e

/-- Read a loose filter or a list of them. -/
def listOfLoose (names : FilterNames) (v : Loose) : Except Error (List Filter) :=
  Loose.readList (ofLoose names) errorAtItem v

end Filter

end CloudApi
