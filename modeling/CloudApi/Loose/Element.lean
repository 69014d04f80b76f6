import CloudApi.Loose.Value

/-! # Typed lists from loose values

An element type says how one loose value is read.  A list is read item by item, and the first bad
item fails it; any other value stands for the list that holds it alone. -/

namespace CloudApi

/-- A type whose elements can be read from loose values. -/
class LooseElement (α : Type) where
  /-- What the type is called in errors. -/
  typeName : String
  /-- Read one element. -/
  ofLoose : Loose → Except ShapeError α

/-- The error of a value that is not of the type asked for. -/
def ShapeError.expected (expected : String) (v : Loose) : ShapeError :=
  .mismatch expected v.typeName

/-- A text element is any value that has a text. -/
instance : LooseElement String where
  typeName := "String"
  ofLoose v :=
    match v.scalarText? with
    | some s => .ok s
    | none => .error (.expected "String" v)

/-- A number element is a number. -/
instance : LooseElement Int where
  typeName := "Int"
  ofLoose v :=
    match v with
    | .int n => .ok n
    | v => .error (.expected "Int" v)

/-- A truth element is a truth value. -/
instance : LooseElement Bool where
  typeName := "Bool"
  ofLoose v :=
    match v with
    | .bool b => .ok b
    | v => .error (.expected "Bool" v)

namespace Loose

/-- Read items one after the other; `index` is the index of the first one.  An error says at
which item it arose, by `wrap`. -/
def readItems {ε α : Type} (item : Loose → Except ε α) (wrap : Nat → ε → ε) (index : Nat) :
    List Loose → Except ε (List α)
  | [] => .ok []
  | v :: rest =>
    match item v with
    | .error e => .error (wrap index e)
    | .ok a => (readItems item wrap (index + 1) rest).map (a :: ·)

/-- Read a list item by item, or the list that holds one other value. -/
def readList {ε α : Type} (item : Loose → Except ε α) (wrap : Nat → ε → ε) :
    Loose → Except ε (List α)
  | .list items => readItems item wrap 0 items
  | v => (item v).map ([·])

/-- The typed list that a loose value stands for. -/
def toList (α : Type) [LooseElement α] (v : Loose) : Except ShapeError (List α) :=
  readList LooseElement.ofLoose ShapeError.atItem v

/-- Append the one element that a loose value is read as. -/
def appendTo {α : Type} [LooseElement α] (xs : List α) (v : Loose) :
    Except ShapeError (List α) :=
  (LooseElement.ofLoose v).map fun x => xs ++ [x]

end Loose

end CloudApi
