import CloudApi.Json.Basic
import CloudApi.Markup.Element
import CloudApi.Markup.Reader
import CloudApi.Text.Case
import CloudApi.Text.Split

/-! # Documents from elements

The value of an element, by the elements inside it:

* none: its text; but the empty list if the text is empty and the name ends in `Set`
* all named `item`: the array of their values
* otherwise: an object with a member for each name, which is the value of the one child of that
  name, or the array of the values of all of them

`Markup.parse` reads a text and answers with the object whose one member is the root element,
under its name in small letters. -/

namespace CloudApi.Markup

/-- The name of the elements that make up a list. -/
def itemName : String := "item"

/-- How the name of an element ends that holds a list. -/
def listEnding : String := "Set"

/-- An element of this name is a list even when it is empty. -/
def namesList (name : String) : Bool := Text.endsWith listEnding name

/-- Collect values under their names, in order; the names stand in the order of their first
values. -/
def group (entries : List (String × Json)) : Keyed (List Json) :=
  entries.foldl (fun groups e => groups.set e.1 ((groups.get? e.1).getD [] ++ [e.2])) []

/-- A value that stands alone is itself, several are an array. -/
def single : List Json → Json
  | [j] => j
  | js => .array js

/-- The value of the elements inside an element, given their names and values. -/
def valueOfChildren (entries : List (String × Json)) : Json :=
  if entries.all (·.1 == itemName) then .array (entries.map (·.2))
  else Json.ofMembers ((group entries).map fun g => (g.1, single g.2))

namespace Element

/-- The name of an element. -/
def name : Element → String
  | .node name _ _ => name

mutual

/-- The value of an element. -/
def value : Element → Json
  | .node name text children =>
    match entries children with
    -- without children only the name tells an empty list from an empty text
    | [] => if text = "" ∧ namesList name then .array [] else .text text
    | es => valueOfChildren es

/-- The names and values of elements. -/
def entries : List Element → List (String × Json)
  | [] => []
  | e :: rest => (e.name, e.value) :: entries rest

end

/-- The document with this root. -/
def document (root : Element) : Json := .object [(Text.lowercase root.name, root.value)]

end Element

/-- The document that a text holds. -/
def parse (s : String) : Except Error Json :=
  let cs := withoutMark s.toList
  match events cs with
  | none => .error .malformed
  | some es => (Element.ofEvents (String.ofList cs).utf8ByteSize es).map Element.document

end CloudApi.Markup
