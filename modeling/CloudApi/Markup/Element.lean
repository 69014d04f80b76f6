import CloudApi.Markup.Event

/-! # Element trees

An element has a name, the text that stands directly inside it, and the elements inside it in
order.  `Element.ofEvents` builds the tree of a run of events on a stack of open elements; where
several elements stand outermost, the last one is the root. -/

namespace CloudApi.Markup

/-- An element: its text is what stands directly inside it, put together. -/
inductive Element where
  | node (name text : String) (children : List Element)
deriving Repr, Inhabited

/-- Why a text is no document. -/
inductive Error where
  /-- A part that is no event. -/
  | malformed
  /-- No element at all. -/
  | noRoot
  /-- An element that is not closed, found at this position, or an end without a start. -/
  | unbalanced (position : Nat)
deriving DecidableEq, Repr

/-- The wording of an error. -/
def Error.message : Error → String
  | .malformed => "Malformed document"
  | .noRoot => "Document has no root element"
  | .unbalanced position => "Unbalanced element at position " ++ toString position

/-- An element that is not closed yet; its children stand last one first. -/
structure OpenElement where
  name : String
  text : String := ""
  children : List Element := []
deriving Repr

namespace OpenElement

/-- Add text at the end. -/
def addText (e : OpenElement) (s : String) : OpenElement := { e with text := e.text ++ s }

/-- Add an element at the end. -/
def addChild (e : OpenElement) (child : Element) : OpenElement :=
  { e with children := child :: e.children }

/-- The element, closed. -/
def close (e : OpenElement) : Element := .node e.name e.text e.children.reverse

end OpenElement

/-- What has been built from the events read so far. -/
structure Progress where
  /-- The open elements, the innermost first. -/
  opened : List OpenElement := []
  /-- The last element that was closed with no other around it. -/
  root : Option Element := none
deriving Repr

namespace Progress

/-- Put a closed element into the innermost open one, or make it the root. -/
def place (p : Progress) (e : Element) : Progress :=
  match p.opened with
  -- a root that has been closed before is lost
  | [] => { p with root := some e }
  | parent :: outer => { p with opened := parent.addChild e :: outer }

/-- Add text to the innermost open element; outside of elements it is passed over. -/
def addText (p : Progress) (s : String) : Progress :=
  match p.opened with
  | [] => p
  | e :: outer => { p with opened := e.addText s :: outer }

/-- Take one event; nothing if it ends an element where none is open. -/
def step (p : Progress) : Event → Option Progress
  | .start name => some { p with opened := { name := name } :: p.opened }
  | .empty name => some (p.place (.node name "" []))
  | .stop =>
    match p.opened with
    | [] => none
    | e :: outer => some (place { p with opened := outer } e.close)
  | .text s => some (p.addText s)
  | .literal s => some (p.addText s)
  | .other => some p

/-- Take events one after the other. -/
def steps (p : Progress) : List Event → Option Progress
  | [] => some p
  | e :: rest => (p.step e).bind fun q => q.steps rest

end Progress

/-- The root element of a run of events that ends at `position`. -/
def Element.ofEvents (position : Nat) (es : List Event) : Except Error Element :=
  match Progress.steps {} es with
  | none => .error (.unbalanced position)
  | some p =>
    if p.opened.isEmpty then
      match p.root with
      | some e => .ok e
      | none => .error .noRoot
    else .error (.unbalanced position)

end CloudApi.Markup
