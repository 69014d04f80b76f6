import CloudApi.Proofs.MarkupContent

/-!
# Documents are read as they are written

Between its tags, an element is built on top of a stack of open ones. This file follows the
stack over the events of content: whatever is open before is open after, and the innermost of it
has taken in the text and the elements. So the events of a document come to the tree that the
document is, and the value of the tree is what the document says.

## Key results

- `Progress.steps_events`: content is absorbed, on any stack and whatever follows
- `Element.ofEvents_events`: the root is the last of the outermost elements
- `Content.entries_trees`: the values of the trees are those of the content
- `parse_single_root`: a document with one root has the value of the root under its name
-/

namespace CloudApi.Markup

namespace Content

/-- The elements as trees. -/
def trees : Content → List Element
  | nil => []
  | aside _ rest => rest.trees
  | empty name rest => .node name "" [] :: rest.trees
  | element name inside rest => .node name inside.ownText inside.trees :: rest.trees

theorem trees_eq_map (c : Content) :
    c.trees = c.elements.map fun e => .node e.1 e.2.ownText e.2.trees := by
  induction c with
  | nil => rfl
  | aside a rest ih => exact ih
  | empty name rest ih => rw [trees, elements, List.map_cons, ih]; rfl
  | element name inside rest _ ih => rw [trees, elements, List.map_cons, ih]

/-- Trees have the values of the elements they are. -/
theorem entries_trees (c : Content) : Element.entries c.trees = c.entries := by
  induction c with
  | nil => rw [trees, Element.entries]; rfl
  -- what stands aside leaves no entry
  | aside a rest ih => exact ih
  | empty name rest ih =>
    rw [trees, Element.entries, value_node, Element.entries, ih]
    rfl
  | element name inside rest ihi ih =>
    rw [trees, Element.entries, value_node, ihi, ih]
    rfl

end Content

/-! ### Taking in content -/

/-- An open element with content at its end. -/
def OpenElement.absorb (e : OpenElement) (c : Content) : OpenElement :=
  { e with text := e.text ++ c.ownText, children := c.trees.reverse ++ e.children }

/-- An element with nothing but this content is closed as its tree. -/
theorem OpenElement.close_absorb (name : String) (c : Content) :
    (OpenElement.absorb { name := name } c).close = .node name c.ownText c.trees := by
  simp [OpenElement.absorb, OpenElement.close]

namespace Progress

/-- What has been built, with content put into the innermost open element. Outside of elements
there is no text, and the last element is the root. -/
def absorb (p : Progress) (c : Content) : Progress :=
  match p.opened with
  | [] => { p with root := c.trees.getLast?.or p.root }
  | e :: outer => { p with opened := e.absorb c :: outer }

theorem absorb_nil (p : Progress) : p.absorb .nil = p := by
  obtain ⟨opened, root⟩ := p
  cases opened with
  | nil => rfl
  | cons e outer => simp [absorb, OpenElement.absorb, Content.ownText, Content.trees]

/-- What stands next to elements is absorbed in one step. -/
theorem step_aside (p : Progress) (a : Aside) : p.step a.event = some (p.addText a.written) := by
  cases a with
  | text s => rfl
  | literal s => rfl
  | other =>
    obtain ⟨opened, root⟩ := p
    cases opened with
    | nil => rfl
    | cons e outer => simp [Aside.event, Aside.written, step, addText, OpenElement.addText]

theorem absorb_aside (p : Progress) (a : Aside) (c : Content) :
    (p.addText a.written).absorb c = p.absorb (.aside a c) := by
  obtain ⟨opened, root⟩ := p
  cases opened with
  | nil => rfl
  | cons e outer =>
    simp [absorb, addText, OpenElement.absorb, OpenElement.addText, Content.ownText,
      Content.trees, String.append_assoc]

/-- A closed element is absorbed where it is placed. -/
theorem absorb_place (p : Progress) {e : Element} {c d : Content}
    (trees : d.trees = e :: c.trees) (text : d.ownText = c.ownText) :
    (p.place e).absorb c = p.absorb d := by
  obtain ⟨opened, root⟩ := p
  cases opened with
  | nil =>
    -- the element is the root, unless one follows
    simp only [place, absorb, trees, List.getLast?_cons]
    cases c.trees.getLast? <;> rfl
  | cons top outer =>
    simp [place, absorb, OpenElement.absorb, OpenElement.addChild, trees, text]

/-- The events of content put it into what is open, whatever that is and whatever follows. -/
theorem steps_events (p : Progress) (c : Content) (rest : List Event) :
    p.steps (c.events ++ rest) = (p.absorb c).steps rest := by
  -- over the content; what is open is general, since elements are read with themselves on top
  induction c generalizing p rest with
  | nil => rw [absorb_nil]; rfl
  -- it is passed over, or its text is added to the element on top
  | aside a c ih =>
    rw [Content.events, List.cons_append, steps, step_aside, Option.bind_some, ih, absorb_aside]
  | empty name c ih =>
    rw [Content.events, List.cons_append, steps, step, Option.bind_some, ih,
      absorb_place p (d := .empty name c) rfl rfl]
  | element name inside c ihi ih =>
    -- the element is opened, absorbs what is inside, and is closed into what was open before
    have opened : absorb { p with opened := { name := name } :: p.opened } inside =
        { p with opened := OpenElement.absorb { name := name } inside :: p.opened } := rfl
    rw [Content.events, List.cons_append, steps, step, Option.bind_some, List.append_assoc,
      ihi, opened, List.cons_append, steps, step, Option.bind_some, OpenElement.close_absorb, ih]
    show ((p.place _).absorb c).steps rest = _
    rw [absorb_place p (d := .element name inside c) rfl rfl]

end Progress

/-- The events of a whole document come to its last outermost element. -/
theorem Element.ofEvents_events (position : Nat) (c : Content) :
    Element.ofEvents position c.events =
      match c.trees.getLast? with
      | some e => .ok e
      | none => .error .noRoot := by
  -- nothing is open before, and so nothing after
  have read : Progress.steps {} c.events = some { root := c.trees.getLast? } := by
    have := Progress.steps_events {} c []
    rw [List.append_nil] at this
    rw [this, Progress.steps]
    simp [Progress.absorb]
  rw [Element.ofEvents, read]
  rfl

/-- The document with a root of this name and this content. -/
theorem Element.document_node (name : String) (inside : Content) :
    (Element.node name inside.ownText inside.trees).document =
      .object [(Text.lowercase name, inside.reading name)] := by
  rw [Element.document, value_node, Content.entries_trees]
  rfl

/-- A document with a single root is read as it is written: the value of the root stands under
its name in small letters, by the events alone and by any text that has these events. An element
whose elements are not all items has under each name what all elements of this name say, each one
for itself, and nothing else. -/
theorem parse_single_root {doc inside : Content} {name : String}
    (single : doc.elements = [(name, inside)]) :
    (∀ position, (Element.ofEvents position doc.events).map Element.document =
      .ok (.object [(Text.lowercase name, inside.reading name)])) ∧
    (∀ s : String, events (withoutMark s.toList) = some doc.events →
      parse s = .ok (.object [(Text.lowercase name, inside.reading name)])) ∧
    ∀ (outer : String) (c : Content), (∃ e ∈ c.elements, e.1 ≠ "item") →
      ∀ n, (c.reading outer).get? n =
        gathered ((c.elements.filter (·.1 = n)).map fun e => e.2.reading e.1) := by
  -- reading the events gives the trees of the content, here a single one
  have built : ∀ position, (Element.ofEvents position doc.events).map Element.document =
      .ok (.object [(Text.lowercase name, inside.reading name)]) := by
    intro position
    rw [Element.ofEvents_events, Content.trees_eq_map, single, ← Element.document_node]
    rfl
  refine ⟨built, ?_, ?_⟩
  · intro s read
    rw [parse, read]
    exact built _
  · intro outer c ⟨e, he, hn⟩ n
    rw [← Content.valuesNamed_entries]
    apply get?_valueOf
    -- one child that is no item makes the value an object
    refine ⟨(e.1, e.2.reading e.1), ?_, hn⟩
    rw [Content.entries_eq_map]
    exact List.mem_map_of_mem he

/-- Two groups of items with text between them, and a list that is empty. -/
private def twoGroups : Content :=
  .element "g" (.element "item" (.aside (.text "a") .nil) .nil)
    (.aside (.text "x") (.element "g"
      (.element "item" (.aside (.text "b") .nil)
        (.element "item" (.aside (.literal "<") .nil) .nil))
      (.empty "tagSet" .nil)))

theorem parse_two_groups :
    parse
      "<?v?><R><g><item>a</item></g>x<g><item>b</item><item><![CDATA[<]]></item></g><tagSet/></R>" =
      .ok (.object [("r", .object
        [("g", .array [.array [.text "a"], .array [.text "b", .text "<"]]),
          ("tagSet", .array [])])]) :=
  (@parse_single_root (.aside .other (.element "R" twoGroups .nil)) twoGroups "R" rfl).2.1 _ rfl

end CloudApi.Markup
