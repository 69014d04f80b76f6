import CloudApi.Proofs.MarkupReading
import CloudApi.Reply.Basic

/-!
# Which events are a document

This file counts open elements instead of building them. Events come to a root exactly if every
element is closed when they end and there is an element at all; of several outermost elements the
last one is the root, and the others are lost.

## Key results

- `Progress.length_opened_steps`: the stack is as high as the count
- `exists_events_eq`: events in which every element is closed are those of some content
- `outermost_events`: the elements that begin where none is open are the elements of the content
- `Element.ofEvents_eq_ok_iff`, `Element.ofEvents_of_not_closed`: which events come to a root, and
  to which
- `isSome_parse_iff`: which texts are read as a document
- `root_is_last_outermost`: what this means for events, bodies and replies
-/

namespace CloudApi.Markup

/-! ### Counting -/

/-- How many elements are open after an event, where `n` are open before it; nothing if it ends an
element and none is open. -/
def Event.depth (n : Nat) : Event → Option Nat
  | .start _ => some (n + 1)
  | .stop => if n = 0 then none else some (n - 1)
  | _ => some n

/-- The name of the element that begins with an event. -/
def Event.begun? : Event → Option String
  | .start name | .empty name => some name
  | _ => none

/-- How many elements are open after some events. -/
def depthAfter (n : Nat) : List Event → Option Nat
  | [] => some n
  | e :: rest => (e.depth n).bind (depthAfter · rest)

/-- The names of the elements that begin while no other is open. -/
def outermost (n : Nat) : List Event → List String
  | [] => []
  | e :: rest =>
    (if n = 0 then e.begun?.toList else []) ++
      (e.depth n).elim [] (outermost · rest)

/-- The stack is as high as the count, after one event -/
theorem Progress.length_opened_step (p : Progress) (e : Event) :
    (p.step e).map (·.opened.length) = e.depth p.opened.length := by
  obtain ⟨opened, root⟩ := p
  cases e with
  | start name => rfl
  | empty name => cases opened <;> rfl
  | text s => cases opened <;> rfl
  | literal s => cases opened <;> rfl
  | other => rfl
  | stop =>
    cases opened with
    | nil => rfl
    | cons e outer => cases outer <;> rfl

/-- and after many. -/
theorem Progress.length_opened_steps (p : Progress) (es : List Event) :
    (p.steps es).map (·.opened.length) = depthAfter p.opened.length es := by
  induction es generalizing p with
  | nil => rfl
  | cons e rest ih =>
    have step := p.length_opened_step e
    rw [steps, depthAfter, ← step]
    cases p.step e with
    | none => rfl
    | some q => exact ih q

/-! ### Content -/

/-- Events that close `n` open elements and whatever they open are content, the end of the innermost
open element, content, the end of the next one, and so on. -/
private theorem exists_events_append {n : Nat} {es : List Event} (h : depthAfter n es = some 0) :
    ∃ (c : Content) (cs : List Content), cs.length = n ∧
      es = c.events ++ cs.flatMap fun d => .stop :: d.events := by
  -- over the events, from the last one on: each of them goes to the front of the first content
  induction es generalizing n with
  | nil =>
    have none : 0 = n := (Option.some.inj h).symm
    exact ⟨.nil, [], none, rfl⟩
  | cons e rest ih =>
    obtain ⟨m, depth, closed⟩ := Option.bind_eq_some_iff.mp h
    obtain ⟨c, cs, length, rfl⟩ := ih closed
    cases e with
    | start name =>
      -- the content up to the first end is what is inside this element
      obtain rfl := Option.some.inj depth
      obtain ⟨d, ds, rfl⟩ := List.exists_cons_of_length_eq_add_one length
      refine ⟨.element name c d, ds, by simpa using length, ?_⟩
      simp [Content.events]
    | stop =>
      rw [Event.depth] at depth
      split at depth
      · cases depth
      · next open' =>
        obtain rfl := Option.some.inj depth
        refine ⟨.nil, c :: cs, ?_, rfl⟩
        rw [List.length_cons, length]
        omega
    | empty name =>
      obtain rfl := Option.some.inj depth
      exact ⟨.empty name c, cs, length, rfl⟩
    | text s =>
      obtain rfl := Option.some.inj depth
      exact ⟨.aside (.text s) c, cs, length, rfl⟩
    | literal s =>
      obtain rfl := Option.some.inj depth
      exact ⟨.aside (.literal s) c, cs, length, rfl⟩
    | other =>
      obtain rfl := Option.some.inj depth
      exact ⟨.aside .other c, cs, length, rfl⟩

/-- Events in which every element is closed are those of some content. -/
theorem exists_events_eq {es : List Event} (h : depthAfter 0 es = some 0) :
    ∃ doc : Content, doc.events = es := by
  obtain ⟨doc, cs, length, rfl⟩ := exists_events_append h
  rw [List.length_eq_zero_iff.mp length]
  exact ⟨doc, by simp⟩

@[simp] theorem depth_aside (n : Nat) (a : Aside) : a.event.depth n = some n := by
  cases a <;> rfl

@[simp] theorem begun?_aside (a : Aside) : a.event.begun? = none := by
  cases a <;> rfl

/-- Content closes what it opens. -/
theorem depthAfter_events (n : Nat) (c : Content) (rest : List Event) :
    depthAfter n (c.events ++ rest) = depthAfter n rest := by
  induction c generalizing n rest with
  | nil => rfl
  | aside a c ih => simp [Content.events, depthAfter, ih]
  | empty name c ih => simp [Content.events, depthAfter, Event.depth, ih]
  | element name inside c ihi ih =>
    simp [Content.events, depthAfter, Event.depth, ihi, ih]

/-- What begins in content while nothing is open are its own elements, and not those inside
them. -/
theorem outermost_events (n : Nat) (c : Content) (rest : List Event) :
    outermost n (c.events ++ rest) =
      (if n = 0 then c.elements.map (·.1) else []) ++ outermost n rest := by
  induction c generalizing n rest with
  | nil => simp [Content.events, Content.elements]
  | aside a c ih => simp [Content.events, Content.elements, outermost, ih]
  | empty name c ih =>
    by_cases h : n = 0 <;>
      simp [Content.events, Content.elements, outermost, Event.depth, Event.begun?, ih, h]
  | element name inside c ihi ih =>
    by_cases h : n = 0 <;>
      simp [Content.events, Content.elements, outermost, Event.depth, Event.begun?, ihi, ih, h]

/-! ### Roots -/

/-- Where an element is left open, or one is ended and none is open, there is no root. -/
theorem Element.ofEvents_of_not_closed {es : List Event} (h : depthAfter 0 es ≠ some 0)
    (position : Nat) : Element.ofEvents position es = .error (.unbalanced position) := by
  have counted : (Progress.steps {} es).map (·.opened.length) = depthAfter 0 es :=
    Progress.length_opened_steps {} es
  rw [Element.ofEvents]
  cases built : Progress.steps {} es with
  | none => rfl
  | some p =>
    rw [built, Option.map_some] at counted
    -- the stack is not empty, since the count is not zero
    have left : p.opened.isEmpty = false := by
      rw [List.isEmpty_eq_false_iff]
      intro empty
      rw [empty] at counted
      exact h counted.symm
    simp [left]

/-- Events come to a root exactly if they are those of content with an element, and the last
element of the content is the root. -/
theorem Element.ofEvents_eq_ok_iff {position : Nat} {es : List Event} {root : Element} :
    Element.ofEvents position es = .ok root ↔
      ∃ doc : Content, doc.events = es ∧ doc.trees.getLast? = some root := by
  constructor
  · intro h
    -- an element that is left open would be an error
    have closed : depthAfter 0 es = some 0 := by
      by_contra open'
      rw [ofEvents_of_not_closed open'] at h
      exact nomatch h
    obtain ⟨doc, rfl⟩ := exists_events_eq closed
    refine ⟨doc, rfl, ?_⟩
    rw [ofEvents_events] at h
    cases last : doc.trees.getLast? with
    | none =>
      rw [last] at h
      exact nomatch h
    | some e =>
      rw [last] at h
      rw [Except.ok.inj h]
  · rintro ⟨doc, rfl, last⟩
    rw [ofEvents_events, last]

/-- The outermost elements of content are its own. -/
theorem outermost_eq_map_fst (doc : Content) :
    outermost 0 doc.events = doc.elements.map (·.1) := by
  have alone := outermost_events 0 doc []
  rwa [List.append_nil, outermost, List.append_nil, if_pos rfl] at alone

/-- They have the names of its trees. -/
theorem outermost_eq_map_name (doc : Content) :
    outermost 0 doc.events = doc.trees.map (·.name) := by
  rw [outermost_eq_map_fst, Content.trees_eq_map, List.map_map]
  rfl

theorem closed_events (doc : Content) : depthAfter 0 doc.events = some 0 := by
  have alone := depthAfter_events 0 doc []
  rwa [List.append_nil] at alone

/-- Events come to a root exactly if every element is closed and there is one. -/
theorem Element.exists_ofEvents_iff {position : Nat} {es : List Event} :
    (∃ root, Element.ofEvents position es = .ok root) ↔
      depthAfter 0 es = some 0 ∧ outermost 0 es ≠ [] := by
  constructor
  · rintro ⟨root, h⟩
    obtain ⟨doc, rfl, last⟩ := ofEvents_eq_ok_iff.mp h
    refine ⟨closed_events doc, fun none => ?_⟩
    rw [outermost_eq_map_name, List.map_eq_nil_iff] at none
    rw [none] at last
    exact nomatch last
  · rintro ⟨closed, some⟩
    obtain ⟨doc, rfl⟩ := exists_events_eq closed
    rw [outermost_eq_map_name, ne_eq, List.map_eq_nil_iff] at some
    exact ⟨_, ofEvents_eq_ok_iff.mpr ⟨doc, rfl, List.getLast?_eq_some_getLast some⟩⟩

/-! ### Texts -/

/-- The text can be read to its end, and then every element in it is closed, and there is one. -/
def HoldsElement (s : String) : Prop :=
  ∃ es, events (withoutMark s.toList) = some es ∧ depthAfter 0 es = some 0 ∧ outermost 0 es ≠ []

/-- These are the texts that are read as a document. -/
theorem isSome_parse_iff {s : String} : (Format.xml.parse s).isSome = true ↔ HoldsElement s := by
  show (parse s).toOption.isSome = true ↔ HoldsElement s
  cases read : events (withoutMark s.toList) with
  | none =>
    have malformed : parse s = .error .malformed := by rw [parse, read]
    simp [malformed, HoldsElement, read, Except.toOption]
  | some es =>
    -- the position only matters to the error
    obtain ⟨position, found⟩ :
        ∃ position, parse s = (Element.ofEvents position es).map Element.document :=
      ⟨_, by rw [parse, read]⟩
    have holds : HoldsElement s ↔ ∃ root, Element.ofEvents position es = .ok root := by
      simp [HoldsElement, read, Element.exists_ofEvents_iff]
    rw [found, holds]
    cases Element.ofEvents position es <;> simp [Except.map, Except.toOption]

/-- A text with the events of content is read as a document of its last element. -/
theorem parse_of_events {s : String} {doc : Content}
    (read : events (withoutMark s.toList) = some doc.events) :
    parse s =
      match doc.elements.getLast? with
      | some (name, inside) => .ok (.object [(Text.lowercase name, inside.reading name)])
      | none => .error .noRoot := by
  rw [parse, read]
  dsimp only
  rw [Element.ofEvents_events, Content.trees_eq_map, List.getLast?_map]
  cases doc.elements.getLast? with
  | none => rfl
  | some e => exact congrArg Except.ok (Element.document_node e.1 e.2)

/-- The document in a body has the value of the last element under its name. -/
theorem document?_of_last {raw : RawReply} {doc inside : Content} {root : String}
    (read : events (withoutMark raw.body.toList) = some doc.events)
    (last : doc.elements.getLast? = some (root, inside)) (command : String) :
    (Reply.ofRaw raw command .xml).document? =
      some (.object [(Text.lowercase root, inside.reading root)]) := by
  show (parse raw.body).toOption = _
  rw [parse_of_events read, last]
  rfl

/-- So it has the value of the root, if there is one root. -/
theorem document?_of_single {raw : RawReply} {doc inside : Content} {root : String}
    (read : events (withoutMark raw.body.toList) = some doc.events)
    (single : doc.elements = [(root, inside)]) (command : String) :
    (Reply.ofRaw raw command .xml).document? =
      some (.object [(Text.lowercase root, inside.reading root)]) :=
  document?_of_last read (by rw [single]; rfl) command

/-- A body without an element is no document, -/
theorem document?_of_not_holdsElement {raw : RawReply} (h : ¬HoldsElement raw.body)
    (command : String) : (Reply.ofRaw raw command .xml).document? = none := by
  show Format.xml.parse raw.body = none
  rw [← Option.not_isSome_iff_eq_none, isSome_parse_iff]
  exact h

/-- and it is reported as one that cannot be decoded. -/
theorem reported_of_not_holdsElement {raw : RawReply} (h : ¬HoldsElement raw.body)
    (command : String) :
    (Reply.ofRaw raw command .xml).reported = .decodeFailure raw.status raw.body := by
  rw [Reply.reported, document?_of_not_holdsElement h]
  rfl

/-- Events come to a root exactly if every element is closed when they end, and there is one. The
root is then the last of the outermost elements, so what is accepted is a single element and nothing
else wherever no second one follows. A text is read as a document exactly if it can be read as such
events, and a reply with any other body is reported as one that cannot be decoded. -/
theorem root_is_last_outermost (position : Nat) (es : List Event) (raw : RawReply)
    (command : String) :
    let accepted := ∃ root, Element.ofEvents position es = .ok root
    let closed := depthAfter 0 es = some 0
    (accepted ↔ closed ∧ outermost 0 es ≠ []) ∧
    (∀ root, Element.ofEvents position es = .ok root →
      (outermost 0 es).getLast? = some root.name ∧
      ∃ doc : Content, doc.events = es ∧ doc.trees.getLast? = some root) ∧
    ((accepted ↔ closed ∧ (outermost 0 es).length = 1) ↔
      ¬(closed ∧ 2 ≤ (outermost 0 es).length)) ∧
    ((Format.xml.parse raw.body).isSome = true ↔ HoldsElement raw.body) ∧
    (¬HoldsElement raw.body →
      (Reply.ofRaw raw command .xml).reported = .decodeFailure raw.status raw.body) := by
  intro accepted closed
  have accepts : accepted ↔ closed ∧ outermost 0 es ≠ [] := Element.exists_ofEvents_iff
  refine ⟨accepts, ?_, ?_, isSome_parse_iff, fun h => reported_of_not_holdsElement h command⟩
  · intro root h
    obtain ⟨doc, rfl, last⟩ := Element.ofEvents_eq_ok_iff.mp h
    refine ⟨?_, doc, rfl, last⟩
    rw [outermost_eq_map_name, List.getLast?_map, last]
    rfl
  · -- one element and at least one are the same unless there are two
    rw [accepts, ← List.length_pos_iff]
    by_cases h : closed
    · simp only [h, true_and]
      omega
    · simp [h]

/-- Two elements side by side. -/
private def sideBySide : List Event := [.start "a", .text "x", .stop, .empty "b"]

theorem last_of_two_is_root :
    (outermost 0 sideBySide).getLast? = some "b" ∧
    (Reply.ofRaw { status := 503, body := "Service Unavailable" } "ListRegions" .xml).reported =
      .decodeFailure 503 "Service Unavailable" := by
  obtain ⟨_, root, _, documents, others⟩ := root_is_last_outermost 12 sideBySide
    { status := 503, body := "Service Unavailable" } "ListRegions"
  refine ⟨(root (.node "b" "" []) rfl).1, ?_⟩
  -- text next to no element is read, and passed over
  have unread : Format.xml.parse "Service Unavailable" = none := rfl
  refine others fun holds => ?_
  rw [← documents, unread] at holds
  exact nomatch holds

/-- It is not so that only one outermost element is accepted: the first of two is lost. -/
theorem second_root_is_accepted :
    events (withoutMark "<a>x</a><b/>".toList) = some sideBySide ∧
    depthAfter 0 sideBySide = some 0 ∧ (outermost 0 sideBySide).length = 2 ∧
    parse "<a>x</a><b/>" = .ok (.object [("b", .text "")]) ∧
    ¬∀ (position : Nat) (es : List Event),
      (∃ root, Element.ofEvents position es = .ok root) ↔
        depthAfter 0 es = some 0 ∧ (outermost 0 es).length = 1 := by
  have read : events (withoutMark "<a>x</a><b/>".toList) = some sideBySide := rfl
  refine ⟨read, rfl, rfl, ?_, fun claimed => ?_⟩
  · rw [parse, read]
    rfl
  · obtain ⟨_, one⟩ := (claimed 12 sideBySide).mp ⟨.node "b" "" [], rfl⟩
    exact absurd one (by decide)

end CloudApi.Markup
