import CloudApi.Markup.Document
import Mathlib.Data.List.Basic
import Mathlib.Data.List.Induction

/-!
# What a document says

Content is what stands between two tags, or a whole document: elements in order, with text,
literal sections and comments before, between and after them. This file says what content means,
with neither events nor a stack: `Content.entries` has the name and the value of each of its
elements, and `Content.reading` is the value of an element around it.

## Key results

- `entries_eq_map`: the values of the elements are read one by one
- `get?_reading`: the member of an object under a name has what all elements of that name say
- `get?_reading_of_named`: if there is only one, the member is what it says
- `reading_of_elements_eq_nil`: without elements, a value is a text
- `group_eq_map`, `value_node`: the value of an element tree is what is said here
-/

namespace CloudApi.Markup

/-- What stands next to elements and is none. -/
inductive Aside where
  | text (s : String)
  | literal (s : String)
  /-- A comment, a processing instruction or a declaration. -/
  | other
deriving DecidableEq, Repr

namespace Aside

/-- How it is met by a reader. -/
def event : Aside → Event
  | text s => .text s
  | literal s => .literal s
  | other => .other

/-- What it adds to the text of the element around it. -/
def written : Aside → String
  | text s | literal s => s
  | other => ""

end Aside

/-- Elements in order, and what stands next to them. -/
inductive Content where
  | nil
  | aside (a : Aside) (rest : Content)
  /-- An element that ends where it starts. -/
  | empty (name : String) (rest : Content)
  /-- An element with a start tag and an end tag. -/
  | element (name : String) (inside rest : Content)
deriving DecidableEq, Repr

/-- The values of the elements with this name, in order. -/
def valuesNamed (name : String) (entries : List (String × Json)) : List Json :=
  (entries.filter (·.1 = name)).map (·.2)

/-- What the values of one name come to: one stands for itself, several are an array. -/
def gathered : List Json → Option Json
  | [] => none
  | [j] => some j
  | js => some (.array js)

/-- The value of an element, by its name, its own text, and the names and values of the elements
inside it. -/
def valueOf (name text : String) (inside : List (String × Json)) : Json :=
  if inside.isEmpty then
    if text = "" ∧ "Set".toList <:+ name.toList then .array [] else .text text
  else if ∀ e ∈ inside, e.1 = "item" then .array (inside.map (·.2))
  else
    -- a member for each name
    Json.ofMembers ((inside.map (·.1)).eraseDups.filterMap fun n =>
      (gathered (valuesNamed n inside)).map fun j => (n, j))

namespace Content

/-- What a reader meets. -/
def events : Content → List Event
  | nil => []
  | aside a rest => a.event :: rest.events
  | empty name rest => .empty name :: rest.events
  | element name inside rest => .start name :: (inside.events ++ .stop :: rest.events)

/-- The elements, by their names and what stands inside them; theirs are not among them. -/
def elements : Content → List (String × Content)
  | nil => []
  | aside _ rest => rest.elements
  | empty name rest => (name, nil) :: rest.elements
  | element name inside rest => (name, inside) :: rest.elements

/-- The text and the literal sections next to the elements, put together. -/
def ownText : Content → String
  | nil => ""
  | aside a rest => a.written ++ rest.ownText
  | empty _ rest => rest.ownText
  | element _ _ rest => rest.ownText

/-- The names and the values of the elements. -/
def entries : Content → List (String × Json)
  | nil => []
  | aside _ rest => rest.entries
  | empty name rest => (name, valueOf name "" []) :: rest.entries
  | element name inside rest => (name, valueOf name inside.ownText inside.entries) :: rest.entries

/-- The value of an element that is named `name` and has this inside it. -/
def reading (name : String) (inside : Content) : Json :=
  valueOf name inside.ownText inside.entries

/-- Each element has the value that it has on its own. -/
theorem entries_eq_map (c : Content) :
    c.entries = c.elements.map fun e => (e.1, e.2.reading e.1) := by
  induction c with
  | nil => rfl
  | aside a rest ih => exact ih
  | empty name rest ih => rw [entries, elements, List.map_cons, ih]; rfl
  | element name inside rest _ ih => rw [entries, elements, List.map_cons, ih]; rfl

end Content

/-! ### Values by name -/

theorem valuesNamed_append (name : String) (es fs : List (String × Json)) :
    valuesNamed name (es ++ fs) = valuesNamed name es ++ valuesNamed name fs := by
  rw [valuesNamed, List.filter_append, List.map_append]
  rfl

/-- There are values exactly under the names that occur. -/
theorem valuesNamed_eq_nil {name : String} {es : List (String × Json)} :
    valuesNamed name es = [] ↔ name ∉ es.map (·.1) := by
  rw [valuesNamed, List.map_eq_nil_iff, List.filter_eq_nil_iff, List.mem_map]
  simp only [decide_eq_true_eq, not_exists, not_and]

private theorem nodup_eraseDups (names : List String) : names.eraseDups.Nodup := by
  -- from the end, where a name is added or has been there
  induction names using List.reverseRecOn with
  | nil => exact List.nodup_nil
  | append_singleton names name ih =>
    rw [Keyed.eraseDups_concat]
    by_cases h : name ∈ names
    · rwa [if_pos h, List.append_nil]
    · have new : ∀ n ∈ names.eraseDups, n ≠ name := by
        intro n hn e
        exact h (e ▸ List.mem_eraseDups.mp hn)
      rw [if_neg h, List.nodup_append]
      exact ⟨ih, by simp, fun n hn m hm => List.mem_singleton.mp hm ▸ new n hn⟩

/-- Collecting values one after the other is the same as picking the values of each name. -/
theorem group_eq_map (es : List (String × Json)) :
    group es = (es.map (·.1)).eraseDups.map fun n => (n, valuesNamed n es) := by
  -- from the end, since the entries are grouped from the beginning
  induction es using List.reverseRecOn with
  | nil => rfl
  | append_singleton es e ih =>
    have step : group (es ++ [e]) =
        (group es).set e.1 (((group es).get? e.1).getD [] ++ [e.2]) := by
      rw [group, List.foldl_append]
      rfl
    -- what the name has had so far
    have before : ((group es).get? e.1).getD [] = valuesNamed e.1 es := by
      rw [ih, Keyed.get?_pairs]
      by_cases h : e.1 ∈ es.map (·.1)
      · rw [if_pos (List.mem_eraseDups.mpr h), Option.getD_some]
      · rw [if_neg fun m => h (List.mem_eraseDups.mp m), valuesNamed_eq_nil.mpr h, Option.getD_none]
    -- a name that is new comes last
    have names : ((es ++ [e]).map (·.1)).eraseDups = (es.map (·.1)).eraseDups ++
        if e.1 ∈ (es.map (·.1)).eraseDups then [] else [e.1] := by
      rw [List.map_append, List.map_singleton, Keyed.eraseDups_concat]
      simp only [List.mem_eraseDups]
    rw [step, before, ih, Keyed.set_pairs (nodup_eraseDups _), names]
    apply List.map_congr_left
    intro n hn
    -- only the values of the name that is set have changed
    rw [valuesNamed_append]
    by_cases h : n = e.1
    · simp [h, valuesNamed]
    · simp [h, Ne.symm h, valuesNamed]

theorem gathered_eq_some {js : List Json} (h : js ≠ []) : gathered js = some (single js) := by
  match js, h with
  | [_], _ => rfl
  | _ :: _ :: _, _ => rfl

/-- Each name that occurs has a member. -/
private theorem members_eq_map (es : List (String × Json)) :
    ((es.map (·.1)).eraseDups.filterMap fun n =>
      (gathered (valuesNamed n es)).map fun j => (n, j)) =
      (es.map (·.1)).eraseDups.map fun n => (n, single (valuesNamed n es)) := by
  rw [List.filterMap_eq_map_iff_forall_eq_some]
  intro n hn
  -- a name that occurs has a value
  have some : valuesNamed n es ≠ [] := fun h =>
    valuesNamed_eq_nil.mp h (List.mem_eraseDups.mp hn)
  rw [gathered_eq_some some]
  rfl

/-- An object has under each name what the values of the name come to, and nothing else. -/
theorem get?_valueOf {es : List (String × Json)} (h : ∃ e ∈ es, e.1 ≠ "item")
    (name text n : String) : (valueOf name text es).get? n = gathered (valuesNamed n es) := by
  -- an element with children is an object or an array
  have some : es.isEmpty = false := by
    obtain ⟨e, he, -⟩ := h
    rw [List.isEmpty_eq_false_iff]
    exact List.ne_nil_of_mem he
  -- so it is neither a text nor an array
  have mixed : ¬ ∀ e ∈ es, e.1 = "item" := by simpa using h
  rw [valueOf, if_neg (by simp [some]), if_neg mixed, members_eq_map]
  show Keyed.get? (Keyed.ofList _) n = _
  rw [Keyed.get?_ofList_pairs]
  simp only [List.mem_eraseDups]
  by_cases hn : n ∈ es.map (·.1)
  · rw [if_pos hn, gathered_eq_some fun h => valuesNamed_eq_nil.mp h hn]
  · rw [if_neg hn, valuesNamed_eq_nil.mpr hn]
    rfl

/-- The values of one name are the values of the elements of this name. -/
theorem Content.valuesNamed_entries (c : Content) (n : String) :
    valuesNamed n c.entries = (c.elements.filter (·.1 = n)).map fun e => e.2.reading e.1 := by
  rw [valuesNamed, entries_eq_map, List.filter_map, List.map_map]
  rfl

namespace Content

/-- What stands inside each of the elements of this name. -/
def named (c : Content) (n : String) : List Content := (c.elements.filter (·.1 = n)).map (·.2)

theorem valuesNamed_entries_eq_map (c : Content) (n : String) :
    valuesNamed n c.entries = (c.named n).map (·.reading n) := by
  rw [valuesNamed_entries, named, List.map_map]
  apply List.map_congr_left
  intro e he
  have name : e.1 = n := by simpa using (List.mem_filter.mp he).2
  rw [Function.comp_apply, name]

/-- An element that holds another one than items is an object. It has under each name what all
elements of this name say. -/
theorem get?_reading {c : Content} {m : String} (some : c.named m ≠ []) (other : m ≠ "item")
    (outer n : String) : (c.reading outer).get? n = gathered ((c.named n).map (·.reading n)) := by
  have member : m ∈ c.entries.map (·.1) := by
    by_contra missing
    rw [← valuesNamed_eq_nil, valuesNamed_entries_eq_map, List.map_eq_nil_iff] at missing
    exact some missing
  obtain ⟨e, he, rfl⟩ := List.mem_map.mp member
  rw [← valuesNamed_entries_eq_map]
  exact get?_valueOf ⟨e, he, other⟩ outer c.ownText n

/-- The only element of a name is found under this name. -/
theorem get?_reading_of_named {c e : Content} {n : String} (only : c.named n = [e])
    (other : n ≠ "item") (outer : String) : (c.reading outer).get? n = some (e.reading n) := by
  have held : c.named n ≠ [] := by
    rw [only]
    exact List.cons_ne_nil e []
  rw [get?_reading held other, only]
  rfl

/-- An element that holds no other is its text, unless it could be an empty list. -/
theorem reading_of_elements_eq_nil {c : Content} (h : c.elements = []) {name : String}
    (single : namesList name = false) : c.reading name = .text c.ownText := by
  have none : c.entries = [] := by rw [entries_eq_map, h, List.map_nil]
  have notList : ¬"Set".toList <:+ name.toList := by
    rw [← List.isSuffixOf_iff_suffix]
    exact Bool.eq_false_iff.mp single
  rw [reading, none, valueOf, if_pos List.isEmpty_nil, if_neg fun both => notList both.2]

end Content

/-! ### Element trees -/

theorem valueOfChildren_eq {es : List (String × Json)} (h : es ≠ []) (name text : String) :
    valueOfChildren es = valueOf name text es := by
  have some : ¬ es.isEmpty := by simpa using h
  rw [valueOf, if_neg some, members_eq_map, valueOfChildren, group_eq_map, List.map_map]
  -- both look at whether all children are items, one at the groups and one at the names
  by_cases items : ∀ e ∈ es, e.1 = "item"
  · rw [if_pos items, if_pos]
    rw [List.all_eq_true]
    intro e he
    rw [items e he]
    rfl
  · rw [if_neg items, if_neg]
    · rfl
    · intro all
      rw [List.all_eq_true] at all
      exact items fun e he => beq_iff_eq.mp (all e he)

/-- The value of an element by the values of the elements inside it. -/
theorem value_node (name text : String) (children : List Element) :
    (Element.node name text children).value = valueOf name text (Element.entries children) := by
  rw [Element.value]
  split
  · next h =>
    rw [h, valueOf, if_pos List.isEmpty_nil]
    simp only [namesList, Text.endsWith, List.isSuffixOf_iff_suffix, listEnding]
  · next h =>
    exact valueOfChildren_eq (by simpa using h) name text

end CloudApi.Markup
