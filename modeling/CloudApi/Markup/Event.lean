/-! # Events of a marked-up text

What a reader meets one after the other: start and end tags, elements without content, text,
literal sections, and parts that carry no content. -/

namespace CloudApi.Markup

/-- One part of a marked-up text.  Names are local names: what stands after the first colon. -/
inductive Event where
  /-- The start tag of an element. -/
  | start (name : String)
  /-- An element that ends where it starts. -/
  | empty (name : String)
  /-- The end tag of the element that is open. -/
  | stop
  /-- A stretch of text without blank ends, its references replaced. -/
  | text (content : String)
  /-- A section that is taken literally. -/
  | literal (content : String)
  /-- A comment, a processing instruction or a declaration. -/
  | other
deriving DecidableEq, Repr

end CloudApi.Markup
