import CloudApi.Markup.Entity
import CloudApi.Markup.Event
import CloudApi.Text.Blank
import CloudApi.Text.Case

/-! # Reading events

`events` splits a text into its events.  Tags are recognised by where they end, and little is
asked of what they hold: attributes are passed over, and an end tag must repeat the full name of
the element that is open.  Blanks are space, tab, line feed and carriage return.

Each part takes at least one character, so the length of the input bounds the number of parts. -/

namespace CloudApi.Markup

/-- What stands after the first colon of a name, or the whole name if it has none. -/
def localName (name : List Char) : List Char :=
  if ':' ∈ name then (name.dropWhile (· ≠ ':')).drop 1 else name

/-- What stands before the first `>` and what stands after it; all of it without one. -/
def upToClose (cs : List Char) : List Char × List Char :=
  (cs.takeWhile (· ≠ '>'), (cs.dropWhile (· ≠ '>')).drop 1)

/-! ### Start tags -/

/-- What stands before the first `>` outside quotes and what stands after it.  `quote` is the
mark that the open quotation ends with. -/
def tagContent (quote : Option Char) : List Char → Option (List Char × List Char)
  | [] => none
  | c :: cs =>
    let cont (quote : Option Char) :=
      (tagContent quote cs).map fun (content, rest) => (c :: content, rest)
    match quote with
    | some q => cont (if c = q then none else some q)
    | none =>
      if c = '>' then some ([], cs)
      else cont (if c = '\'' ∨ c = '"' then some c else none)

/-- The full name in a start tag: it ends at the first blank. -/
def tagName (content : List Char) : List Char := content.takeWhile fun c => !Text.isSpace c

/-- The tag closes its own element. -/
def closesItself (content : List Char) : Bool := content.getLast? == some '/'

/-- The full name of an element that closes itself: the final slash is no part of it. -/
def emptyTagName (content : List Char) : List Char :=
  if (tagName content).length = content.length then content.dropLast else tagName content

/-! ### Comments, literal sections and declarations -/

/-- What stands before the first `>` at which `ends` holds of it, and what stands after.  `seen`
is what has been read, last character first. -/
def upToEnd (ends : List Char → Bool) (seen : List Char) :
    List Char → Option (List Char × List Char)
  | [] => none
  | c :: cs =>
    if c = '>' ∧ ends seen then some (seen.reverse, cs) else upToEnd ends (c :: seen) cs

/-- A comment ends after two hyphens that are not those of its start. -/
def endsComment (seen : List Char) : Bool :=
  4 < seen.length && ['-', '-'].isPrefixOf seen

/-- A literal section ends after two brackets. -/
def endsLiteral (seen : List Char) : Bool := [']', ']'].isPrefixOf seen

/-- A document type ends where every `<` inside it is closed. -/
def endsDoctype (seen : List Char) : Bool := seen.count '<' == seen.count '>'

/-- The part that starts with `<!`, read after the `<`, and what stands after it. -/
def readBang (cs : List Char) : Option (Event × List Char) :=
  match cs with
  | '!' :: '-' :: _ => do
    let (content, rest) ← upToEnd endsComment [] cs
    if ['!', '-', '-'].isPrefixOf content then return (.other, rest) else none
  | '!' :: '[' :: _ => do
    let (content, rest) ← upToEnd endsLiteral [] cs
    if "![cdata[".toList.isPrefixOf (content.map Text.asciiSmall) then
      -- without the eight characters that open the section and the two that end it
      return (.literal (String.ofList ((content.drop 8).take (content.length - 10))), rest)
    else none
  | '!' :: c :: _ =>
    if c = 'D' ∨ c = 'd' then do
      let (content, rest) ← upToEnd endsDoctype [] cs
      -- the keyword, in letters of either case, and something behind it
      let named := "!doctype".toList.isPrefixOf (content.map Text.asciiSmall)
      if named && (content.drop 8).any (!Text.isSpace ·) then
        return (.other, rest)
      else none
    else none
  | _ => none

/-- A processing instruction, read after the `<`: question marks with something between them. -/
def readInstruction (cs : List Char) : Option (Event × List Char) :=
  let (content, rest) := upToClose cs
  if 2 < content.length && content.getLast? == some '?' then some (.other, rest) else none

/-! ### End tags and text -/

/-- The name in an end tag: blanks at its end are no part of it, unless there is nothing else. -/
def endName (content : List Char) : List Char :=
  if content.all Text.isSpace then content else Text.dropEnd Text.isSpace content

/-- The event for a stretch of text.  Outside of elements text is reported as it stands; inside,
its references are replaced. -/
def textEvent (inside : Bool) (cs : List Char) : Option Event :=
  let content := Text.dropEnd Text.isSpace cs
  if inside then (resolve content).map (.text ∘ String.ofList)
  else some (.text (String.ofList content))

/-- The events of a text.  `opened` holds the full names of the elements that are open, the
innermost first. -/
def eventsFrom : Nat → List (List Char) → List Char → Option (List Event)
  | 0, _, _ => none
  | fuel + 1, opened, cs =>
    match cs.dropWhile Text.isSpace with
    | [] => some []
    -- nothing follows: the end of the text
    | ['<'] => some []
    | '<' :: '!' :: cs => do
      let (event, rest) ← readBang ('!' :: cs)
      let more ← eventsFrom fuel opened rest
      return event :: more
    | '<' :: '?' :: cs => do
      let (event, rest) ← readInstruction ('?' :: cs)
      let more ← eventsFrom fuel opened rest
      return event :: more
    | '<' :: '/' :: cs =>
      -- an end without a start is malformed, whatever its name
      match opened with
      | [] => none
      | name :: opened =>
        let (content, rest) := upToClose cs
        if endName content = name then do
          let more ← eventsFrom fuel opened rest
          return .stop :: more
        else none
    | '<' :: cs => do
      let (content, rest) ← tagContent none cs
      if closesItself content then
        let more ← eventsFrom fuel opened rest
        return .empty (String.ofList (localName (emptyTagName content))) :: more
      else
        -- it is the full name that the end tag must repeat
        let more ← eventsFrom fuel (tagName content :: opened) rest
        return .start (String.ofList (localName (tagName content))) :: more
    -- the blanks before a stretch of text are gone, so it is not empty
    | cs => do
      let event ← textEvent (!opened.isEmpty) (cs.takeWhile (· ≠ '<'))
      let more ← eventsFrom fuel opened (cs.dropWhile (· ≠ '<'))
      return event :: more

/-- The mark of the byte order, which may stand at the very start. -/
def byteOrderMark : Char := '\ufeff'

/-- A text without the mark of the byte order. -/
def withoutMark (cs : List Char) : List Char :=
  if cs.head? = some byteOrderMark then cs.drop 1 else cs

/-- The events of a whole text, or nothing if it is malformed. -/
def events (cs : List Char) : Option (List Event) := eventsFrom (cs.length + 1) [] cs

end CloudApi.Markup
