import CloudApi.Proofs.HeldReplies
import CloudApi.Proofs.MarkupDocuments

/-!
# Whose answer a document is

The root of a document stands under its own name in small letters, and the answer to a command is
looked for under the command in small letters with an ending. In ASCII each letter has its small
form wherever it stands, so the two meet exactly if the root is named after the command, the case
of letters aside.

A body is the answer to a command also if it is no document because elements stand before the one
that is named after the command: the last outermost element decides.

## Key results

- `lowercase_eq_iff`: ASCII texts have one form in small letters if they differ only in case
- `responseProperty_eq`: the ending may be put before or after the letters are made small
- `HeldReply.result_askAll`: what was asked before does not change a result
- `answer?_eq_none_iff`: which bodies answer nothing
- `last_root_answers_namesake`: which bodies answer a command, and how
-/

namespace CloudApi

namespace Text

theorem lowercase_eq_ofList {s : String} (h : IsAscii s) :
    lowercase s = String.ofList (s.toList.map asciiSmall) := by
  rw [lowercase, smallList_eq_map h]

theorem IsAscii.append {s t : String} (hs : IsAscii s) (ht : IsAscii t) : IsAscii (s ++ t) := by
  intro c hc
  rw [String.toList_append, List.mem_append] at hc
  exact hc.elim (hs c) (ht c)

/-- Texts of ASCII characters come to the same small letters exactly if they differ in case
only. -/
theorem lowercase_eq_iff {s t : String} (hs : IsAscii s) (ht : IsAscii t) :
    lowercase s = lowercase t ↔ sameIgnoringAsciiCase s t = true := by
  rw [lowercase_eq_ofList hs, lowercase_eq_ofList ht, String.ofList_inj, sameIgnoringAsciiCase,
    beq_iff_eq]

end Text

open Text (IsAscii)

/-! ### Names -/

/-- How the name of an element ends that answers a command. -/
def answerElementEnding : String := "Response"

theorem isAscii_answerElementEnding : IsAscii answerElementEnding := by
  have each : answerElementEnding.toList.all Text.isAscii = true := by decide
  exact List.all_eq_true.mp each

/-- An answer stands under the name of its element. -/
theorem responseProperty_eq {command : String} (h : IsAscii command) :
    responseProperty command = Text.lowercase (command ++ answerElementEnding) := by
  -- the ending is small already where it is put last
  have ending : answerElementEnding.toList.map Text.asciiSmall = answerEnding.toList := rfl
  rw [Text.lowercase_eq_ofList (h.append isAscii_answerElementEnding), String.toList_append,
    List.map_append, ending, String.ofList_append, String.ofList_toList, responseProperty,
    Text.lowercase_eq_ofList h]

/-! ### Results -/

/-- A result does not depend on what the reply was asked before. -/
theorem HeldReply.result_askAll (raw : RawReply) (command : String) (format : Format)
    (questions : List Question) (scheme : ErrorScheme) :
    ((ofRaw raw command format).askAll questions).2.result scheme =
      (Reply.ofRaw raw command format).result scheme := by
  have asked := tells_askAll (faithful_ofRaw raw command format) questions
  rw [result_eq asked.faithful, asked.reply]
  rfl

/-- With a status of success the result is what stands under the name of the answer. -/
theorem Reply.result_of_success {r : Reply} (h : 200 ≤ r.raw.status ∧ r.raw.status ≤ 299)
    (scheme : ErrorScheme) : r.result scheme = .ok r.answer? := by
  rw [Reply.result, Reply.check_eq, if_pos h]
  rfl

namespace Markup

/-- The text can be read to its end, every element in it is closed, and there is one outermost
element. -/
def IsDocument (s : String) : Prop :=
  ∃ es, events (withoutMark s.toList) = some es ∧ depthAfter 0 es = some 0 ∧
    (outermost 0 es).length = 1

/-- The text can be read to its end, every element in it is closed, and the last outermost one has
this name. -/
def EndsIn (s root : String) : Prop :=
  ∃ es, events (withoutMark s.toList) = some es ∧ depthAfter 0 es = some 0 ∧
    (outermost 0 es).getLast? = some root

/-- The text of content ends in the name of its last element. -/
theorem endsIn_of_last {s : String} {doc inside : Content} {root : String}
    (read : events (withoutMark s.toList) = some doc.events)
    (last : doc.elements.getLast? = some (root, inside)) : EndsIn s root := by
  refine ⟨doc.events, read, closed_events doc, ?_⟩
  rw [outermost_eq_map_fst, List.getLast?_map, last]
  rfl

/-- A body answers the command that its last element is named after, and no other. -/
theorem answer?_of_last {raw : RawReply} {doc inside : Content} {root : String}
    (read : events (withoutMark raw.body.toList) = some doc.events)
    (last : doc.elements.getLast? = some (root, inside)) (command : String) :
    (Reply.ofRaw raw command .xml).answer? =
      if Text.lowercase root = responseProperty command then some (inside.reading root)
      else none := by
  rw [Reply.answer?, document?_of_last read last]
  rfl

/-- A body without an element answers nothing. -/
theorem answer?_of_not_holdsElement {raw : RawReply} (h : ¬HoldsElement raw.body)
    (command : String) : (Reply.ofRaw raw command .xml).answer? = none := by
  rw [Reply.answer?, document?_of_not_holdsElement h]
  rfl

/-- A body answers nothing exactly if it does not end in an element that is named after the
command. -/
theorem answer?_eq_none_iff {raw : RawReply} {command : String} :
    (Reply.ofRaw raw command .xml).answer? = none ↔
      ∀ root, EndsIn raw.body root → Text.lowercase root ≠ responseProperty command := by
  constructor
  · rintro none root ⟨es, read, closed, last⟩ same
    -- the last element is one of content that has these events
    obtain ⟨doc, rfl⟩ := exists_events_eq closed
    rw [outermost_eq_map_fst, List.getLast?_map] at last
    obtain ⟨⟨_, inside⟩, found, rfl⟩ := Option.map_eq_some_iff.mp last
    rw [answer?_of_last read found, if_pos same] at none
    cases none
  · intro others
    -- a body that holds an element is content, and its last element is another one
    by_cases holds : HoldsElement raw.body
    · obtain ⟨es, read, closed, some⟩ := holds
      obtain ⟨doc, rfl⟩ := exists_events_eq closed
      rw [outermost_eq_map_fst, ne_eq, List.map_eq_nil_iff] at some
      have last := List.getLast?_eq_some_getLast some
      rw [answer?_of_last read last, if_neg (others _ (endsIn_of_last read last))]
    · exact answer?_of_not_holdsElement holds command

/-- With a status of success, a body answers a command exactly if its last outermost element is
named after the command, and then with the value of that element; what stands before it is lost. So
a document, which has one root, is the answer to a command exactly if the root is named after it,
the case of letters aside; and a body that holds no element or leaves one open answers nothing. The
names in small letters agree wherever they are made: of the command when the reply is taken and
when its answer is looked for, and of the root when the body is read. -/
theorem last_root_answers_namesake {raw : RawReply} {command : String}
    (success : 200 ≤ raw.status ∧ raw.status ≤ 299) (hc : IsAscii command)
    (questions : List Question) (scheme : ErrorScheme) :
    let result := ((HeldReply.ofRaw raw command .xml).askAll questions).2.result scheme
    (∀ (doc inside : Content) (root : String),
      events (withoutMark raw.body.toList) = some doc.events →
      doc.elements.getLast? = some (root, inside) →
      result = .ok
        (if Text.lowercase root = responseProperty command then some (inside.reading root)
        else none)) ∧
    (∀ (doc inside : Content) (root : String), IsAscii root →
      events (withoutMark raw.body.toList) = some doc.events →
      doc.elements = [(root, inside)] →
      result = .ok
        (if Text.sameIgnoringAsciiCase root (command ++ "Response") then
          some (inside.reading root)
        else none)) ∧
    (result = .ok none ↔
      ∀ root, EndsIn raw.body root → Text.lowercase root ≠ responseProperty command) ∧
    (¬HoldsElement raw.body → result = .ok none) ∧
    (Reply.ofRaw raw command .xml).property = responseProperty command ∧
    ∀ root, IsAscii root →
      (Text.lowercase root = responseProperty command ↔
        Text.sameIgnoringAsciiCase root (command ++ "Response") = true) := by
  intro result
  -- what was asked before does not matter, and success leaves only the answer
  have answered : result = .ok (Reply.ofRaw raw command .xml).answer? :=
    (HeldReply.result_askAll raw command .xml questions scheme).trans
      (Reply.result_of_success success scheme)
  -- in ASCII it does not matter when the letters are made small
  have named : ∀ root, IsAscii root → (Text.lowercase root = responseProperty command ↔
      Text.sameIgnoringAsciiCase root (command ++ "Response") = true) := by
    intro root hr
    rw [responseProperty_eq hc]
    exact Text.lowercase_eq_iff hr (hc.append isAscii_answerElementEnding)
  have decided (doc inside : Content) (root : String)
      (read : events (withoutMark raw.body.toList) = some doc.events)
      (last : doc.elements.getLast? = some (root, inside)) :
      result = .ok
        (if Text.lowercase root = responseProperty command then some (inside.reading root)
        else none) := by
    rw [answered, answer?_of_last read last]
  refine ⟨decided, ?_, ?_, ?_, rfl, named⟩
  · -- one root is the last one
    intro doc inside root hr read single
    rw [decided doc inside root read (by rw [single]; rfl)]
    simp only [named root hr]
  · rw [answered, Except.ok.injEq]
    exact answer?_eq_none_iff
  · intro none
    rw [answered, answer?_of_not_holdsElement none]

/-! A reply about regions, taken for a reply to that command and to another one, without its body,
and with an element before the answer. -/

private def regionsReply : RawReply :=
  { status := 200, body := "<?v?><DescribeRegionsResponse>x</DescribeRegionsResponse>" }

private def regionsInside : Content := .aside (.text "x") .nil

private def regionsDocument : Content :=
  .aside .other (.element "DescribeRegionsResponse" regionsInside .nil)

private def regionsAfterAnother : RawReply :=
  { status := 200, body := "<a>x</a><DescribeRegionsResponse>x</DescribeRegionsResponse>" }

private def regionsAfterAnotherElement : Content :=
  .element "a" regionsInside (.element "DescribeRegionsResponse" regionsInside .nil)

private theorem isAscii_of_all {s : String} (h : s.toList.all Text.isAscii = true) : IsAscii s :=
  List.all_eq_true.mp h

theorem regions_answer_their_command :
    ((HeldReply.ofRaw regionsReply "describeREGIONS" .xml).askAll [.errorData]).2.result
      (.generic .aws) = .ok (some (.text "x")) ∧
    (HeldReply.ofRaw regionsReply "DescribeRegion" .xml).result (.generic .aws) = .ok none ∧
    (HeldReply.ofRaw { regionsReply with body := "" } "DescribeRegions" .xml).result
      (.generic .aws) = .ok none ∧
    (HeldReply.ofRaw regionsAfterAnother "DescribeRegions" .xml).result (.generic .aws) =
      .ok (some (.text "x")) := by
  have root : IsAscii "DescribeRegionsResponse" := isAscii_of_all (by decide)
  have read : events (withoutMark regionsReply.body.toList) = some regionsDocument.events := rfl
  have empty : Format.xml.parse "" = none := rfl
  refine ⟨?_, ?_, ?_, ?_⟩
  · exact (last_root_answers_namesake ⟨by decide, by decide⟩
      (isAscii_of_all (by decide)) [.errorData] (.generic .aws)).2.1
      regionsDocument regionsInside _ root read rfl
  · exact (last_root_answers_namesake ⟨by decide, by decide⟩
      (isAscii_of_all (by decide)) [] (.generic .aws)).2.1
      regionsDocument regionsInside _ root read rfl
  · refine (last_root_answers_namesake ⟨by decide, by decide⟩
      (isAscii_of_all (by decide)) [] (.generic .aws)).2.2.2.1 fun holds => ?_
    rw [← isSome_parse_iff, empty] at holds
    exact nomatch holds
  · have read' : events (withoutMark regionsAfterAnother.body.toList) =
        some regionsAfterAnotherElement.events := rfl
    exact (last_root_answers_namesake ⟨by decide, by decide⟩
      (isAscii_of_all (by decide)) [] (.generic .aws)).1
      regionsAfterAnotherElement regionsInside _ read' rfl

/-- It is not so that a body answers nothing if it is no document: another element may stand before
the answer. -/
theorem regions_after_another_element_are_answer :
    ¬IsDocument regionsAfterAnother.body ∧
    (∀ scheme, (HeldReply.ofRaw regionsAfterAnother "DescribeRegions" .xml).result scheme =
      .ok (some (.text "x"))) ∧
    ¬∀ (raw : RawReply) (command : String), 200 ≤ raw.status ∧ raw.status ≤ 299 →
      IsAscii command → ¬IsDocument raw.body →
      ∀ scheme, (HeldReply.ofRaw raw command .xml).result scheme = .ok none := by
  have read : events (withoutMark regionsAfterAnother.body.toList) =
      some regionsAfterAnotherElement.events := rfl
  -- there are two outermost elements
  have two : ¬IsDocument regionsAfterAnother.body := by
    rintro ⟨es, read', _, one⟩
    cases read.symm.trans read'
    exact absurd one (by decide)
  have named : Text.lowercase "DescribeRegionsResponse" = responseProperty "DescribeRegions" := rfl
  have answers (scheme : ErrorScheme) :
      (HeldReply.ofRaw regionsAfterAnother "DescribeRegions" .xml).result scheme =
        .ok (some (.text "x")) := by
    have result := (HeldReply.result_askAll regionsAfterAnother "DescribeRegions" .xml []
      scheme).trans (Reply.result_of_success ⟨by decide, by decide⟩ scheme)
    rw [answer?_of_last read rfl, if_pos named] at result
    exact result
  refine ⟨two, answers, fun claimed => ?_⟩
  have nothing := claimed regionsAfterAnother "DescribeRegions" ⟨by decide, by decide⟩
    (isAscii_of_all (by decide)) two (.generic .aws)
  rw [answers] at nothing
  cases nothing

end Markup

end CloudApi
