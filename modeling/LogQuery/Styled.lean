/-
Styled text: plain text and the spans of it that have a style.

Some control characters would disturb a terminal and are left out of the
plain text. Spans are added by the offsets of whoever adds them; what lies
past the end of the plain text is cut off.
-/
import LogQuery.Fragment

namespace LogQuery

/-- A span with a style. -/
structure StyledSpan where
  span : Span
  style : String
deriving DecidableEq, Repr

/-- Plain text and styled spans, in the order in which they were added. -/
structure Styled where
  plain : String
  spans : List StyledSpan
deriving DecidableEq, Repr

namespace Styled

/-- Control characters that are left out: bell, backspace, vertical tab,
form feed and carriage return. -/
def isDropped (c : Char) : Bool :=
  ['\u0007', '\u0008', '\u000B', '\u000C', '\r'].contains c

/-- Text without any style. -/
def ofText (s : String) : Styled :=
  ⟨String.ofList (s.toList.filter fun c => !isDropped c), []⟩

/-- Gives a style to a span. -/
def stylize (t : Styled) (style : String) (span : Span) : Styled :=
  let length : Int := t.plain.length
  if length ≤ span.start || span.stop ≤ span.start then t
  else
    let clipped : Span := ⟨span.start, min length span.stop⟩
    { t with spans := t.spans ++ [⟨clipped, style⟩] }

end Styled

end LogQuery
