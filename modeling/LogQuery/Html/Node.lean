/-
The elements of an HTML page.

No element is closed by what follows it: an element stays open until its own
end tag, the end tag of an element around it, or the end of the page. An end
tag with no open element is ignored. Void elements are closed at once.
-/
import LogQuery.Html.Markup

namespace LogQuery.Html

open Text

/-- A text or an element. Text in scripts, style sheets and the like is
hidden: it is no part of the text of an element around it. -/
inductive Node where
  | text (chars : List Char) (hidden : Bool)
  | element (name : String) (children : List Node)

namespace Node

-- ================================================================== reading

/-- Elements that hold nothing. -/
def voidElements : List String :=
  ["area", "base", "br", "col", "embed", "hr", "img", "input", "keygen",
    "link", "menuitem", "meta", "param", "source", "track", "wbr",
    "basefont", "bgsound", "command", "frame", "image", "isindex", "nextid",
    "spacer"]

/-- Elements whose text is hidden. -/
def hidingElements : List String :=
  ["rt", "rp", "style", "script", "template"]

/-- An open element and its children so far, last first. -/
structure Open where
  name : String
  children : List Node

/-- A page that is being read: the open elements, innermost first, around
which lies the page itself, the text just read, and the void elements that
were closed without an end tag. -/
structure Page where
  elements : List Open
  top : List Node
  chars : List Char
  closedVoids : List String

namespace Page

/-- Adds a node to the innermost open element. -/
def add (p : Page) (n : Node) : Page :=
  match p.elements with
  | [] => { p with top := n :: p.top }
  | e :: es =>
    { p with elements := { e with children := n :: e.children } :: es }

/-- Ends the text that is being read. -/
def endText (p : Page) : Page :=
  if p.chars.isEmpty then p
  else
    let hidden := p.elements.any fun e => hidingElements.contains e.name
    { p.add (.text p.chars hidden) with chars := [] }

/-- Opens an element. -/
def openElement (p : Page) (name : String) : Page :=
  { p with elements := ⟨name, []⟩ :: p.elements }

/-- Closes the innermost open element. -/
def closeOne (p : Page) : Page :=
  match p.elements with
  | [] => p
  | e :: es =>
    { p with elements := es }.add (.element e.name e.children.reverse)

/-- Closes the innermost open element of this name and all inside it. -/
def close (p : Page) (name : String) : Page :=
  if p.elements.any (·.name = name) then
    let depth := (p.elements.takeWhile (·.name ≠ name)).length + 1
    depth.repeat closeOne p
  else p

/-- An end tag. A void element that was closed before is not closed
again. -/
def closing (p : Page) (name : String) : Page :=
  if p.closedVoids.contains name then
    { p with closedVoids := p.closedVoids.erase name }
  else p.endText.close name

/-- The page after a piece of markup. -/
def read (p : Page) : Markup → Page
  | .opening name selfClosing =>
    let p := p.endText.openElement name
    if selfClosing then p.closing name
    else if voidElements.contains name then
      { p.close name with closedVoids := p.closedVoids ++ [name] }
    else p
  | .closing name => p.closing name
  | .text chars => { p with chars := p.chars ++ chars }
  | .section chars => p.endText.add (.text chars false)
  | .divider => p.endText

/-- The nodes of a page that has been read. -/
def finish (p : Page) : List Node :=
  let p := p.endText
  (p.elements.length.repeat closeOne p).top.reverse

end Page

/-- The nodes of a page. -/
def ofText (page : String) : Except Refusal (List Node) :=
  (Markup.ofText page).map fun pieces =>
    (pieces.foldl Page.read ⟨[], [], [], []⟩).finish

-- ================================================================== asking

mutual

/-- The elements of these names that a node is or has inside, in the order in
which they start. -/
def found (names : List String) : Node → List Node
  | .text .. => []
  | .element name children =>
    (if names.contains name then [.element name children] else [])
      ++ among names children

/-- The elements of these names among nodes and inside them. -/
def among (names : List String) : List Node → List Node
  | [] => []
  | n :: ns => found names n ++ among names ns

end

/-- The elements of these names inside a node. -/
def inside (names : List String) : Node → List Node
  | .text .. => []
  | .element _ children => among names children

mutual

/-- The texts of a node that are neither hidden nor blank, trimmed. -/
def texts : Node → List String
  | .text chars hidden =>
    let trimmed := trimList chars
    if hidden || trimmed.isEmpty then [] else [String.ofList trimmed]
  | .element _ children => textsOf children

/-- The texts of several nodes. -/
def textsOf : List Node → List String
  | [] => []
  | n :: ns => n.texts ++ textsOf ns

end

end Node

end LogQuery.Html
