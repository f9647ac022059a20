/-
The markup of an HTML page: its tags, the text between them, and comments.

Hardly anything is refused. A tag that never ends, or a reference that the
page ends in, is plain text; the content of scripts and style sheets is not
looked at for tags. Only a marked section has to say what it is, and a number
must not be too long.
-/
import LogQuery.Html.Reference
import LogQuery.Text.Blank
import LogQuery.Text.Lowercase
import LogQuery.Text.Quoted

namespace LogQuery.Html

open Text

/-- A piece of a page. `selfClosing` marks a tag that ends in `/>`. A
`divider` stands for a comment or a declaration: it says nothing, but text
before it and text after it are two texts. So are what a `section` of
characters says and the texts around it. -/
inductive Markup where
  | opening (name : String) (selfClosing : Bool)
  | closing (name : String)
  | text (chars : List Char)
  | section (chars : List Char)
  | divider
deriving DecidableEq, Repr

/-- Why a page is refused. -/
inductive Refusal where
  /-- A marked section has no name; how it starts. -/
  | noSectionName (start : String)
  | unknownSection (name : String)
  /-- A number has too many digits. -/
  | tooLong (digits : Nat)
deriving DecidableEq, Repr

/-- The report of a refused page. -/
def Refusal.message : Refusal → String
  | noSectionName start => refused ("expected name token at " ++ quoted start)
  | unknownSection name =>
    refused ("unknown status keyword " ++ quoted name ++ " in marked section")
  | tooLong digits => Whole.tooLongText (some digits)
where
  /-- A report with its reason. -/
  refused (reason : String) : String :=
    "The markup you provided was rejected by the parser. Trying a different "
      ++ "parser or a different encoding may help.\n\n"
      ++ "Original error(s) from parser:\n  AssertionError: " ++ reason

namespace Markup

/-- A construct that starts with `<`: its pieces and what follows it. It is
unfinished if the page ends within it. -/
inductive Construct where
  | found (pieces : List Markup) (rest : List Char)
  | unfinished
  | refused (r : Refusal)

/-- A construct of one piece with what follows it, if it is finished. -/
def Construct.of (piece : Markup) (rest? : Option (List Char)) : Construct :=
  match rest? with
  | some rest => found [piece] rest
  | none => unfinished

/-- The text up to `mark`, and what follows it. -/
def splitAt? (mark : List Char) : List Char → Option (List Char × List Char)
  | [] => none
  | c :: cs =>
    if mark.isPrefixOf (c :: cs) then some ([], (c :: cs).drop mark.length)
    else (splitAt? mark cs).map fun x => (c :: x.1, x.2)

-- ================================================================ start tags

/-- Characters of tag names. -/
def isTagChar (c : Char) : Bool :=
  ['\t', '\n', '\r', '\u000C', ' ', '/', '>', '\u0000'].all (c ≠ ·)

/-- White space, and slashes that do not end a tag. -/
def tagGap : List Char → Nat
  | [] => 0
  | '/' :: '>' :: _ => 0
  | c :: cs => if c = '/' || isBlank c then tagGap cs + 1 else 0

/-- A value that is not in quotation marks. -/
def bareValue (cs : List Char) : List Char :=
  cs.takeWhile fun c => c ≠ '>' && !isBlank c

/-- How many characters the value of an attribute takes after its name, with
the equals signs. A quotation mark that is not closed starts no value: white
space before it ends an empty one, or the last of several equals signs starts
one. -/
def attributeValue (cs : List Char) : Nat :=
  let skipped := (cs.takeWhile isBlank).length
  let signs := ((cs.drop skipped).takeWhile (· = '=')).length
  let gap := ((cs.drop (skipped + signs)).takeWhile isBlank).length
  let before := skipped + signs + gap
  let rest := cs.drop before
  let quote? := rest.head?.filter fun c => c = '\'' || c = '"'
  let quotedLength? := quote?.bind fun quote =>
    let value := (rest.drop 1).takeWhile (· ≠ quote)
    if value.length + 1 = rest.length then none else some (value.length + 2)
  if signs = 0 then 0
  else
    match quote?, quotedLength? with
    | none, _ => before + (bareValue rest).length
    | some _, some n => before + n
    | some _, none =>
      if gap ≠ 0 then before - 1
      else if signs = 1 then 0
      else before - 1 + (bareValue (cs.drop (before - 1))).length

/-- Characters behind which an attribute may start. -/
def endsPart (c : Char) : Bool := c = '\'' || c = '"' || c = '/' || isBlank c

/-- The rest of a start tag. -/
inductive TagRest where
  | closed (selfClosing : Bool) (rest : List Char)
  | unfinished
  /-- Something follows that can not stand in a tag. -/
  | foreign (rest : List Char)

/-- The rest of a start tag that comes after `last`. -/
def tagRest (last : Char) : Nat → List Char → TagRest
  | 0, _ => .unfinished
  | fuel + 1, cs =>
    let gap := tagGap cs
    match cs.drop gap with
    | [] => .unfinished
    | '>' :: rest => .closed false rest
    | '/' :: '>' :: rest => .closed true rest
    | c :: more =>
      if gap = 0 && !endsPart last then
        if c = '=' || c.isAlpha then .unfinished else .foreign (c :: more)
      else
        let name := more.takeWhile fun c =>
          c ≠ '/' && c ≠ '=' && c ≠ '>' && !isBlank c
        let value := attributeValue (more.drop name.length)
        let length := 1 + name.length + value
        let part := (c :: more).take length
        tagRest (part.getLast?.getD c) fuel ((c :: more).drop length)

/-- A start tag after its `<`. -/
def startTag (cs : List Char) : Construct :=
  let name := cs.takeWhile isTagChar
  let after := cs.drop name.length
  match tagRest (name.getLast?.getD '<') cs.length.succ after with
  | .closed selfClosing rest =>
    .found [opening (lower (String.ofList name)) selfClosing] rest
  | .unfinished => .unfinished
  | .foreign rest =>
    .found [text ('<' :: cs.take (cs.length - rest.length))] rest

-- ================================================================= end tags

/-- Characters of the names of exact end tags. -/
def isEndTagChar (c : Char) : Bool :=
  c.isAlphanum || ['-', '.', ':', '_'].contains c

/-- An end tag that holds nothing but a name, after its `</`. -/
def exactEndTag? (cs : List Char) : Option (List Char × List Char) :=
  let start := cs.dropWhile isBlank
  let name := start.takeWhile isEndTagChar
  match (start.drop name.length).dropWhile isBlank with
  | '>' :: rest =>
    if name.head?.any (·.isAlpha) then some (name, rest) else none
  | _ => none

/-- An end tag after its `</`. -/
def endTag (cs : List Char) : Construct :=
  match exactEndTag? cs, splitAt? ['>'] cs with
  | _, none => .unfinished
  | some (name, rest), _ => .found [closing (lower (String.ofList name))] rest
  | none, some (before, after) =>
    if cs.head?.any (·.isAlpha) then
      let name := cs.takeWhile isTagChar
      .of (closing (lower (String.ofList name)))
        ((splitAt? ['>'] (cs.drop name.length)).map (·.2))
    else .found (if before.isEmpty then [] else [divider]) after

-- ================================================ comments and declarations

/-- What follows a comment, after its `<!--`. White space may stand before the
closing angle bracket. -/
def afterComment? : List Char → Option (List Char)
  | [] => none
  | c :: cs =>
    let ended :=
      match c, cs with
      | '-', '-' :: more =>
        match more.dropWhile isBlank with
        | '>' :: rest => some rest
        | _ => none
      | _, _ => none
    match ended with
    | some rest => some rest
    | none => afterComment? cs

/-- The end of a marked section, one or two brackets and an angle bracket:
what stands before it and what follows it. -/
def sectionEnd? (double : Bool) :
    List Char → Option (List Char × List Char)
  | [] => none
  | c :: cs =>
    let ended :=
      if c ≠ ']' then none
      else
        match double, cs.dropWhile isBlank with
        | false, '>' :: rest => some rest
        | true, ']' :: more =>
          match more.dropWhile isBlank with
          | '>' :: rest => some rest
          | _ => none
        | _, _ => none
    match ended with
    | some rest => some ([], rest)
    | none => (sectionEnd? double cs).map fun x => (c :: x.1, x.2)

/-- Marked sections that end with two brackets. -/
def doubleSections : List String :=
  ["temp", "cdata", "ignore", "include", "rcdata"]

/-- Marked sections that end with one bracket. -/
def singleSections : List String := ["if", "else", "endif"]

/-- Characters of the names of marked sections. -/
def isSectionChar (c : Char) : Bool :=
  c.isAlphanum || c = '-' || c = '_' || c = '.'

/-- A marked section with its content. That of a `CDATA` section is text. -/
def sectionOf (content : List Char) : Markup :=
  if lower (String.ofList (content.take 6)) = "cdata[" then
    .section (content.drop 6)
  else divider

/-- A marked section after its `<![`. -/
def markedSection (cs : List Char) : Construct :=
  let word := cs.takeWhile isSectionChar
  let blanks := (cs.drop word.length).takeWhile isBlank
  let name := lower (String.ofList word)
  let isDouble := doubleSections.contains name
  if cs.isEmpty then .unfinished
  else if !cs.head?.any (·.isAlpha) then
    .refused (.noSectionName (String.ofList ("<![".toList ++ cs.take 17)))
  else if word.length + blanks.length = cs.length then .unfinished
  else if isDouble || singleSections.contains name then
    match sectionEnd? isDouble cs with
    | some (content, rest) => .found [sectionOf content] rest
    | none => .unfinished
  else .refused (.unknownSection (String.ofList (word ++ blanks)))

/-- What starts with `<` and ends with the next `>`. -/
def declaration (cs : List Char) : Construct :=
  .of divider ((splitAt? ['>'] cs).map (·.2))

-- ================================================================== content

/-- Elements whose content is no markup. -/
def rawElements : List String := ["script", "style"]

/-- What follows an end tag of this name at the start of the text. -/
def afterEndTag? (name : String) : List Char → Option (List Char)
  | '<' :: '/' :: cs =>
    match exactEndTag? cs with
    | some (found, rest) =>
      if lower (String.ofList found) = name then some rest else none
    | none => none
  | _ => none

/-- The content of a raw element after its start tag, and what follows its
end tag. -/
def rawContent? (name : String) :
    List Char → Option (List Char × List Char)
  | [] => none
  | c :: cs =>
    match afterEndTag? name (c :: cs) with
    | some rest => some ([], rest)
    | none => (rawContent? name cs).map fun x => (c :: x.1, x.2)

/-- What stands after `<`. -/
def construct (cs : List Char) : Construct :=
  match cs with
  | '/' :: rest => endTag rest
  | '!' :: '-' :: '-' :: rest => .of divider (afterComment? rest)
  | '?' :: rest => declaration rest
  | '!' :: '[' :: rest => markedSection rest
  | '!' :: rest => declaration rest
  | c :: _ =>
    if c.isAlpha then startTag cs else .found [text ['<']] cs
  | [] => .unfinished

/-- An unfinished construct is text, up to the next angle bracket. -/
def unfinished (cs : List Char) : List Char × List Char :=
  match splitAt? ['>'] cs with
  | some (before, rest) => ('<' :: before ++ ['>'], rest)
  | none =>
    let before := cs.takeWhile (· ≠ '<')
    if before.length = cs.length then (['<'], cs)
    else ('<' :: before, cs.drop before.length)

/-- Pieces with others after them. -/
def followed (found : List Markup) (more : Except Refusal (List Markup)) :
    Except Refusal (List Markup) :=
  more.map (found ++ ·)

/-- The pieces of a page. The first time that the page seems to end within a
construct or a reference, reading goes on behind it (`again`); the second
time the rest is text. `fuel` bounds the number of pieces. -/
def pieces (again : Bool) : Nat → List Char → Except Refusal (List Markup)
  | 0, _ => .ok []
  | fuel + 1, cs =>
    match cs with
    | [] => .ok []
    | '<' :: rest =>
      match construct rest with
      | .refused r => .error r
      | .found [opening name false] rest =>
        if rawElements.contains name then
          match rawContent? name rest with
          | some (content, rest) =>
            followed [opening name false, text content, closing name]
              (pieces again fuel rest)
          | none => .ok [opening name false]
        else followed [opening name false] (pieces again fuel rest)
      | .found found rest => followed found (pieces again fuel rest)
      | .unfinished =>
        if rest.isEmpty then .ok [text ['<']]
        else
          let (chars, rest) := unfinished rest
          followed [text chars] (pieces false fuel rest)
    | '&' :: rest =>
      match Reference.ofChars rest with
      | .found chars rest => followed [text chars] (pieces again fuel rest)
      | .literal chars rest =>
        if chars = ['&'] then followed [text chars] (pieces again fuel rest)
        else if again then followed [text chars] (pieces false fuel rest)
        else .ok [text chars, text rest]
      | .tooLong digits => .error (.tooLong digits)
      | .unfinished =>
        match rest with
        | [c] => .ok [text (if c.isAlpha then [c] else '&' :: rest)]
        | _ => .ok [text ('&' :: rest)]
    | _ =>
      let chars := cs.takeWhile fun c => c ≠ '<' && c ≠ '&'
      followed [text chars] (pieces again fuel (cs.drop chars.length))

/-- The pieces of a page. -/
def ofText (page : String) : Except Refusal (List Markup) :=
  pieces true (page.length + 1) page.toList

end Markup

end LogQuery.Html
