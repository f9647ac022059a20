/-
Definitions of styles.

A style has a name, or it is defined by words: attributes such as `bold`, which
`not` takes away again, a color, a color behind the word `on`, and an address
behind the word `link`. Capital letters count as small ones where a definition
starts or goes on.
-/
import LogQuery.Style.Color
import LogQuery.Text.Blank

namespace LogQuery

open Text

/-- What one part of a definition asks for. -/
inductive StylePart where
  | attribute (name : String) (isOn : Bool)
  | foreground (c : Color)
  | background (c : Color)
  | link (address : String)
deriving DecidableEq, Repr

/-- A style: one of those that have names, or what its definition asks for. -/
inductive Style where
  | named (name : String)
  | defined (parts : List StylePart)
deriving DecidableEq, Repr

namespace Style

-- =================================================================== names

/-- The attributes with their abbreviations. -/
def attributes : List String := [
  "dim", "d", "bold", "b", "italic", "i", "underline", "u", "blink", "blink2",
  "reverse", "r", "conceal", "c", "strike", "s", "underline2", "uu", "frame",
  "encircle", "overline", "o"]

/-- The styles that have names, as far as these are no definitions. -/
def names : List String := [
  "reset", "bright", "strong", "code", "emphasize", "inspect.attr",
  "inspect.attr.dunder", "inspect.callable", "inspect.async_def", "inspect.def",
  "inspect.class", "inspect.error", "inspect.equals", "inspect.help",
  "inspect.doc", "inspect.value.border", "live.ellipsis", "layout.tree.row",
  "layout.tree.column", "logging.keyword", "logging.level.notset",
  "logging.level.debug", "logging.level.info", "logging.level.warning",
  "logging.level.error", "logging.level.critical", "log.level", "log.time",
  "log.message", "log.path", "repr.ellipsis", "repr.indent", "repr.error",
  "repr.str", "repr.brace", "repr.comma", "repr.ipv4", "repr.ipv6",
  "repr.eui48", "repr.eui64", "repr.tag_start", "repr.tag_name",
  "repr.tag_contents", "repr.tag_end", "repr.attrib_name", "repr.attrib_equal",
  "repr.attrib_value", "repr.number", "repr.number_complex", "repr.bool_true",
  "repr.bool_false", "repr.none", "repr.url", "repr.uuid", "repr.call",
  "repr.path", "repr.filename", "rule.line", "rule.text", "json.brace",
  "json.bool_true", "json.bool_false", "json.null", "json.number", "json.str",
  "json.key", "prompt", "prompt.choices", "prompt.default", "prompt.invalid",
  "prompt.invalid.choice", "pretty", "scope.border", "scope.key",
  "scope.key.special", "scope.equals", "table.header", "table.footer",
  "table.cell", "table.title", "table.caption", "traceback.error",
  "traceback.border.syntax_error", "traceback.border", "traceback.text",
  "traceback.title", "traceback.exc_type", "traceback.exc_value",
  "traceback.offset", "traceback.note", "traceback.group.border", "bar.back",
  "bar.complete", "bar.finished", "bar.pulse", "progress.description",
  "progress.filesize", "progress.filesize.total", "progress.download",
  "progress.elapsed", "progress.percentage", "progress.remaining",
  "progress.data.speed", "progress.spinner", "status.spinner", "tree",
  "tree.line", "markdown.paragraph", "markdown.text", "markdown.em",
  "markdown.emph", "markdown.strong", "markdown.code", "markdown.code_block",
  "markdown.block_quote", "markdown.list", "markdown.item",
  "markdown.item.bullet", "markdown.item.number", "markdown.hr",
  "markdown.h1.border", "markdown.h1", "markdown.h2", "markdown.h3",
  "markdown.h4", "markdown.h5", "markdown.h6", "markdown.h7", "markdown.link",
  "markdown.link_url", "markdown.s", "markdown.table.header",
  "markdown.table.border", "iso8601.date", "iso8601.time", "iso8601.timezone"]

-- ================================================================== errors

/-- Why a text defines no style. -/
inductive Fault where
  /-- A word is no color. -/
  | noForeground (word : String) (e : Color.Fault)
  | noBackground (word : String) (e : Color.Fault)
  /-- Nothing follows `on`. -/
  | missingBackground
  /-- No attribute follows `not`. -/
  | noAttribute (word : String)
  /-- Nothing follows `link`. -/
  | missingAddress
deriving DecidableEq, Repr

/-- Whether the words of a definition are at fault, and not the digits of a
color. -/
def Fault.isOfWords : Fault → Bool
  | noForeground _ (.badPart ..) | noBackground _ (.badPart ..) => false
  | _ => true

/-- What is wrong with a definition. -/
def Fault.reason : Fault → String
  | noForeground word e =>
    "unable to parse " ++ quoted word ++ " as color; " ++ e.message
  | noBackground word e =>
    "unable to parse " ++ quoted word ++ " as background color; " ++ e.message
  | missingBackground => "color expected after 'on'"
  | noAttribute word =>
    "expected style attribute after 'not', found " ++ quoted word
  | missingAddress => "URL expected after 'link'"

/-- The report of a text that defines no style. -/
def Fault.message (text : String) : Fault → String
  | noForeground _ (.badPart part e) | noBackground _ (.badPart part e) =>
    (Color.Fault.badPart part e).message
  | e => "Failed to get style " ++ quoted text ++ "; " ++ e.reason

-- ================================================================= reading

/-- The parts that words ask for. -/
def partsOf : List String → Except Fault (List StylePart)
  | [] => .ok []
  | first :: words =>
    match lower first, words with
    | "on", [] => .error .missingBackground
    | "on", word :: words => do
      let color ← (Color.ofWord word).mapError (.noBackground word)
      return .background color :: (← partsOf words)
    | "not", [] => .error (.noAttribute "")
    | "not", word :: words =>
      if attributes.contains word then do
        return .attribute word false :: (← partsOf words)
      else .error (.noAttribute word)
    | "link", [] => .error .missingAddress
    | "link", address :: words => do
      return .link address :: (← partsOf words)
    | word, words =>
      if attributes.contains word then do
        return .attribute word true :: (← partsOf words)
      else do
        let color ← (Color.ofWord word).mapError (.noForeground word)
        return .foreground color :: (← partsOf words)

/-- The words of a text, between white space. -/
def wordsOf (s : String) : List String :=
  ((s.toList.splitOnP isBlank).filter (!·.isEmpty)).map String.ofList

/-- The style that a text names or defines. The word `none` alone asks for
nothing. -/
def ofText (s : String) : Except Fault Style :=
  if names.contains s then .ok (.named s)
  else if trim s = "none" then .ok (.defined [])
  else (partsOf (wordsOf s)).map .defined

end Style

end LogQuery
