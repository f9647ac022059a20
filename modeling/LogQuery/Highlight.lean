/-
Painting a query: the query as text in which every token has the style of
its category.
-/
import LogQuery.Styled
import LogQuery.Token.Classify

namespace LogQuery

/-- Styles by the name of a category. Names of no category change nothing. -/
abbrev Styles := List (String × String)

/-- The style of a category unless another one is asked for. -/
def Category.style : Category → String
  | function => "bold #87AFFF"
  | operator => "bold #FF5F5F"
  | filterKey => "bold #87D7FF"
  | argKey => "#87D7FF"
  | value => "#D7AF5F"
  | regex => "#00D7AF"
  | comment => "italic #808080"
  | plain => ""

namespace Styles

/-- The style of a category: the one asked for, or its own. -/
def style (styles : Styles) (c : Category) : String :=
  (styles.lookup c.name).getD c.style

end Styles

/-- Paints tokens onto a text. Nothing is painted for the empty style. -/
def paint (styles : Styles) (tokens : List Token) (text : Styled) : Styled :=
  tokens.foldl (fun text t =>
    let style := Styles.style styles t.category
    if style = "" then text else text.stylize style t.span) text

/-- The painted query. -/
def highlight (v : Vocabulary) (styles : Styles) (query : String) : Styled :=
  paint styles (tokens v query) (.ofText query)

end LogQuery
