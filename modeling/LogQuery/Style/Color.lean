/-
Colors, as styles name them.

A color has a name, or a number in the palette of the terminal, or it is mixed
of red, green and blue, which are given in hexadecimal or in decimal digits.
Capital letters count as small ones.
-/
import LogQuery.Number.Whole
import LogQuery.Text.Lowercase

namespace LogQuery

open Text

/-- A color. `unset` is the one that the terminal has anyway. -/
inductive Color where
  | unset
  | named (name : String)
  | numbered (n : Nat)
  | mixed (red green blue : Nat)
deriving DecidableEq, Repr

namespace Color

-- =================================================================== names

/-- The colors that have names. -/
def names : List String := [
  "black", "red", "green", "yellow", "blue", "magenta", "cyan", "white",
  "bright_black", "bright_red", "bright_green", "bright_yellow", "bright_blue",
  "bright_magenta", "bright_cyan", "bright_white", "grey0", "gray0",
  "navy_blue", "dark_blue", "blue3", "blue1", "dark_green", "deep_sky_blue4",
  "dodger_blue3", "dodger_blue2", "green4", "spring_green4", "turquoise4",
  "deep_sky_blue3", "dodger_blue1", "green3", "spring_green3", "dark_cyan",
  "light_sea_green", "deep_sky_blue2", "deep_sky_blue1", "spring_green2",
  "cyan3", "dark_turquoise", "turquoise2", "green1", "spring_green1",
  "medium_spring_green", "cyan2", "cyan1", "dark_red", "deep_pink4", "purple4",
  "purple3", "blue_violet", "orange4", "grey37", "gray37", "medium_purple4",
  "slate_blue3", "royal_blue1", "chartreuse4", "dark_sea_green4",
  "pale_turquoise4", "steel_blue", "steel_blue3", "cornflower_blue",
  "chartreuse3", "cadet_blue", "sky_blue3", "steel_blue1", "pale_green3",
  "sea_green3", "aquamarine3", "medium_turquoise", "chartreuse2", "sea_green2",
  "sea_green1", "aquamarine1", "dark_slate_gray2", "dark_magenta",
  "dark_violet", "purple", "light_pink4", "plum4", "medium_purple3",
  "slate_blue1", "yellow4", "wheat4", "grey53", "gray53", "light_slate_grey",
  "light_slate_gray", "medium_purple", "light_slate_blue", "dark_olive_green3",
  "dark_sea_green", "light_sky_blue3", "sky_blue2", "dark_sea_green3",
  "dark_slate_gray3", "sky_blue1", "chartreuse1", "light_green", "pale_green1",
  "dark_slate_gray1", "red3", "medium_violet_red", "magenta3", "dark_orange3",
  "indian_red", "hot_pink3", "medium_orchid3", "medium_orchid",
  "medium_purple2", "dark_goldenrod", "light_salmon3", "rosy_brown", "grey63",
  "gray63", "medium_purple1", "gold3", "dark_khaki", "navajo_white3", "grey69",
  "gray69", "light_steel_blue3", "light_steel_blue", "yellow3",
  "dark_sea_green2", "light_cyan3", "light_sky_blue1", "green_yellow",
  "dark_olive_green2", "dark_sea_green1", "pale_turquoise1", "deep_pink3",
  "magenta2", "hot_pink2", "orchid", "medium_orchid1", "orange3", "light_pink3",
  "pink3", "plum3", "violet", "light_goldenrod3", "tan", "misty_rose3",
  "thistle3", "plum2", "khaki3", "light_goldenrod2", "light_yellow3", "grey84",
  "gray84", "light_steel_blue1", "yellow2", "dark_olive_green1", "honeydew2",
  "light_cyan1", "red1", "deep_pink2", "deep_pink1", "magenta1", "orange_red1",
  "indian_red1", "hot_pink", "dark_orange", "salmon1", "light_coral",
  "pale_violet_red1", "orchid2", "orchid1", "orange1", "sandy_brown",
  "light_salmon1", "light_pink1", "pink1", "plum1", "gold1", "navajo_white1",
  "misty_rose1", "thistle1", "yellow1", "light_goldenrod1", "khaki1", "wheat1",
  "cornsilk1", "grey100", "gray100", "grey3", "gray3", "grey7", "gray7",
  "grey11", "gray11", "grey15", "gray15", "grey19", "gray19", "grey23",
  "gray23", "grey27", "gray27", "grey30", "gray30", "grey35", "gray35",
  "grey39", "gray39", "grey42", "gray42", "grey46", "gray46", "grey50",
  "gray50", "grey54", "gray54", "grey58", "gray58", "grey62", "gray62",
  "grey66", "gray66", "grey70", "gray70", "grey74", "gray74", "grey78",
  "gray78", "grey82", "gray82", "grey85", "gray85", "grey89", "gray89",
  "grey93", "gray93"]

-- ================================================================== errors

/-- Why a text is no color. -/
inductive Fault where
  | unknown (text : String)
  /-- The palette has no such number. -/
  | noNumber (text : String)
  /-- There are not three parts. -/
  | noParts (text : String)
  /-- A part is no number. -/
  | badPart (part : String) (e : Whole.Fault)
  | largePart (text : String)
deriving DecidableEq, Repr

/-- The report of a text that is no color. -/
def Fault.message : Fault → String
  | unknown text => quoted text ++ " is not a valid color"
  | noNumber text => "color number must be <= 255 in " ++ quoted text
  | noParts text => "expected three components in " ++ quoted text
  | badPart part e => e.message 10 part
  | largePart text => "color components must be <= 255 in " ++ quoted text

-- ================================================================= reading

/-- The largest part of a color, and the largest number of the palette. -/
def limit : Nat := 255

/-- What stands in parentheses behind a word, to the end of the text. -/
def argument? (word : String) (cs : List Char) : Option (List Char) :=
  let head := word.toList ++ ['(']
  if cs.take head.length = head && cs.getLast? = some ')' then
    some (cs.drop head.length).dropLast
  else none

/-- The color that six hexadecimal digits mix. -/
def ofHex? (ds : List Char) : Option Color :=
  match ds with
  | [a, b, c, d, e, f] => do
    some (.mixed (← digitsValue? 16 [a, b]) (← digitsValue? 16 [c, d])
      (← digitsValue? 16 [e, f]))
  | _ => none

/-- The number in the palette that up to three digits give. -/
def paletteNumber? (ds : List Char) : Option Nat :=
  if ds.isEmpty || 3 < ds.length || !ds.all (·.isDigit) then none
  else digitsValue? 10 ds

/-- Characters of the parts of a color, with the commas between them. -/
def isPartChar (c : Char) : Bool := c = ',' || (decimalValue? c).isSome

/-- One part of a color. -/
def part (cs : List Char) : Except Fault Nat :=
  match Whole.ofChars 10 cs with
  | .ok n => .ok n.toNat
  | .error e => .error (.badPart (String.ofList cs) e)

/-- The color that three parts mix; `text` is what it was called. -/
def ofParts (text : String) (parts : List (List Char)) :
    Except Fault Color := do
  match ← parts.mapM part with
  | [red, green, blue] =>
    if limit < red || limit < green || limit < blue then
      throw (.largePart text)
    return .mixed red green blue
  | _ => throw (.noParts text)

/-- The color that a word without white space names. -/
def ofWord (word : String) : Except Fault Color :=
  let name := lower word
  let cs := name.toList
  if name = "default" then .ok .unset
  else if names.contains name then .ok (.named name)
  else
    match cs.head?, (argument? "color" cs).bind paletteNumber?,
      (argument? "rgb" cs).filter fun parts =>
        !parts.isEmpty && parts.all isPartChar with
    | some '#', _, _ =>
      (ofHex? (cs.drop 1)).elim (.error (.unknown word)) .ok
    | _, some n, _ =>
      if limit < n then .error (.noNumber name) else .ok (.numbered n)
    | _, _, some parts =>
      let parts := parts.splitOn ','
      if parts.length = 3 then ofParts word parts
      else .error (.noParts word)
    | _, _, _ => .error (.unknown word)

end Color

end LogQuery
