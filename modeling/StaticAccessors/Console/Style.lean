import StaticAccessors.Text.Blank
import StaticAccessors.Text.DecimalDigit
import StaticAccessors.Text.LetterCase
import StaticAccessors.Text.Split

/-!
# Styles

A style is written as words: attributes, which may be negated, a colour, a colour of the background and
the address of a link. Two texts name the same style if they are written the same in its canonical form.

## Contents
- `colorNames` and `colorOf`: colours by name or by number.
- `Attribute` and `Style`.
- `Style.parse` and `Style.text`: reading and the canonical form.
- `Style.canonical`: the form in which the names of styles are compared.
-/

namespace StaticAccessors.Console

open Text (decimalNumber? isBlank isDecimalDigit lower splitChar trim)

/-! ## Colours -/

/-- The names of colours. -/
def colorNames : List String := [
  "black", "red", "green", "yellow", "blue", "magenta", "cyan", "white", "bright_black",
  "bright_red", "bright_green", "bright_yellow", "bright_blue", "bright_magenta", "bright_cyan",
  "bright_white", "grey0", "gray0", "navy_blue", "dark_blue", "blue3", "blue1", "dark_green",
  "deep_sky_blue4", "dodger_blue3", "dodger_blue2", "green4", "spring_green4", "turquoise4",
  "deep_sky_blue3", "dodger_blue1", "green3", "spring_green3", "dark_cyan", "light_sea_green",
  "deep_sky_blue2", "deep_sky_blue1", "spring_green2", "cyan3", "dark_turquoise", "turquoise2",
  "green1", "spring_green1", "medium_spring_green", "cyan2", "cyan1", "dark_red", "deep_pink4",
  "purple4", "purple3", "blue_violet", "orange4", "grey37", "gray37", "medium_purple4",
  "slate_blue3", "royal_blue1", "chartreuse4", "dark_sea_green4", "pale_turquoise4", "steel_blue",
  "steel_blue3", "cornflower_blue", "chartreuse3", "cadet_blue", "sky_blue3", "steel_blue1",
  "pale_green3", "sea_green3", "aquamarine3", "medium_turquoise", "chartreuse2", "sea_green2",
  "sea_green1", "aquamarine1", "dark_slate_gray2", "dark_magenta", "dark_violet", "purple",
  "light_pink4", "plum4", "medium_purple3", "slate_blue1", "yellow4", "wheat4", "grey53", "gray53",
  "light_slate_grey", "light_slate_gray", "medium_purple", "light_slate_blue", "dark_olive_green3",
  "dark_sea_green", "light_sky_blue3", "sky_blue2", "dark_sea_green3", "dark_slate_gray3",
  "sky_blue1", "chartreuse1", "light_green", "pale_green1", "dark_slate_gray1", "red3",
  "medium_violet_red", "magenta3", "dark_orange3", "indian_red", "hot_pink3", "medium_orchid3",
  "medium_orchid", "medium_purple2", "dark_goldenrod", "light_salmon3", "rosy_brown", "grey63",
  "gray63", "medium_purple1", "gold3", "dark_khaki", "navajo_white3", "grey69", "gray69",
  "light_steel_blue3", "light_steel_blue", "yellow3", "dark_sea_green2", "light_cyan3",
  "light_sky_blue1", "green_yellow", "dark_olive_green2", "dark_sea_green1", "pale_turquoise1",
  "deep_pink3", "magenta2", "hot_pink2", "orchid", "medium_orchid1", "orange3", "light_pink3",
  "pink3", "plum3", "violet", "light_goldenrod3", "tan", "misty_rose3", "thistle3", "plum2",
  "khaki3", "light_goldenrod2", "light_yellow3", "grey84", "gray84", "light_steel_blue1", "yellow2",
  "dark_olive_green1", "honeydew2", "light_cyan1", "red1", "deep_pink2", "deep_pink1", "magenta1",
  "orange_red1", "indian_red1", "hot_pink", "dark_orange", "salmon1", "light_coral",
  "pale_violet_red1", "orchid2", "orchid1", "orange1", "sandy_brown", "light_salmon1",
  "light_pink1", "pink1", "plum1", "gold1", "navajo_white1", "misty_rose1", "thistle1", "yellow1",
  "light_goldenrod1", "khaki1", "wheat1", "cornsilk1", "grey100", "gray100", "grey3", "gray3",
  "grey7", "gray7", "grey11", "gray11", "grey15", "gray15", "grey19", "gray19", "grey23", "gray23",
  "grey27", "gray27", "grey30", "gray30", "grey35", "gray35", "grey39", "gray39", "grey42",
  "gray42", "grey46", "gray46", "grey50", "gray50", "grey54", "gray54", "grey58", "gray58",
  "grey62", "gray62", "grey66", "gray66", "grey70", "gray70", "grey74", "gray74", "grey78",
  "gray78", "grey82", "gray82", "grey85", "gray85", "grey89", "gray89", "grey93", "gray93"]

/-- Why words are no style. -/
inductive StyleProblem
  /-- a word has no meaning where it stands -/
  | notAStyle
  /-- a part of a colour is no number -/
  | notANumber
deriving Repr, DecidableEq

/-- What stands between an opening and a closing text. -/
def between? (front back : String) (cs : List Char) : Option (List Char) :=
  if front.toList.isPrefixOf cs && back.toList.isSuffixOf cs && front.length + back.length ≤ cs.length then
    some ((cs.drop front.length).take (cs.length - front.length - back.length))
  else none

/-- The largest part of a colour. -/
def channelLimit : Nat := 255

/-- Whether a text is a colour of six hexadecimal digits after a number sign. -/
def isHexColor (cs : List Char) : Bool :=
  match cs with
  | '#' :: digits => digits.length = 6 && digits.all fun c => c.isDigit || ('a' ≤ c && c ≤ 'f')
  | _ => false

/-- Whether a text is a colour by its number. -/
def isNumberedColor (cs : List Char) : Bool :=
  match between? "color(" ")" cs with
  | some digits =>
    digits.length ≤ 3 && digits.all Char.isDigit && (decimalNumber? digits).any (· ≤ channelLimit)
  | none => false

/-- Checks the parts of a mixed colour, which are separated by commas. -/
def checkMixture (cs : List Char) : Except StyleProblem Unit :=
  if cs.isEmpty || !cs.all (fun c => isDecimalDigit c || c = ',') then .error .notAStyle
  else
    match splitChar ',' cs with
    | [red, green, blue] =>
      match [red, green, blue].mapM decimalNumber? with
      | some parts => if parts.all (· ≤ channelLimit) then .ok () else .error .notAStyle
      | none => .error .notANumber
    | _ => .error .notAStyle

/-- The colour that a word names, in lower case. -/
def colorOf (word : String) : Except StyleProblem String :=
  let name := lower word
  let cs := name.toList
  if name = "default" || name ∈ colorNames || isHexColor cs || isNumberedColor cs then .ok name
  else
    match between? "rgb(" ")" cs with
    | some parts => (checkMixture parts).map fun _ => name
    | none => .error .notAStyle

/-! ## Attributes -/

/-- How text is drawn. -/
inductive Attribute
  | bold
  | dim
  | italic
  | underline
  | blink
  | fastBlink
  | reverse
  | conceal
  | strike
  | doubleUnderline
  | frame
  | encircle
  | overline
deriving Repr, DecidableEq

namespace Attribute

/-- All attributes, in the order of the canonical form. -/
def all : List Attribute := [
  bold, dim, italic, underline, blink, fastBlink, reverse, conceal, strike, doubleUnderline, frame, encircle,
  overline]

/-- The name of an attribute. -/
def name : Attribute → String
  | bold => "bold"
  | dim => "dim"
  | italic => "italic"
  | underline => "underline"
  | blink => "blink"
  | fastBlink => "blink2"
  | reverse => "reverse"
  | conceal => "conceal"
  | strike => "strike"
  | doubleUnderline => "underline2"
  | frame => "frame"
  | encircle => "encircle"
  | overline => "overline"

/-- The short name of an attribute. -/
def shortName? : Attribute → Option String
  | bold => some "b"
  | dim => some "d"
  | italic => some "i"
  | underline => some "u"
  | reverse => some "r"
  | conceal => some "c"
  | strike => some "s"
  | doubleUnderline => some "uu"
  | overline => some "o"
  | _ => none

/-- The attribute of a name. -/
def ofName? (word : String) : Option Attribute :=
  all.find? fun a => a.name = word || a.shortName? = some word

end Attribute

/-! ## Styles -/

/-- A style. What it says of an attribute is whether the attribute is set; of some it says nothing. -/
structure Style where
  attributes : Attribute → Option Bool
  color : Option String
  background : Option String
  link : Option String

namespace Style

/-- The style that says nothing. -/
def plain : Style := ⟨fun _ => none, none, none, none⟩

/-- The style with an attribute set or not. -/
def setting (s : Style) (a : Attribute) (isSet : Bool) : Style :=
  { s with attributes := fun other => if other = a then some isSet else s.attributes other }

/-- Reads words over a style; a later word wins. -/
def parseWords (s : Style) : List String → Except StyleProblem Style
  | [] => .ok s
  | word :: rest =>
    let key := lower word
    if key = "on" then
      match rest with
      | [] => .error .notAStyle
      | operand :: rest =>
        match colorOf operand with
        | .error problem => .error problem
        | .ok color => parseWords { s with background := some color } rest
    else if key = "not" then
      match rest with
      | [] => .error .notAStyle
      | operand :: rest =>
        match Attribute.ofName? operand with
        | none => .error .notAStyle
        | some a => parseWords (s.setting a false) rest
    else if key = "link" then
      match rest with
      | [] => .error .notAStyle
      | operand :: rest => parseWords { s with link := some operand } rest
    else
      match Attribute.ofName? key with
      | some a => parseWords (s.setting a true) rest
      | none =>
        match colorOf key with
        | .error problem => .error problem
        | .ok color => parseWords { s with color := some color } rest

/-- The words of a text. -/
def wordsOf (cs : List Char) : List String :=
  ((splitChar ' ' (cs.map fun c => if isBlank c then ' ' else c)).filter (· ≠ [])).map String.ofList

/-- The word for the style that says nothing. -/
def plainText : String := "none"

/-- Reads a style. -/
def parse (s : String) : Except StyleProblem Style :=
  match wordsOf s.toList with
  | [word] => if word = plainText then .ok plain else parseWords plain [word]
  | words => parseWords plain words

/-- How a style writes what it says of an attribute. -/
def attributeText (a : Attribute) : Option Bool → List String
  | none => []
  | some true => [a.name]
  | some false => ["not " ++ a.name]

/-- The canonical form of a style. -/
def text (s : Style) : String :=
  match Attribute.all.flatMap (fun a => attributeText a (s.attributes a)) ++ s.color.toList ++
      (s.background.map ("on " ++ ·)).toList ++ (s.link.map ("link " ++ ·)).toList with
  | [] => plainText
  | words => String.intercalate " " words

/-- The form in which the names of styles are compared: that of the style, or else the name in lower
case. -/
def canonical (s : String) : Except StyleProblem String :=
  match parse s with
  | .ok style => .ok style.text
  | .error .notAStyle => .ok (lower (trim s))
  | .error .notANumber => .error .notANumber

example : (canonical "Red ON blue b").toOption = some "bold red on blue" ∧
    (canonical " No Style ").toOption = some "no style" := by decide +kernel

end Style

end StaticAccessors.Console
