import Cascade.Table
import Cascade.Text.Blank
import Cascade.Text.Integer
import Cascade.Text.LowerCase
import Cascade.Text.Split

set_option autoImplicit false

namespace Cascade.Console

/-- Why a definition has no meaning.  A component of a color that is left out is an error of its
own. -/
inductive StyleFault where
  | undefined
  | emptyComponent
deriving DecidableEq, Inhabited

def colorNames : List String := [
  "black", "red", "green", "yellow", "blue", "magenta", "cyan", "white", "bright_black",
  "bright_red", "bright_green", "bright_yellow", "bright_blue", "bright_magenta", "bright_cyan",
  "bright_white", "gray0", "grey0", "navy_blue", "dark_blue", "blue3", "blue1", "dark_green",
  "deep_sky_blue4", "dodger_blue3", "dodger_blue2", "green4", "spring_green4", "turquoise4",
  "deep_sky_blue3", "dodger_blue1", "dark_cyan", "light_sea_green", "deep_sky_blue2",
  "deep_sky_blue1", "green3", "spring_green3", "cyan3", "dark_turquoise", "turquoise2", "green1",
  "spring_green2", "spring_green1", "medium_spring_green", "cyan2", "cyan1", "purple4", "purple3",
  "blue_violet", "gray37", "grey37", "medium_purple4", "slate_blue3", "royal_blue1",
  "chartreuse4", "pale_turquoise4", "steel_blue", "steel_blue3", "cornflower_blue",
  "dark_sea_green4", "cadet_blue", "sky_blue3", "chartreuse3", "sea_green3", "aquamarine3",
  "medium_turquoise", "steel_blue1", "sea_green2", "sea_green1", "dark_slate_gray2", "dark_red",
  "dark_magenta", "orange4", "light_pink4", "plum4", "medium_purple3", "slate_blue1", "wheat4",
  "gray53", "grey53", "light_slate_gray", "light_slate_grey", "medium_purple", "light_slate_blue",
  "yellow4", "dark_sea_green", "light_sky_blue3", "sky_blue2", "chartreuse2", "pale_green3",
  "dark_slate_gray3", "sky_blue1", "chartreuse1", "light_green", "aquamarine1",
  "dark_slate_gray1", "deep_pink4", "medium_violet_red", "dark_violet", "purple",
  "medium_orchid3", "medium_orchid", "dark_goldenrod", "rosy_brown", "gray63", "grey63",
  "medium_purple2", "medium_purple1", "dark_khaki", "navajo_white3", "gray69", "grey69",
  "light_steel_blue3", "light_steel_blue", "dark_olive_green3", "dark_sea_green3", "light_cyan3",
  "light_sky_blue1", "green_yellow", "dark_olive_green2", "pale_green1", "dark_sea_green2",
  "pale_turquoise1", "red3", "deep_pink3", "magenta3", "dark_orange3", "indian_red", "hot_pink3",
  "hot_pink2", "orchid", "orange3", "light_salmon3", "light_pink3", "pink3", "plum3", "violet",
  "gold3", "light_goldenrod3", "tan", "misty_rose3", "thistle3", "plum2", "yellow3", "khaki3",
  "light_yellow3", "gray84", "grey84", "light_steel_blue1", "yellow2", "dark_olive_green1",
  "dark_sea_green1", "honeydew2", "light_cyan1", "red1", "deep_pink2", "deep_pink1", "magenta2",
  "magenta1", "orange_red1", "indian_red1", "hot_pink", "medium_orchid1", "dark_orange",
  "salmon1", "light_coral", "pale_violet_red1", "orchid2", "orchid1", "orange1", "sandy_brown",
  "light_salmon1", "light_pink1", "pink1", "plum1", "gold1", "light_goldenrod2", "navajo_white1",
  "misty_rose1", "thistle1", "yellow1", "light_goldenrod1", "khaki1", "wheat1", "cornsilk1",
  "gray100", "grey100", "gray3", "grey3", "gray7", "grey7", "gray11", "grey11", "gray15",
  "grey15", "gray19", "grey19", "gray23", "grey23", "gray27", "grey27", "gray30", "grey30",
  "gray35", "grey35", "gray39", "grey39", "gray42", "grey42", "gray46", "grey46", "gray50",
  "grey50", "gray54", "grey54", "gray58", "grey58", "gray62", "grey62", "gray66", "grey66",
  "gray70", "grey70", "gray74", "grey74", "gray78", "grey78", "gray82", "grey82", "gray85",
  "grey85", "gray89", "grey89", "gray93", "grey93"]

/-- The attributes, in the order in which a normal form has them. -/
def attributeNames : List String :=
  ["bold", "dim", "italic", "underline", "blink", "blink2", "reverse", "conceal", "strike",
    "underline2", "frame", "encircle", "overline"]

def attributeLetters : Table String :=
  [("b", "bold"), ("d", "dim"), ("i", "italic"), ("u", "underline"), ("r", "reverse"),
    ("c", "conceal"), ("s", "strike"), ("uu", "underline2"), ("o", "overline")]

def attribute? (word : String) : Option String :=
  if attributeNames.contains word then some word else attributeLetters.get? word

structure Style where
  attributes : Table Bool
  color : Option String
  background : Option String
  link : Option String
deriving DecidableEq, Inhabited

def isHexColor (cs : List Char) : Bool :=
  match cs with
  | '#' :: ds => ds.length == 6 && ds.all fun c => c.isDigit || ('a' ≤ c && c ≤ 'f')
  | _ => false

def bracketed? (word : String) (cs : List Char) : Option (List Char) :=
  let head := (word ++ "(").toList
  if head.isPrefixOf cs && cs.getLast? == some ')' then some ((cs.drop head.length).dropLast)
  else none

def isByte (ds : List Char) : Bool :=
  match ds.mapM Text.digitValue? with
  | some (d :: rest) => Text.ofDigits (d :: rest) ≤ 255
  | _ => false

def checkComponents (cs : List Char) : Except StyleFault Unit :=
  let components := Text.splitWhere (· == ',') cs
  if !cs.all (fun c => c == ',' || (Text.digitValue? c).isSome) || components.length ≠ 3 then
    .error .undefined
  else if components.any List.isEmpty then .error .emptyComponent
  else if components.all isByte then .ok ()
  else .error .undefined

def color? (word : List Char) : Except StyleFault String :=
  let cs := Text.lowerChars word
  let name := String.ofList cs
  if name = "default" || colorNames.contains name || isHexColor cs then .ok name
  else
    match bracketed? "color" cs, bracketed? "rgb" cs with
    | some ds, _ =>
      if ds.length ≤ 3 && ds.all Char.isDigit && isByte ds then .ok name else .error .undefined
    | none, some inside => (checkComponents inside).map fun _ => name
    | none, none => .error .undefined

namespace Style

def blank : Style := ⟨[], none, none, none⟩

inductive Expected where
  | anything
  | background
  | attributeOff
  | link
deriving DecidableEq, Inhabited

def addWord (style : Style) (word : List Char) : Except StyleFault (Style × Expected) :=
  match String.ofList (Text.lowerChars word) with
  | "on" => .ok (style, .background)
  | "not" => .ok (style, .attributeOff)
  | "link" => .ok (style, .link)
  | lower =>
    match attribute? lower with
    | some attr => .ok ({ style with attributes := style.attributes.set attr true }, .anything)
    | none =>
      (color? word).map fun name => ({ style with color := some name }, .anything)

def step (style : Style) (expected : Expected) (word : List Char) :
    Except StyleFault (Style × Expected) :=
  match expected with
  | .anything => style.addWord word
  | .background =>
    (color? word).map fun name => ({ style with background := some name }, .anything)
  | .attributeOff =>
    match attribute? (String.ofList word) with
    | none => .error .undefined
    | some attr => .ok ({ style with attributes := style.attributes.set attr false }, .anything)
  | .link => .ok ({ style with link := some (String.ofList word) }, .anything)

def ofWords : Style → Expected → List (List Char) → Except StyleFault Style
  | style, expected, [] => if expected = .anything then .ok style else .error .undefined
  | style, expected, word :: words => do
    let (next, expected) ← style.step expected word
    ofWords next expected words

def words (cs : List Char) : List (List Char) :=
  (Text.splitWhere Text.isBlank cs).filter fun word => !word.isEmpty

def text (style : Style) : String :=
  let attributes := attributeNames.filterMap fun name =>
    (style.attributes.get? name).map fun on => if on then name else "not " ++ name
  let parts := attributes ++ style.color.toList ++
    style.background.toList.map ("on " ++ ·) ++ style.link.toList.map ("link " ++ ·)
  if parts.isEmpty then "none" else " ".intercalate parts

/-- The normal form of a definition.  One without a meaning is kept in small letters. -/
def normalize (definition : List Char) : Except StyleFault String :=
  if Text.trimChars Text.isBlank definition = "none".toList then .ok "none"
  else
    match ofWords blank .anything (words definition) with
    | .ok style => .ok style.text
    | .error .undefined =>
      .ok (String.ofList (Text.lowerChars (Text.trimChars Text.isBlank definition)))
    | .error .emptyComponent => .error .emptyComponent

end Style

end Cascade.Console
