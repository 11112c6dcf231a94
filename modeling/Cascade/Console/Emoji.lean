import Cascade.Console.EmojiTable
import Cascade.Text.Blank
import Cascade.Text.LowerCase
import Cascade.Text.Split

set_option autoImplicit false

namespace Cascade.Console

def hexValue (c : Char) : Nat :=
  if c.isDigit then c.toNat - '0'.toNat else c.toNat - 'A'.toNat + 10

def hexChar (ds : List Char) : Char :=
  Char.ofNat (ds.foldl (fun n c => 16 * n + hexValue c) 0)

structure Emoji where
  characters : List Char
  takesTone : Bool
deriving DecidableEq, Inhabited

namespace Emoji

def ofCodes (codes : List Char) : Emoji :=
  ⟨(Text.splitWhere (· == '-') (codes.filter (· != '*'))).map hexChar, codes.contains '*'⟩

def listed? (name : List Char) : Option Emoji :=
  emojiRows.findSome? fun row =>
    (Text.splitWhere (· == ' ') row.toList).findSome? fun entry =>
      if (name ++ [':']).isPrefixOf entry then some (ofCodes (entry.drop (name.length + 1)))
      else none

def tones : List (List Char × Char) :=
  [("_light_skin_tone", 0x1F3FB), ("_medium-light_skin_tone", 0x1F3FC),
    ("_medium_skin_tone", 0x1F3FD), ("_medium-dark_skin_tone", 0x1F3FE),
    ("_dark_skin_tone", 0x1F3FF)].map fun (ending, code) => (ending.toList, Char.ofNat code)

def coloured : Char := Char.ofNat 0xFE0F

def plain : Char := Char.ofNat 0xFE0E

/-- An emoji with a skin tone.  The tone goes behind the first character, in the place of a mark
that may be there. -/
def withTone (tone : Char) (emoji : Emoji) : Option (List Char) :=
  if !emoji.takesTone then none
  else
    match emoji.characters with
    | [] => none
    | c :: d :: cs => some (if d == coloured then c :: tone :: cs else c :: tone :: d :: cs)
    | [c] => some [c, tone]

def characters? (name : List Char) : Option (List Char) :=
  match listed? name with
  | some emoji => some emoji.characters
  | none =>
    tones.findSome? fun (ending, tone) =>
      if ending.isSuffixOf name then
        (listed? (name.take (name.length - ending.length))).bind (withTone tone)
      else none

/-- The end of a name at the head of a text: the mark that it asks for and its length. -/
def nameEnd? (cs : List Char) : Option (List Char × Nat) :=
  if cs.head? == some ':' then some ([], 1)
  else if "-emoji:".toList.isPrefixOf cs then some ([coloured], 7)
  else if "-text:".toList.isPrefixOf cs then some ([plain], 6)
  else none

def readName? : List Char → Option (List Char × List Char × Nat)
  | [] => none
  | c :: cs =>
    match nameEnd? (c :: cs) with
    | some (mark, length) => some ([], mark, length)
    | none =>
      if Text.isBlank c then none
      else (readName? cs).map fun (name, mark, length) => (c :: name, mark, length + 1)

/-- A text with emojis for their names, after `skip` characters that belong to a name. -/
def replaceFrom : Nat → List Char → List Char
  | _, [] => []
  | skip + 1, _ :: cs => replaceFrom skip cs
  | 0, c :: cs =>
    match if c == ':' then readName? cs else none with
    | none => c :: replaceFrom 0 cs
    | some (name, mark, length) =>
      let shown := match characters? (Text.lowerChars name) with
        | some characters => characters ++ mark
        | none => c :: cs.take length
      shown ++ replaceFrom length cs

def replace (cs : List Char) : List Char :=
  replaceFrom 0 cs

end Emoji

end Cascade.Console
