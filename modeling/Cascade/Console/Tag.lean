set_option autoImplicit false

namespace Cascade.Console

structure Tag where
  position : Nat
  name : List Char
  /-- What stands behind an equals sign. -/
  parameters : Option (List Char)
deriving DecidableEq, Inhabited

inductive Piece where
  | plain (text : List Char)
  | tag (tag : Tag)
deriving DecidableEq, Inhabited

def opensTag (c : Char) : Bool :=
  c.isLower || c == '#' || c == '/' || c == '@'

def tagInside? : List Char → Option (List Char)
  | [] => none
  | c :: cs =>
    if !opensTag c then none
    else
      let stops (c : Char) := c == ']' || c == '['
      match cs.dropWhile fun c => !stops c with
      | ']' :: _ => some (c :: cs.takeWhile fun c => !stops c)
      | _ => none

namespace Tag

def ofInside (position : Nat) (inside : List Char) : Tag :=
  match inside.dropWhile (· != '=') with
  | [] => ⟨position, inside, none⟩
  | _ :: parameters => ⟨position, inside.takeWhile (· != '='), some parameters⟩

def text (t : Tag) : String :=
  match t.parameters with
  | none => "[" ++ String.ofList t.name ++ "]"
  | some parameters => "[" ++ String.ofList t.name ++ "=" ++ String.ofList parameters ++ "]"

end Tag

namespace Piece

def ofText (cs : List Char) : List Piece :=
  if cs.isEmpty then [] else [plain cs]

/-- What a tag with backslashes before it means.  Two of them stand for one. -/
def ofTag (position slashes : Nat) (inside : List Char) : List Piece :=
  ofText (List.replicate (slashes / 2) '\\') ++
    [if slashes % 2 == 1 then plain ('[' :: inside ++ [']'])
      else tag (Tag.ofInside position inside)]

/-- The pieces of a text from a position on, after `skip` characters of a tag already recognised.
Text and backslashes that are not in a piece yet are carried along, the text in reverse. -/
def scan : Nat → Nat → List Char → Nat → List Char → List Piece
  | _, _, pending, slashes, [] => ofText (pending.reverse ++ List.replicate slashes '\\')
  | position, skip + 1, pending, slashes, _ :: cs => scan (position + 1) skip pending slashes cs
  | position, 0, pending, slashes, c :: cs =>
    if c == '\\' then scan (position + 1) 0 pending (slashes + 1) cs
    else
      match if c == '[' then tagInside? cs else none with
      | some inside =>
        ofText pending.reverse ++ ofTag position slashes inside ++
          scan (position + 1) (inside.length + 1) [] 0 cs
      | none => scan (position + 1) 0 (c :: (List.replicate slashes '\\' ++ pending)) 0 cs

def ofMarkup (cs : List Char) : List Piece :=
  scan 0 0 [] 0 cs

end Piece

end Cascade.Console
