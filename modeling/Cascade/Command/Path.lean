import Cascade.Text.Split

set_option autoImplicit false

namespace Cascade.Command

inductive PathRoot where
  | here
  | top
  /-- Exactly two slashes are kept apart from one. -/
  | doubled
deriving DecidableEq, Inhabited

structure Path where
  root : PathRoot
  parts : List String
deriving DecidableEq, Inhabited

namespace PathRoot

def ofSlashes : Nat → PathRoot
  | 0 => here
  | 2 => doubled
  | _ => top

def text : PathRoot → String
  | here => ""
  | top => "/"
  | doubled => "//"

end PathRoot

namespace Path

def ofText (s : String) : Path :=
  ⟨PathRoot.ofSlashes (s.toList.takeWhile (· == '/')).length,
    ((Text.splitWhere (· == '/') s.toList).map String.ofList).filter fun part =>
      part ≠ "" && part ≠ "."⟩

def text (p : Path) : String :=
  if p.root = .here && p.parts.isEmpty then "." else p.root.text ++ "/".intercalate p.parts

/-- The stem and the suffix of the last part.  A point at either end starts no suffix. -/
def stemAndSuffix (p : Path) : String × String :=
  let name := p.parts.getLast?.getD ""
  match Text.splitLast? '.' name.toList with
  | none => (name, "")
  | some (stem, suffix) =>
    if stem.isEmpty || suffix.isEmpty then (name, "")
    else (String.ofList stem, String.ofList ('.' :: suffix))

def stem (p : Path) : String := p.stemAndSuffix.1

def suffix (p : Path) : String := p.stemAndSuffix.2

end Path

end Cascade.Command
