set_option autoImplicit false

namespace Cascade.Text

def splitWhere (isSeparator : Char → Bool) : List Char → List (List Char)
  | [] => [[]]
  | c :: cs =>
    if isSeparator c then [] :: splitWhere isSeparator cs
    else
      match splitWhere isSeparator cs with
      | [] => [[c]]
      | piece :: pieces => (c :: piece) :: pieces

/-- The pieces between the occurrences of a word, after `skip` characters that belong to an
occurrence already found. -/
def splitAfter (word : List Char) : Nat → List Char → List (List Char)
  | _, [] => [[]]
  | skip + 1, _ :: cs => splitAfter word skip cs
  | 0, c :: cs =>
    if word.isPrefixOf (c :: cs) then [] :: splitAfter word (word.length - 1) cs
    else
      match splitAfter word 0 cs with
      | [] => [[c]]
      | piece :: pieces => (c :: piece) :: pieces

def splitOnWord (word : String) (s : String) : List String :=
  (splitAfter word.toList 0 s.toList).map String.ofList

def splitLast? (separator : Char) (cs : List Char) : Option (List Char × List Char) :=
  let behind := (cs.reverse.takeWhile (· != separator)).reverse
  if behind.length = cs.length then none
  else some (cs.take (cs.length - behind.length - 1), behind)

end Cascade.Text
