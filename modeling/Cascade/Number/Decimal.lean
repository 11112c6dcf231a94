set_option autoImplicit false

namespace Cascade

/-- The number `± digits * 10 ^ exponent`.  In normal form the digits do not end in a zero,
and zero has exponent zero, so that equal values with equal signs are equal. -/
structure Decimal where
  negative : Bool
  digits : Nat
  exponent : Int
  normal : digits = 0 ∧ exponent = 0 ∨ digits % 10 ≠ 0
deriving DecidableEq

namespace Decimal

instance : Inhabited Decimal := ⟨⟨false, 0, 0, Or.inl ⟨rfl, rfl⟩⟩⟩

def normalize (negative : Bool) (digits : Nat) (exponent : Int) : Decimal :=
  if digits = 0 then ⟨negative, 0, 0, Or.inl ⟨rfl, rfl⟩⟩
  else if h : digits % 10 = 0 then normalize negative (digits / 10) (exponent + 1)
  else ⟨negative, digits, exponent, Or.inr h⟩
termination_by digits
decreasing_by omega

def negate (d : Decimal) : Decimal :=
  { d with negative := !d.negative }

def naturalText (n : Nat) : List Char :=
  Nat.toDigits 10 n

/-- An exponent has a sign and at least two digits. -/
def exponentText (e : Int) : List Char :=
  let ds := naturalText e.natAbs
  'e' :: (if e < 0 then '-' else '+') :: (if ds.length < 2 then '0' :: ds else ds)

/-- Digits with the point after the first `point` of them, filled up with zeros.  A whole
number ends in `whole`. -/
def positional (ds : List Char) (point : Int) (whole : List Char) : List Char :=
  if point ≤ 0 then '0' :: '.' :: List.replicate (-point).toNat '0' ++ ds
  else if ds.length ≤ point.toNat then ds ++ List.replicate (point.toNat - ds.length) '0' ++ whole
  else ds.take point.toNat ++ '.' :: ds.drop point.toNat

def scientific (ds : List Char) (point : Int) : List Char :=
  match ds with
  | [] => []
  | [d] => d :: exponentText (point - 1)
  | d :: rest => d :: '.' :: rest ++ exponentText (point - 1)

/-- The text of a decimal number: positional from `0.0001` to below `10 ^ 16`.  A whole number
ends in `whole`. -/
def textWith (whole : List Char) (d : Decimal) : List Char :=
  let ds := naturalText d.digits
  let point := (ds.length : Int) + d.exponent
  let body := if -4 < point ∧ point ≤ 16 then positional ds point whole else scientific ds point
  if d.negative then '-' :: body else body

def text (d : Decimal) : List Char :=
  d.textWith ['.', '0']

end Decimal

end Cascade
