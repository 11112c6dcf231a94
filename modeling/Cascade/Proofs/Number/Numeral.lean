import Cascade.Scalar
import Mathlib.Tactic.Ring
import Mathlib.Tactic.IntervalCases

set_option autoImplicit false

namespace Cascade

open Double (spanDigits digitsValue readExponent?)

namespace Numeral

def isWhole : List Char → Bool
  | [] => false
  | [_] => true
  | c :: _ => c != '0'

def exponent? : List Char → Option Int
  | 'E' :: cs => readExponent? ('e' :: cs)
  | cs => readExponent? cs

def integer (negative : Bool) (whole : List Char) : Scalar :=
  .int (if negative then -(digitsValue whole : Int) else digitsValue whole)

def decimal (negative : Bool) (whole fraction : List Char) (exponent : Int) : Scalar :=
  .float (.finite (.normalize negative (digitsValue (whole ++ fraction))
    (exponent - fraction.length)))

def tail? (negative : Bool) (whole : List Char) : List Char → Option Scalar
  | [] => some (integer negative whole)
  | '.' :: cs =>
    let (fraction, rest) := spanDigits cs
    if fraction.isEmpty then none else (exponent? rest).map (decimal negative whole fraction)
  | cs => (exponent? cs).map (decimal negative whole [])

def magnitude? (negative : Bool) (cs : List Char) : Option Scalar :=
  let (whole, rest) := spanDigits cs
  if isWhole whole then tail? negative whole rest else none

def read? : List Char → Option Scalar
  | '-' :: cs => magnitude? true cs
  | cs => magnitude? false cs

section Digits

theorem digitsValue_append (cs ds : List Char) :
    digitsValue (cs ++ ds) = ds.foldl (fun n c => 10 * n + (c.toNat - 48)) (digitsValue cs) :=
  List.foldl_append

theorem digitsValue_zeros_append (k : Nat) (ds : List Char) :
    digitsValue (List.replicate k '0' ++ ds) = digitsValue ds := by
  induction k with
  | zero => rfl
  | succ k ih => exact ih

theorem digitsValue_append_zeros (ds : List Char) (k : Nat) :
    digitsValue (ds ++ List.replicate k '0') = digitsValue ds * 10 ^ k := by
  induction k with
  | zero => simp
  | succ k ih =>
    rw [List.replicate_succ', ← List.append_assoc, digitsValue_append, ih]
    change 10 * (digitsValue ds * 10 ^ k) + 0 = _
    ring

theorem digitsValue_toDigits (n : Nat) : digitsValue (Nat.toDigits 10 n) = n :=
  Nat.ofDigitChars_ten_toDigits

theorem isDigit_toDigits {n : Nat} : ∀ c ∈ Nat.toDigits 10 n, c.isDigit := fun _ member =>
  Nat.isDigit_of_mem_toDigits (by decide) (by decide) member

theorem isDigit_zeros {k : Nat} : ∀ c ∈ List.replicate k '0', c.isDigit := by
  intro c member
  rw [List.eq_of_mem_replicate member]
  rfl

/-- Only zero is written with a zero at the head. -/
theorem head?_toDigits_ne {n : Nat} (pos : 0 < n) : (Nat.toDigits 10 n).head? ≠ some '0' := by
  induction n using Nat.strong_induction_on with
  | _ n ih =>
    rw [Nat.toDigits_eq_if (by decide)]
    split
    · rename_i small
      interval_cases n <;> decide
    · have shorter := ih (n / 10) (by omega) (by omega)
      cases head : (Nat.toDigits 10 (n / 10)).head? with
      | none => exact absurd (List.head?_eq_none_iff.1 head) Nat.toDigits_ne_nil
      | some c =>
        rw [List.head?_append, head]
        rwa [head] at shorter

theorem isWhole_of_head? {ds : List Char} (present : ds ≠ []) (head : ds.head? ≠ some '0') :
    isWhole ds := by
  match ds, present, head with
  | [_], _, _ => rfl
  | c :: d :: ds, _, head => simpa [isWhole] using head

theorem isWhole_append {ds : List Char} (present : ds ≠ []) (head : ds.head? ≠ some '0')
    (more : List Char) : isWhole (ds ++ more) := by
  cases ds with
  | nil => exact absurd rfl present
  | cons c ds => exact isWhole_of_head? (List.cons_ne_nil _ _) head

theorem isWhole_toDigits (n : Nat) : isWhole (Nat.toDigits 10 n) := by
  rcases Nat.eq_zero_or_pos n with rfl | pos
  · rfl
  · exact isWhole_of_head? Nat.toDigits_ne_nil (head?_toDigits_ne pos)

theorem isWhole_take {ds : List Char} (whole : isWhole ds) {count : Nat} (pos : 0 < count) :
    isWhole (ds.take count) := by
  obtain ⟨count, rfl⟩ : ∃ k, count = k + 1 := ⟨count - 1, by omega⟩
  match ds, count, whole with
  | [_], _, _ => simp [isWhole]
  | _ :: _ :: _, 0, _ => rfl
  | _ :: _ :: _, _ + 1, whole => exact whole

end Digits

def NoDigit (cs : List Char) : Prop :=
  ∀ c ∈ cs.head?, c.isDigit = false

theorem spanDigits_append {ds rest : List Char} (digits : ∀ c ∈ ds, c.isDigit)
    (stop : NoDigit rest) : spanDigits (ds ++ rest) = (ds, rest) := by
  have taken : rest.takeWhile Char.isDigit = [] := by
    cases rest with
    | nil => rfl
    | cons c cs => exact List.takeWhile_cons_of_neg (by simp [stop c rfl])
  have dropped : rest.dropWhile Char.isDigit = rest := by
    cases rest with
    | nil => rfl
    | cons c cs => exact List.dropWhile_cons_of_neg (by simp [stop c rfl])
  unfold spanDigits
  rw [List.takeWhile_append_of_pos digits, List.dropWhile_append_of_pos digits, taken, dropped,
    List.append_nil]

theorem magnitude?_append (negative : Bool) {whole rest : List Char}
    (digits : ∀ c ∈ whole, c.isDigit) (headed : isWhole whole) (stop : NoDigit rest) :
    magnitude? negative (whole ++ rest) = tail? negative whole rest := by
  unfold magnitude?
  rw [spanDigits_append digits stop]
  exact if_pos headed

theorem tail?_point {negative : Bool} {whole fraction rest : List Char}
    (digits : ∀ c ∈ fraction, c.isDigit) (present : fraction ≠ []) (stop : NoDigit rest) :
    tail? negative whole ('.' :: fraction ++ rest) =
      (exponent? rest).map (decimal negative whole fraction) := by
  change (let (fraction, rest) := spanDigits (fraction ++ rest)
    if fraction.isEmpty then none else (exponent? rest).map (decimal negative whole fraction)) = _
  rw [spanDigits_append digits stop]
  exact if_neg (by simpa using present)

def exponentDigits (e : Int) : List Char :=
  let ds := Nat.toDigits 10 e.natAbs
  if ds.length < 2 then '0' :: ds else ds

theorem exponentText_eq (e : Int) :
    Decimal.exponentText e = 'e' :: (if e < 0 then '-' else '+') :: exponentDigits e := rfl

theorem exponentDigits_value (e : Int) : digitsValue (exponentDigits e) = e.natAbs := by
  unfold exponentDigits
  dsimp only
  split
  · exact (digitsValue_zeros_append 1 _).trans (digitsValue_toDigits _)
  · exact digitsValue_toDigits _

theorem isDigit_exponentDigits {e : Int} : ∀ c ∈ exponentDigits e, c.isDigit := by
  unfold exponentDigits
  dsimp only
  split
  · rintro c (_ | member)
    · rfl
    · exact isDigit_toDigits c ‹_›
  · exact isDigit_toDigits

theorem exponentDigits_ne_nil (e : Int) : exponentDigits e ≠ [] := by
  unfold exponentDigits
  dsimp only
  split
  · exact List.cons_ne_nil _ _
  · exact Nat.toDigits_ne_nil

theorem exponent?_exponentText (e : Int) : exponent? (Decimal.exponentText e) = some e := by
  have present : (exponentDigits e).isEmpty = false := by
    simpa using exponentDigits_ne_nil e
  have digits : (exponentDigits e).all Char.isDigit := List.all_eq_true.2 isDigit_exponentDigits
  have marked : exponent? (Decimal.exponentText e) = readExponent? (Decimal.exponentText e) := by
    simp [exponentText_eq, exponent?]
  rw [marked, exponentText_eq]
  by_cases negative : e < 0
  · have read : readExponent? ('e' :: '-' :: exponentDigits e) =
        some (-(digitsValue (exponentDigits e) : Int)) := by
      simp [readExponent?, present, digits]
    rw [if_pos negative, read, exponentDigits_value]
    congr 1
    omega
  · have read : readExponent? ('e' :: '+' :: exponentDigits e) =
        some (digitsValue (exponentDigits e) : Int) := by
      simp [readExponent?, present, digits]
    rw [if_neg negative, read, exponentDigits_value]
    congr 1
    omega

theorem noDigit_exponentText (e : Int) : NoDigit (Decimal.exponentText e) := by
  rintro c ⟨⟩
  rfl

theorem tail?_exponentText {negative : Bool} {whole : List Char} (e : Int) :
    tail? negative whole (Decimal.exponentText e) = some (decimal negative whole [] e) := by
  have plain : tail? negative whole (Decimal.exponentText e) =
      (exponent? (Decimal.exponentText e)).map (decimal negative whole []) := by
    simp [exponentText_eq, tail?]
  rw [plain, exponent?_exponentText]
  rfl

theorem normalize_eq (d : Decimal) : Decimal.normalize d.negative d.digits d.exponent = d := by
  obtain ⟨negative, digits, exponent, normal⟩ := d
  rw [Decimal.normalize]
  split
  · rename_i zero
    subst zero
    obtain ⟨_, rfl⟩ | nonzero := normal
    · rfl
    · exact absurd rfl nonzero
  · rename_i nonzero
    have last : digits % 10 ≠ 0 := by
      obtain ⟨zero, _⟩ | last := normal
      · exact absurd zero nonzero
      · exact last
    exact dif_neg last

theorem normalize_zero (negative : Bool) (e : Int) :
    Decimal.normalize negative 0 e = Decimal.normalize negative 0 0 := by
  simp [Decimal.normalize]

theorem normalize_scaled (negative : Bool) (n k : Nat) (e : Int) :
    Decimal.normalize negative (n * 10 ^ k) (e - k) = Decimal.normalize negative n e := by
  induction k with
  | zero => simp
  | succ k ih =>
    rcases Nat.eq_zero_or_pos n with rfl | pos
    · rw [Nat.zero_mul, normalize_zero negative (e - _), normalize_zero negative e]
    · have grown : n * 10 ^ (k + 1) = 10 * (n * 10 ^ k) := by ring
      have nonzero : 0 < n * 10 ^ k := Nat.mul_pos pos (Nat.pow_pos (by decide))
      rw [← ih, Decimal.normalize, if_neg (by omega), dif_pos (by omega)]
      congr 1
      · omega
      · push_cast
        ring

/-- Digits that stand for a number some places up stand for the number. -/
theorem decimal_eq {d : Decimal} {whole fraction : List Char} {e : Int} (k : Nat)
    (value : digitsValue (whole ++ fraction) = d.digits * 10 ^ k)
    (place : e - fraction.length = d.exponent - k) :
    decimal d.negative whole fraction e = .float (.finite d) := by
  unfold decimal
  rw [value, place, normalize_scaled, normalize_eq]

theorem noDigit_nil : NoDigit [] := nofun

section Layouts

variable {d : Decimal}

theorem magnitude?_pointed (whole fraction rest : List Char) {e : Int} (k : Nat)
    (before : ∀ c ∈ whole, c.isDigit) (headed : isWhole whole)
    (behind : ∀ c ∈ fraction, c.isDigit) (present : fraction ≠ []) (stop : NoDigit rest)
    (scale : exponent? rest = some e)
    (value : digitsValue (whole ++ fraction) = d.digits * 10 ^ k)
    (place : e - fraction.length = d.exponent - k) :
    magnitude? d.negative (whole ++ ('.' :: fraction ++ rest)) = some (.float (.finite d)) := by
  have point : NoDigit ('.' :: fraction ++ rest) := by
    rintro c ⟨⟩
    rfl
  rw [magnitude?_append _ before headed point, tail?_point behind present stop, scale,
    Option.map_some, decimal_eq k value place]

variable {ds : List Char} {point : Int}

theorem magnitude?_positional (spelled : ds = Nat.toDigits 10 d.digits)
    (place : point = ds.length + d.exponent) :
    magnitude? d.negative (Decimal.positional ds point ['.', '0']) = some (.float (.finite d)) := by
  have digits : ∀ c ∈ ds, c.isDigit := spelled ▸ isDigit_toDigits
  have present : ds ≠ [] := spelled ▸ Nat.toDigits_ne_nil
  have value : digitsValue ds = d.digits := spelled ▸ digitsValue_toDigits _
  have headed : isWhole ds := spelled ▸ isWhole_toDigits _
  unfold Decimal.positional
  split
  · -- Zeros behind the point, then all digits.
    have all : ∀ c ∈ List.replicate (-point).toNat '0' ++ ds, c.isDigit :=
      List.forall_mem_append.2 ⟨isDigit_zeros, digits⟩
    have sum : digitsValue (['0'] ++ (List.replicate (-point).toNat '0' ++ ds)) =
        d.digits * 10 ^ 0 := by
      have zero : ['0'] = List.replicate 1 '0' := rfl
      rw [zero, digitsValue_zeros_append, digitsValue_zeros_append, value, Nat.pow_zero,
        Nat.mul_one]
    have read := magnitude?_pointed (d := d) ['0'] (List.replicate (-point).toNat '0' ++ ds) [] 0
      (by simp) rfl all (by simp [present]) noDigit_nil rfl sum (by simp; omega)
    simpa using read
  · split
    · -- All digits and zeros before the point, a zero behind it.
      have zeros : (point.toNat - ds.length : Nat) = d.exponent := by omega
      have all : ∀ c ∈ ds ++ List.replicate (point.toNat - ds.length) '0', c.isDigit :=
        List.forall_mem_append.2 ⟨digits, isDigit_zeros⟩
      have whole : isWhole (ds ++ List.replicate (point.toNat - ds.length) '0') := by
        rcases d.normal with ⟨zero, none⟩ | last
        · have empty : point.toNat - ds.length = 0 := by omega
          rw [empty, List.replicate_zero, List.append_nil]
          exact headed
        · have pos : 0 < d.digits := by omega
          exact isWhole_append present (spelled ▸ head?_toDigits_ne pos) _
      have read := magnitude?_pointed (d := d) _ ['0'] [] (point.toNat - ds.length + 1)
        all whole (by simp) (by simp) noDigit_nil rfl
        (by
          rw [List.append_assoc, ← List.replicate_succ', digitsValue_append_zeros, value])
        (by simp; omega)
      simpa using read
    · -- The point stands among the digits.
      have inside : point.toNat < ds.length := by omega
      have read := magnitude?_pointed (d := d) (ds.take point.toNat) (ds.drop point.toNat) [] 0
        (fun c member => digits c (List.mem_of_mem_take member)) (isWhole_take headed (by omega))
        (fun c member => digits c (List.mem_of_mem_drop member)) (by simpa using inside)
        noDigit_nil rfl (by rw [List.take_append_drop, value]; simp) (by simp; omega)
      simpa using read

theorem magnitude?_scientific (spelled : ds = Nat.toDigits 10 d.digits)
    (place : point = ds.length + d.exponent) :
    magnitude? d.negative (Decimal.scientific ds point) = some (.float (.finite d)) := by
  have digits : ∀ c ∈ ds, c.isDigit := spelled ▸ isDigit_toDigits
  have value : digitsValue ds = d.digits := spelled ▸ digitsValue_toDigits _
  match ds, digits with
  | [], _ => exact absurd spelled.symm Nat.toDigits_ne_nil
  | [c], digits =>
    have read := magnitude?_append d.negative digits rfl (noDigit_exponentText (point - 1))
    rw [tail?_exponentText, decimal_eq 0 (by simpa using value) (by simp at place; simp; omega)]
      at read
    exact read
  | c :: c' :: rest, digits =>
    obtain ⟨first, others⟩ := List.forall_mem_cons.1 digits
    exact magnitude?_pointed (d := d) [c] (c' :: rest) (Decimal.exponentText (point - 1)) 0
      (List.forall_mem_singleton.2 first) rfl others (List.cons_ne_nil _ _)
      (noDigit_exponentText _) (exponent?_exponentText _) (by simpa using value)
      (by simp at place; simp; omega)

end Layouts

theorem isDigit_ne {c other : Char} (digit : c.isDigit) (mark : other.isDigit = false) :
    c ≠ other := by
  rintro rfl
  rw [digit] at mark
  cases mark

theorem read?_of_digit {c : Char} {cs : List Char} (digit : c.isDigit) :
    read? (c :: cs) = magnitude? false (c :: cs) := by
  have unsigned : c ≠ '-' := isDigit_ne digit rfl
  simp [read?, unsigned]

theorem magnitude?_toDigits (negative : Bool) (n : Nat) :
    magnitude? negative (Nat.toDigits 10 n) = some (.int (if negative then -(n : Int) else n)) := by
  have read := magnitude?_append negative isDigit_toDigits (isWhole_toDigits n) noDigit_nil
  rw [List.append_nil] at read
  rw [read]
  change some (integer negative _) = _
  unfold integer
  rw [digitsValue_toDigits]

theorem read?_int (n : Int) : read? (toString n).toList = some (.int n) := by
  rw [Int.toString_eq_repr, Int.repr_eq_if]
  split
  · rename_i natural
    rw [Nat.toList_repr]
    cases text : Nat.toDigits 10 n.toNat with
    | nil => exact absurd text Nat.toDigits_ne_nil
    | cons c cs =>
      have digit : c.isDigit := isDigit_toDigits c (text ▸ List.mem_cons_self)
      rw [read?_of_digit digit, ← text, magnitude?_toDigits, if_neg Bool.false_ne_true,
        Int.toNat_of_nonneg natural]
  · rename_i below
    rw [String.toList_append, Nat.toList_repr]
    change magnitude? true (Nat.toDigits 10 (-n).toNat) = _
    rw [magnitude?_toDigits, if_pos rfl, Int.toNat_of_nonneg (by omega), Int.neg_neg]

def body (d : Decimal) : List Char :=
  let ds := Nat.toDigits 10 d.digits
  let point := (ds.length : Int) + d.exponent
  if -4 < point ∧ point ≤ 16 then Decimal.positional ds point ['.', '0']
  else Decimal.scientific ds point

theorem text_eq (d : Decimal) : d.text = if d.negative then '-' :: body d else body d := rfl

theorem magnitude?_body (d : Decimal) :
    magnitude? d.negative (body d) = some (.float (.finite d)) := by
  unfold body
  dsimp only
  split
  · exact magnitude?_positional rfl rfl
  · exact magnitude?_scientific rfl rfl

/-- What reads as a magnitude starts with a digit. -/
theorem digit_of_magnitude? {negative : Bool} {cs : List Char} {value : Scalar}
    (read : magnitude? negative cs = some value) : ∃ c rest, cs = c :: rest ∧ c.isDigit := by
  cases cs with
  | nil => cases read
  | cons c rest =>
    refine ⟨c, rest, rfl, ?_⟩
    by_contra mark
    have none : spanDigits (c :: rest) = ([], c :: rest) := by
      unfold spanDigits
      rw [List.takeWhile_cons_of_neg mark, List.dropWhile_cons_of_neg mark]
    unfold magnitude? at read
    rw [none] at read
    cases read

theorem read?_text (d : Decimal) : read? d.text = some (.float (.finite d)) := by
  have read := magnitude?_body d
  rw [text_eq]
  cases sign : d.negative with
  | true =>
    rw [sign] at read
    exact read
  | false =>
    obtain ⟨c, rest, text, digit⟩ := digit_of_magnitude? read
    rw [sign] at read
    change read? (body d) = _
    rw [text, read?_of_digit digit, ← text, read]

section Characters

def marks : List Char :=
  "0123456789-+.eE".toList

theorem mem_marks_of_isDigit {c : Char} (digit : c.isDigit) : c ∈ marks := by
  obtain ⟨above, below⟩ : 48 ≤ c.toNat ∧ c.toNat ≤ 57 := by
    simpa [Char.isDigit, UInt32.le_iff_toNat_le] using digit
  rw [← Char.ofNat_toNat c]
  generalize c.toNat = n at above below
  interval_cases n <;> decide

theorem spanDigits_eq {cs ds rest : List Char} (split : spanDigits cs = (ds, rest)) :
    cs = ds ++ rest ∧ ∀ c ∈ ds, c ∈ marks := by
  obtain ⟨rfl, rfl⟩ := Prod.mk.inj split
  refine ⟨List.takeWhile_append_dropWhile.symm, fun c member => ?_⟩
  exact mem_marks_of_isDigit (List.all_eq_true.1 List.all_takeWhile c member)

theorem mem_marks_of_readExponent? {cs : List Char} {e : Int} (read : readExponent? cs = some e) :
    ∀ c ∈ cs, c ∈ marks := by
  cases cs with
  | nil => nofun
  | cons mark cs =>
    unfold readExponent? at read
    dsimp only at read
    split at read
    · cases read
    · rename_i marked
      obtain rfl : mark = 'e' := by simpa using marked
      have digits : ∀ {ds : List Char} {value : Int},
          (if ds.isEmpty || !ds.all Char.isDigit then none else some value) = some e →
            ∀ c ∈ ds, c ∈ marks := by
        intro ds value taken c member
        split at taken
        · cases taken
        · rename_i all
          simp only [Bool.or_eq_true, Bool.not_eq_true', not_or, Bool.not_eq_false] at all
          exact mem_marks_of_isDigit (List.all_eq_true.1 all.2 c member)
      rw [List.forall_mem_cons]
      refine ⟨by decide, ?_⟩
      split at read
      · exact List.forall_mem_cons.2 ⟨by decide, digits read⟩
      · exact List.forall_mem_cons.2 ⟨by decide, digits read⟩
      · exact digits read

theorem mem_marks_of_exponent? {cs : List Char} {e : Int} (read : exponent? cs = some e) :
    ∀ c ∈ cs, c ∈ marks := by
  unfold exponent? at read
  split at read
  · have marks := mem_marks_of_readExponent? read
    exact List.forall_mem_cons.2 ⟨by decide, (List.forall_mem_cons.1 marks).2⟩
  · exact mem_marks_of_readExponent? read

theorem mem_marks_of_tail? {negative : Bool} {whole cs : List Char} {value : Scalar}
    (read : tail? negative whole cs = some value) : ∀ c ∈ cs, c ∈ marks := by
  unfold tail? at read
  split at read
  · nofun
  · rename_i cs
    cases parts : spanDigits cs with
    | mk fraction rest =>
      rw [parts] at read
      dsimp only at read
      split at read
      · cases read
      · obtain ⟨e, scale, _⟩ := Option.map_eq_some_iff.1 read
        obtain ⟨rfl, digits⟩ := spanDigits_eq parts
        have behind := List.forall_mem_append.2 ⟨digits, mem_marks_of_exponent? scale⟩
        exact List.forall_mem_cons.2 ⟨by decide, behind⟩
  · obtain ⟨e, scale, _⟩ := Option.map_eq_some_iff.1 read
    exact mem_marks_of_exponent? scale

theorem mem_marks_of_magnitude? {negative : Bool} {cs : List Char} {value : Scalar}
    (read : magnitude? negative cs = some value) : ∀ c ∈ cs, c ∈ marks := by
  unfold magnitude? at read
  cases parts : spanDigits cs with
  | mk whole rest =>
    rw [parts] at read
    dsimp only at read
    split at read
    · obtain ⟨rfl, digits⟩ := spanDigits_eq parts
      exact List.forall_mem_append.2 ⟨digits, mem_marks_of_tail? read⟩
    · cases read

theorem mem_marks_of_read? {cs : List Char} {value : Scalar} (read : read? cs = some value) :
    ∀ c ∈ cs, c ∈ marks := by
  unfold read? at read
  split at read
  · exact List.forall_mem_cons.2 ⟨by decide, mem_marks_of_magnitude? read⟩
  · exact mem_marks_of_magnitude? read

end Characters

end Numeral

end Cascade
