import Cascade.Node.Json
import Cascade.Proofs.Number.Numeral

set_option autoImplicit false

/-!
# Reading JSON text

A machine reads a text character by character.  Its `Stage` holds the containers that are open and
says what may come next; its `Mode` says whether it stands between tokens, in a bare word or in a
string.
-/
namespace Cascade

namespace Json

/-- A container whose next part is being read, with its parts so far, the latest first. -/
inductive Level where
  | list (items : List Wire)
  | record (fields : List (String × Wire)) (key : String)

inductive Stage where
  | valueDue (outer : List Level)
  | listStart (outer : List Level)
  | itemRead (items : List Wire) (outer : List Level)
  | recordStart (outer : List Level)
  | keyDue (fields : List (String × Wire)) (outer : List Level)
  | keyRead (fields : List (String × Wire)) (key : String) (outer : List Level)
  | fieldRead (fields : List (String × Wire)) (outer : List Level)
  | done (w : Wire)

inductive Token where
  | listOpen | listClose | recordOpen | recordClose | comma | colon
  | constant (value : Scalar)

namespace Stage

def deliver (w : Wire) : List Level → Stage
  | [] => done w
  | .list items :: outer => itemRead (w :: items) outer
  | .record fields key :: outer => fieldRead ((key, w) :: fields) outer

def begin? (outer : List Level) : Token → Option Stage
  | .constant value => some (deliver (.scalar value) outer)
  | .listOpen => some (listStart outer)
  | .recordOpen => some (recordStart outer)
  | _ => none

def next? : Stage → Token → Option Stage
  | valueDue outer, token => begin? outer token
  | listStart outer, .listClose => some (deliver (.list []) outer)
  | listStart outer, token => begin? (.list [] :: outer) token
  | itemRead items outer, .comma => some (valueDue (.list items :: outer))
  | itemRead items outer, .listClose => some (deliver (.list items.reverse) outer)
  | recordStart outer, .recordClose => some (deliver (.record []) outer)
  | recordStart outer, .constant (.str key) => some (keyRead [] key outer)
  | keyDue fields outer, .constant (.str key) => some (keyRead fields key outer)
  | keyRead fields key outer, .colon => some (valueDue (.record fields key :: outer))
  | fieldRead fields outer, .comma => some (keyDue fields outer)
  | fieldRead fields outer, .recordClose => some (deliver (.record fields.reverse) outer)
  | _, _ => none

end Stage

def word? (cs : List Char) : Option Scalar :=
  if cs = "true".toList then some (.bool true)
  else if cs = "false".toList then some (.bool false)
  else if cs = "null".toList then some .none
  else Numeral.read? cs

def isBlank (c : Char) : Bool :=
  c == ' ' || c == '\t' || c == '\n' || c == '\r'

def mark? : Char → Option Token
  | '[' => some .listOpen
  | ']' => some .listClose
  | '{' => some .recordOpen
  | '}' => some .recordClose
  | ',' => some .comma
  | ':' => some .colon
  | _ => none

def isDelimiter (c : Char) : Bool :=
  isBlank c || (mark? c).isSome

def escape? : Char → Option Char
  | '"' => some '"'
  | '\\' => some '\\'
  | '/' => some '/'
  | 'b' => some (Char.ofNat 8)
  | 'f' => some (Char.ofNat 12)
  | 'n' => some '\n'
  | 'r' => some '\r'
  | 't' => some '\t'
  | _ => none

def hexValue? (c : Char) : Option Nat :=
  if c.isDigit then some (c.toNat - 48)
  else if 'a' ≤ c ∧ c ≤ 'f' then some (c.toNat - 87)
  else if 'A' ≤ c ∧ c ≤ 'F' then some (c.toNat - 55)
  else none

/-- Where the machine stands in the text.  In a string, `read` holds the characters so far, the
latest first, and `high` the first half of a pair of surrogates that waits for the second. -/
inductive Mode where
  | between
  | word (read : List Char)
  | quoted (read : List Char) (high : Option Nat)
  | escaped (read : List Char) (high : Option Nat)
  | unit (read : List Char) (high : Option Nat) (left value : Nat)

namespace Mode

/-- A character of a string is complete.  It cannot stand inside a pair of surrogates. -/
def push? (read : List Char) (high : Option Nat) (c : Char) : Option Mode :=
  if high.isSome then none else some (quoted (c :: read) none)

def pushUnit? (read : List Char) (high : Option Nat) (n : Nat) : Option Mode :=
  match high with
  | none =>
    if 0xD800 ≤ n ∧ n < 0xDC00 then some (quoted read (some n))
    else if 0xDC00 ≤ n ∧ n < 0xE000 then none
    else some (quoted (Char.ofNat n :: read) none)
  | some first =>
    if 0xDC00 ≤ n ∧ n < 0xE000 then
      some (quoted (Char.ofNat (0x10000 + (first - 0xD800) * 0x400 + (n - 0xDC00)) :: read) none)
    else none

end Mode

structure Machine where
  stage : Stage
  mode : Mode

namespace Machine

def start : Machine := ⟨.valueDue [], .between⟩

def take? (stage : Stage) (token : Token) : Option Machine :=
  (stage.next? token).map (⟨·, .between⟩)

def enter? (stage : Stage) (c : Char) : Option Machine :=
  if isBlank c then some ⟨stage, .between⟩
  else if c = '"' then some ⟨stage, .quoted [] none⟩
  else match mark? c with
    | some token => take? stage token
    | none => some ⟨stage, .word [c]⟩

/-- The stage between tokens, where a word that has been read so far ends. -/
def settle? : Machine → Option Stage
  | ⟨stage, .between⟩ => some stage
  | ⟨stage, .word read⟩ => (word? read.reverse).bind fun value => stage.next? (.constant value)
  | _ => none

def step? (m : Machine) (c : Char) : Option Machine :=
  match m.mode with
  | .between => enter? m.stage c
  | .word read =>
    if isDelimiter c then m.settle?.bind (enter? · c) else some ⟨m.stage, .word (c :: read)⟩
  | .quoted read high =>
    if c = '"' then
      if high.isSome then none else take? m.stage (.constant (.str (String.ofList read.reverse)))
    else if c = '\\' then some ⟨m.stage, .escaped read high⟩
    else if c.toNat < 0x20 then none
    else (Mode.push? read high c).map (⟨m.stage, ·⟩)
  | .escaped read high =>
    if c = 'u' then some ⟨m.stage, .unit read high 4 0⟩
    else ((escape? c).bind (Mode.push? read high)).map (⟨m.stage, ·⟩)
  | .unit read high left value =>
    (hexValue? c).bind fun digit =>
      if left = 1 then (Mode.pushUnit? read high (16 * value + digit)).map (⟨m.stage, ·⟩)
      else some ⟨m.stage, .unit read high (left - 1) (16 * value + digit)⟩

def run? (m : Machine) (cs : List Char) : Option Machine :=
  cs.foldlM step? m

end Machine

def read? (text : String) : Option Wire :=
  match (Machine.start.run? text.toList).bind Machine.settle? with
  | some (.done w) => some w
  | _ => none

namespace Machine

theorem run?_cons (m : Machine) (c : Char) (cs : List Char) :
    m.run? (c :: cs) = (m.step? c).bind (·.run? cs) := rfl

theorem run?_append (m : Machine) (cs ds : List Char) :
    m.run? (cs ++ ds) = (m.run? cs).bind (·.run? ds) :=
  List.foldlM_append

section Strings

variable {stage : Stage} {read : List Char}

theorem hexValue?_hexDigit : ∀ n < 16, hexValue? (Text.hexDigit n) = some n := by
  decide

theorem step?_hexDigit {high : Option Nat} {left value n : Nat} (small : n < 16) (more : left ≠ 1) :
    (Machine.mk stage (.unit read high left value)).step? (Text.hexDigit n) =
      some ⟨stage, .unit read high (left - 1) (16 * value + n)⟩ := by
  simp only [step?, hexValue?_hexDigit n small, Option.bind_some]
  exact if_neg more

theorem step?_lastHexDigit {high : Option Nat} {value n : Nat} (small : n < 16) :
    (Machine.mk stage (.unit read high 1 value)).step? (Text.hexDigit n) =
      (Mode.pushUnit? read high (16 * value + n)).map (⟨stage, ·⟩) := by
  simp only [step?, hexValue?_hexDigit n small, Option.bind_some, if_true]

/-- An escaped unit is read by its four digits. -/
theorem run?_jsonUnit {high : Option Nat} {n : Nat} (small : n < 0x10000) :
    (Machine.mk stage (.quoted read high)).run? (Wire.jsonUnit n) =
      (Mode.pushUnit? read high n).map (⟨stage, ·⟩) := by
  have digits : Wire.jsonUnit n = ['\\', 'u', Text.hexDigit (n / 16 / 16 / 16 % 16),
    Text.hexDigit (n / 16 / 16 % 16), Text.hexDigit (n / 16 % 16), Text.hexDigit (n % 16)] := rfl
  have opened : (Machine.mk stage (.quoted read high)).run? (Wire.jsonUnit n) =
      (Machine.mk stage (.unit read high 4 0)).run? [Text.hexDigit (n / 16 / 16 / 16 % 16),
        Text.hexDigit (n / 16 / 16 % 16), Text.hexDigit (n / 16 % 16), Text.hexDigit (n % 16)] := by
    rw [digits]
    rfl
  rw [opened, run?_cons, step?_hexDigit (by omega) (by decide), Option.bind_some,
    run?_cons, step?_hexDigit (by omega) (by decide), Option.bind_some,
    run?_cons, step?_hexDigit (by omega) (by decide), Option.bind_some,
    run?_cons, step?_lastHexDigit (by omega)]
  have value : 16 * (16 * (16 * (16 * 0 + n / 16 / 16 / 16 % 16) + n / 16 / 16 % 16) +
      n / 16 % 16) + n % 16 = n := by
    omega
  rw [value]
  exact Option.bind_fun_some _

theorem toNat_not_surrogate (c : Char) : ¬(0xD800 ≤ c.toNat ∧ c.toNat < 0xE000) := by
  rintro ⟨above, below⟩
  have valid : c.toNat < 0xD800 ∨ 0xDFFF < c.toNat ∧ c.toNat < 0x110000 := c.valid
  omega

theorem toNat_lt (c : Char) : c.toNat < 0x110000 := by
  have valid : c.toNat < 0xD800 ∨ 0xDFFF < c.toNat ∧ c.toNat < 0x110000 := c.valid
  omega

theorem eq_ofNat {c : Char} {n : Nat} (code : c.toNat = n) : c = Char.ofNat n := by
  rw [← code, Char.ofNat_toNat]

theorem run?_numbered {c : Char} (small : c.toNat < 0x10000) :
    (Machine.mk stage (.quoted read none)).run? (Wire.jsonUnit c.toNat) =
      some ⟨stage, .quoted (c :: read) none⟩ := by
  have scalar := toNat_not_surrogate c
  have high : ¬(0xD800 ≤ c.toNat ∧ c.toNat < 0xDC00) := by omega
  have low : ¬(0xDC00 ≤ c.toNat ∧ c.toNat < 0xE000) := by omega
  rw [run?_jsonUnit small]
  simp only [Mode.pushUnit?]
  rw [if_neg high, if_neg low, Char.ofNat_toNat]
  rfl

theorem run?_surrogates {c : Char} (large : ¬ c.toNat < 0x10000) :
    (Machine.mk stage (.quoted read none)).run?
        (Wire.jsonUnit (0xD800 + (c.toNat - 0x10000) / 0x400) ++
          Wire.jsonUnit (0xDC00 + (c.toNat - 0x10000) % 0x400)) =
      some ⟨stage, .quoted (c :: read) none⟩ := by
  have bound := toNat_lt c
  have first : 0xD800 ≤ 0xD800 + (c.toNat - 0x10000) / 0x400 ∧
      0xD800 + (c.toNat - 0x10000) / 0x400 < 0xDC00 := by
    omega
  have second : 0xDC00 ≤ 0xDC00 + (c.toNat - 0x10000) % 0x400 ∧
      0xDC00 + (c.toNat - 0x10000) % 0x400 < 0xE000 := by
    omega
  have code : 0x10000 + (0xD800 + (c.toNat - 0x10000) / 0x400 - 0xD800) * 0x400 +
      (0xDC00 + (c.toNat - 0x10000) % 0x400 - 0xDC00) = c.toNat := by
    omega
  rw [run?_append, run?_jsonUnit (by omega)]
  simp only [Mode.pushUnit?]
  rw [if_pos first, Option.map_some, Option.bind_some, run?_jsonUnit (by omega)]
  simp only [Mode.pushUnit?]
  rw [if_pos second, code, Char.ofNat_toNat]
  rfl

theorem run?_jsonChar (c : Char) :
    (Machine.mk stage (.quoted read none)).run? (Wire.jsonChar c) =
      some ⟨stage, .quoted (c :: read) none⟩ := by
  unfold Wire.jsonChar
  dsimp only
  split
  · rename_i special
    rw [Bool.or_eq_true, beq_iff_eq, beq_iff_eq] at special
    rcases special with rfl | rfl
    · rfl
    · rfl
  rename_i special
  split
  · rename_i here
    obtain rfl := beq_iff_eq.1 here
    rfl
  split
  · rename_i here
    obtain rfl := beq_iff_eq.1 here
    rfl
  split
  · rename_i here
    obtain rfl := beq_iff_eq.1 here
    rfl
  split
  · rename_i here
    obtain rfl := eq_ofNat (beq_iff_eq.1 here)
    rfl
  split
  · rename_i here
    obtain rfl := eq_ofNat (beq_iff_eq.1 here)
    rfl
  split
  · -- A printable character stands for itself.
    rename_i printable
    simp only [Bool.or_eq_true, beq_iff_eq, not_or] at special
    have visible : ¬c.toNat < 0x20 := by
      simp at printable
      omega
    rw [run?_cons]
    simp [step?, special.1, special.2, visible, Mode.push?]
    rfl
  split
  · rename_i small
    exact run?_numbered small
  · rename_i large
    exact run?_surrogates large

theorem run?_flatMap_jsonChar (cs read : List Char) :
    (Machine.mk stage (.quoted read none)).run? (cs.flatMap Wire.jsonChar) =
      some ⟨stage, .quoted (cs.reverse ++ read) none⟩ := by
  induction cs generalizing read with
  | nil => rfl
  | cons c cs ih =>
    rw [List.flatMap_cons, run?_append, run?_jsonChar, Option.bind_some, ih, List.reverse_cons,
      List.append_assoc]
    rfl

theorem run?_jsonString (s : String) :
    (Machine.mk stage .between).run? (Wire.jsonString s) = take? stage (.constant (.str s)) := by
  have close : (Machine.mk stage (.quoted (s.toList.reverse ++ []) none)).step? '"' =
      take? stage (.constant (.str s)) := by
    simp [step?]
  unfold Wire.jsonString
  rw [List.cons_append, run?_cons]
  change (Machine.mk stage (.quoted [] none)).run? _ = _
  rw [run?_append, run?_flatMap_jsonChar, Option.bind_some, run?_cons, close]
  exact Option.bind_fun_some _

end Strings

end Machine

end Json

end Cascade
