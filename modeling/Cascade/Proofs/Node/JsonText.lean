import Cascade.Proofs.Node.JsonReader

set_option autoImplicit false

namespace Cascade

namespace Scalar

def hasJson : Scalar → Bool
  | .none | .bool _ | .int _ | .str _ => true
  | .float value => value.isFinite
  | .imaginary _ | .bytes _ | .ellipsis => false

def Written (values : List Scalar) : Prop :=
  ∀ value ∈ values, value.hasJson

theorem written_append {vs ws : List Scalar} : Written (vs ++ ws) ↔ Written vs ∧ Written ws :=
  List.forall_mem_append

end Scalar

namespace Json

namespace Machine

section Words

def isSolid (c : Char) : Bool :=
  !isDelimiter c && c != '"'

/-- A word that stands for something is made of solid characters. -/
theorem isSolid_of_word? {cs : List Char} {value : Scalar} (word : word? cs = some value) :
    cs ≠ [] ∧ ∀ c ∈ cs, isSolid c := by
  unfold word? at word
  split at word
  · subst cs
    exact ⟨by decide, List.all_eq_true.1 rfl⟩
  split at word
  · subst cs
    exact ⟨by decide, List.all_eq_true.1 rfl⟩
  split at word
  · subst cs
    exact ⟨by decide, List.all_eq_true.1 rfl⟩
  have marks : ∀ c ∈ Numeral.marks, isSolid c := List.all_eq_true.1 rfl
  refine ⟨?_, fun c member => marks c (Numeral.mem_marks_of_read? word c member)⟩
  rintro rfl
  cases word

variable {stage : Stage}

theorem enter?_solid {c : Char} (solid : isSolid c) : enter? stage c = some ⟨stage, .word [c]⟩ := by
  obtain ⟨⟨blank, mark⟩, quote⟩ : (isBlank c = false ∧ mark? c = none) ∧ c ≠ '"' := by
    simpa [isSolid, isDelimiter] using solid
  simp [enter?, blank, mark, quote]

theorem run?_solid {cs : List Char} (solid : ∀ c ∈ cs, isSolid c) (read : List Char) :
    (Machine.mk stage (.word read)).run? cs = some ⟨stage, .word (cs.reverse ++ read)⟩ := by
  induction cs generalizing read with
  | nil => rfl
  | cons c cs ih =>
    obtain ⟨head, tail⟩ := List.forall_mem_cons.1 solid
    have plain : isDelimiter c = false := by
      simp [isSolid] at head
      exact head.1
    have stepped : (Machine.mk stage (.word read)).step? c =
        some ⟨stage, .word (c :: read)⟩ := by
      simp [step?, plain]
    rw [run?_cons, stepped, Option.bind_some, ih tail, List.reverse_cons, List.append_assoc]
    rfl

/-- A word is read whole. -/
theorem run?_word {cs : List Char} {value : Scalar} (word : word? cs = some value) :
    (Machine.mk stage .between).run? cs = some ⟨stage, .word cs.reverse⟩ := by
  obtain ⟨present, solid⟩ := isSolid_of_word? word
  cases cs with
  | nil => exact absurd rfl present
  | cons c cs =>
    obtain ⟨head, tail⟩ := List.forall_mem_cons.1 solid
    have entered : (Machine.mk stage .between).step? c = some ⟨stage, .word [c]⟩ :=
      enter?_solid head
    rw [run?_cons, entered, Option.bind_some, run?_solid tail, List.reverse_cons]

end Words

/-- Reading a text leads to a stage, once the word at its end is over. -/
def Reaches (m : Machine) (cs : List Char) (stage : Stage) : Prop :=
  ∃ m', m.run? cs = some m' ∧ m'.settle? = some stage

section Layout

variable {m : Machine} {stage next : Stage}

/-- A delimiter ends the word before it. -/
theorem step?_delimiter {c : Char} (delimiter : isDelimiter c) (settled : m.settle? = some stage) :
    m.step? c = enter? stage c := by
  obtain ⟨at_stage, mode⟩ := m
  cases mode with
  | between =>
    obtain rfl := Option.some.inj settled
    rfl
  | word read =>
    simp only [step?]
    rw [if_pos delimiter, settled]
    rfl
  | quoted | escaped | unit => cases settled

theorem enter?_mark {c : Char} {token : Token} (mark : mark? c = some token) :
    enter? stage c = take? stage token := by
  have plain : isBlank c = false ∧ c ≠ '"' := by
    unfold mark? at mark
    split at mark
    · decide
    · decide
    · decide
    · decide
    · decide
    · decide
    · cases mark
  simp [enter?, plain.1, plain.2, mark]

theorem step?_mark {c : Char} {token : Token} (mark : mark? c = some token)
    (settled : m.settle? = some stage) (follows : stage.next? token = some next) :
    m.step? c = some ⟨next, .between⟩ := by
  rw [step?_delimiter (by simp [isDelimiter, mark]) settled, enter?_mark mark]
  unfold take?
  rw [follows]
  rfl

theorem run?_blanks (count : Nat) :
    (Machine.mk stage .between).run? (List.replicate count ' ') = some ⟨stage, .between⟩ := by
  induction count with
  | zero => rfl
  | succ count ih => exact ih

theorem run?_break (indent : Option Nat) (level : Nat) :
    (Machine.mk stage .between).run? (Wire.jsonBreak indent level) = some ⟨stage, .between⟩ := by
  cases indent with
  | none => rfl
  | some width => exact run?_blanks _

theorem reaches_break (settled : m.settle? = some stage) (indent : Option Nat) (level : Nat) :
    m.Reaches (Wire.jsonBreak indent level) stage := by
  cases indent with
  | none => exact ⟨m, rfl, settled⟩
  | some width =>
    have entered : m.step? '\n' = some ⟨stage, .between⟩ := step?_delimiter rfl settled
    refine ⟨⟨stage, .between⟩, ?_, rfl⟩
    unfold Wire.jsonBreak
    dsimp only
    rw [run?_cons, entered, Option.bind_some, run?_blanks]

theorem run?_separator (settled : m.settle? = some stage) (follows : stage.next? .comma = some next)
    (indent : Option Nat) (level : Nat) :
    m.run? (Wire.jsonSeparator indent level) = some ⟨next, .between⟩ := by
  have entered : m.step? ',' = some ⟨next, .between⟩ :=
    step?_mark rfl settled follows
  cases indent with
  | none =>
    change m.run? (',' :: [' ']) = _
    rw [run?_cons, entered]
    rfl
  | some width =>
    change m.run? (',' :: Wire.jsonBreak (some width) level) = _
    rw [run?_cons, entered, Option.bind_some, run?_break]

end Layout

theorem word?_of_numeral {cs : List Char} {value : Scalar} (read : Numeral.read? cs = some value) :
    word? cs = some value := by
  unfold word?
  rw [if_neg, if_neg, if_neg, read]
  all_goals
    rintro rfl
    cases read

/-- A constant with a text is a string or a word. -/
theorem word?_jsonScalar {value : Scalar} (plain : value.hasJson) :
    (∃ s, value = .str s) ∨ word? (Wire.jsonScalar value) = some value := by
  cases value with
  | none => exact .inr rfl
  | bool b => cases b <;> exact .inr rfl
  | int n => exact .inr (word?_of_numeral (Numeral.read?_int n))
  | float x =>
    cases x with
    | finite d =>
      refine .inr (word?_of_numeral ?_)
      change Numeral.read? (String.ofList d.text).toList = _
      rw [String.toList_ofList, Numeral.read?_text]
    | nan | infinite => cases plain
  | str s => exact .inl ⟨s, rfl⟩
  | imaginary | bytes | ellipsis => cases plain

def Expects (stage : Stage) (outer : List Level) : Prop :=
  ∀ {token : Token} {next : Stage}, Stage.begin? outer token = some next →
    stage.next? token = some next

theorem expects_valueDue (outer : List Level) : Expects (.valueDue outer) outer := id

theorem expects_listStart (outer : List Level) :
    Expects (.listStart outer) (.list [] :: outer) := by
  intro token next first
  cases token with
  | listClose => cases first
  | _ => exact first

variable {outer : List Level} {m : Machine} {stage : Stage} (indent : Option Nat) (level : Nat)

theorem reaches_scalar {value : Scalar} (plain : value.hasJson)
    (expects : Expects stage outer) :
    (Machine.mk stage .between).Reaches (Wire.jsonScalar value)
      (.deliver (.scalar value) outer) := by
  have follows : stage.next? (.constant value) = some (.deliver (.scalar value) outer) :=
    expects rfl
  rcases word?_jsonScalar plain with ⟨s, rfl⟩ | word
  · refine ⟨⟨_, .between⟩, ?_, rfl⟩
    change (Machine.mk stage .between).run? (Wire.jsonString s) = _
    rw [run?_jsonString]
    unfold take?
    rw [follows]
    rfl
  · refine ⟨_, run?_word word, ?_⟩
    simp only [settle?]
    rw [List.reverse_reverse, word]
    exact follows

theorem run?_open {c : Char} {token : Token} {next : Stage} (mark : mark? c = some token)
    (expects : Expects stage outer) (first : Stage.begin? outer token = some next) :
    (Machine.mk stage .between).run? (c :: Wire.jsonBreak indent (level + 1)) =
      some ⟨next, .between⟩ := by
  have opened : (Machine.mk stage .between).step? c = some ⟨next, .between⟩ :=
    step?_mark mark rfl (expects first)
  rw [run?_cons, opened, Option.bind_some, run?_break]

theorem run?_key {before : List (String × Wire)} {key : String}
    (follows : stage.next? (.constant (.str key)) = some (.keyRead before key outer)) :
    (Machine.mk stage .between).run? (Wire.jsonString key) =
      some ⟨.keyRead before key outer, .between⟩ := by
  rw [run?_jsonString]
  unfold take?
  rw [follows]
  rfl

theorem run?_colon {before : List (String × Wire)} {key : String} (cs : List Char) :
    (Machine.mk (.keyRead before key outer) .between).run? (':' :: ' ' :: cs) =
      (Machine.mk (.valueDue (.record before key :: outer)) .between).run? cs := rfl

mutual

/-- The text of a structure makes the machine deliver it. -/
theorem reaches_value : ∀ (w : Wire), Scalar.Written w.scalars →
    ∀ {stage : Stage} {outer : List Level} (level : Nat), Expects stage outer →
    (Machine.mk stage .between).Reaches (w.jsonChars indent level) (.deliver w outer)
  | .scalar value, plain, stage, outer, level, expects =>
    reaches_scalar (plain value (List.mem_singleton_self value)) expects
  | .list [], _, stage, outer, level, expects => by
    have opened : (Machine.mk stage .between).step? '[' = some ⟨.listStart outer, .between⟩ :=
      step?_mark rfl rfl (expects rfl)
    refine ⟨⟨_, .between⟩, ?_, rfl⟩
    rw [Wire.jsonChars, run?_cons, opened]
    rfl
  | .list (w :: ws), plain, stage, outer, level, expects => by
    rw [Wire.scalars, Wire.scalarsList, Scalar.written_append] at plain
    obtain ⟨head, tail⟩ := plain
    have opened : (Machine.mk stage .between).run? ('[' :: Wire.jsonBreak indent (level + 1)) =
      some ⟨.listStart outer, .between⟩ := run?_open indent level rfl expects rfl
    obtain ⟨m, first, settled⟩ := reaches_value w head (level + 1) (expects_listStart outer)
    obtain ⟨m', others, settled'⟩ := reaches_items ws tail (level + 1) settled
    obtain ⟨m'', broken, settled''⟩ := reaches_break settled' indent level
    have closed : m''.step? ']' =
        some ⟨.deliver (.list (ws.reverse ++ [w]).reverse) outer, .between⟩ :=
      step?_mark rfl settled'' rfl
    rw [List.reverse_append, List.reverse_reverse] at closed
    refine ⟨⟨_, .between⟩, ?_, rfl⟩
    rw [Wire.jsonChars, run?_append, run?_append, run?_append, run?_append, opened,
      Option.bind_some, first, Option.bind_some, others, Option.bind_some, broken,
      Option.bind_some, run?_cons, closed]
    rfl
  | .record [], _, stage, outer, level, expects => by
    have opened : (Machine.mk stage .between).step? '{' = some ⟨.recordStart outer, .between⟩ :=
      step?_mark rfl rfl (expects rfl)
    refine ⟨⟨_, .between⟩, ?_, rfl⟩
    rw [Wire.jsonChars, run?_cons, opened]
    rfl
  | .record ((key, w) :: fields), plain, stage, outer, level, expects => by
    rw [Wire.scalars, Wire.scalarsFields, Scalar.written_append] at plain
    obtain ⟨head, tail⟩ := plain
    have opened : (Machine.mk stage .between).run? ('{' :: Wire.jsonBreak indent (level + 1)) =
      some ⟨.recordStart outer, .between⟩ := run?_open indent level rfl expects rfl
    have named : (Machine.mk (.recordStart outer) .between).run? (Wire.jsonString key) =
      some ⟨.keyRead [] key outer, .between⟩ := run?_key rfl
    obtain ⟨m, first, settled⟩ := reaches_value w head (level + 1)
      (expects_valueDue (.record [] key :: outer))
    obtain ⟨m', others, settled'⟩ := reaches_fields fields tail (level + 1) settled
    obtain ⟨m'', broken, settled''⟩ := reaches_break settled' indent level
    have closed : m''.step? '}' =
        some ⟨.deliver (.record (fields.reverse ++ [(key, w)]).reverse) outer, .between⟩ :=
      step?_mark rfl settled'' rfl
    rw [List.reverse_append, List.reverse_reverse] at closed
    refine ⟨⟨_, .between⟩, ?_, rfl⟩
    rw [Wire.jsonChars, run?_append, run?_append, run?_append, run?_append, run?_append, opened,
      Option.bind_some, named, Option.bind_some, run?_colon, first, Option.bind_some, others,
      Option.bind_some, broken, Option.bind_some, run?_cons, closed]
    rfl

theorem reaches_items : ∀ (ws : List Wire), Scalar.Written (Wire.scalarsList ws) → ∀ {m : Machine}
    {items : List Wire} {outer : List Level} (level : Nat),
    m.settle? = some (.itemRead items outer) →
    m.Reaches (Wire.jsonItems indent level ws) (.itemRead (ws.reverse ++ items) outer)
  | [], _, m, items, outer, level, settled => ⟨m, rfl, settled⟩
  | w :: ws, plain, m, items, outer, level, settled => by
    rw [Wire.scalarsList, Scalar.written_append] at plain
    obtain ⟨head, tail⟩ := plain
    have separated := run?_separator settled rfl indent level
    obtain ⟨m', first, settled'⟩ := reaches_value w head level
      (expects_valueDue (.list items :: outer))
    obtain ⟨m'', others, settled''⟩ := reaches_items ws tail level settled'
    refine ⟨m'', ?_, by rw [settled'', List.reverse_cons, List.append_assoc]; rfl⟩
    rw [Wire.jsonItems, run?_append, run?_append, separated, Option.bind_some, first,
      Option.bind_some, others]

theorem reaches_fields : ∀ (fields : List (String × Wire)),
    Scalar.Written (Wire.scalarsFields fields) → ∀ {m : Machine}
    {before : List (String × Wire)} {outer : List Level} (level : Nat),
    m.settle? = some (.fieldRead before outer) →
    m.Reaches (Wire.jsonFields indent level fields) (.fieldRead (fields.reverse ++ before) outer)
  | [], _, m, before, outer, level, settled => ⟨m, rfl, settled⟩
  | (key, w) :: fields, plain, m, before, outer, level, settled => by
    rw [Wire.scalarsFields, Scalar.written_append] at plain
    obtain ⟨head, tail⟩ := plain
    have separated := run?_separator settled rfl indent level
    have named : (Machine.mk (.keyDue before outer) .between).run? (Wire.jsonString key) =
      some ⟨.keyRead before key outer, .between⟩ := run?_key rfl
    obtain ⟨m', first, settled'⟩ := reaches_value w head level
      (expects_valueDue (.record before key :: outer))
    obtain ⟨m'', others, settled''⟩ := reaches_fields fields tail level settled'
    refine ⟨m'', ?_, by rw [settled'', List.reverse_cons, List.append_assoc]; rfl⟩
    rw [Wire.jsonFields, run?_append, run?_append, run?_append, separated, Option.bind_some, named,
      Option.bind_some, run?_colon, first, Option.bind_some, others]

end

end Machine

end Json

end Cascade
