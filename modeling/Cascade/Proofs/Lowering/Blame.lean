import Cascade.Proofs.Lowering.Depth
import Cascade.Proofs.Lowering.Support
import Cascade.Proofs.Source.Tokens

set_option autoImplicit false

namespace Cascade

namespace Lowering

open Source

/-- If a run ends with a fault, the fault is one of the given ones. -/
@[reducible]
def blaming (blamed : Fault → Prop) : StateCoupling where
  Alike := blamed
  Ends r _ := ∀ fault t, r = .error fault t → blamed fault
  pure := nofun
  fault := by
    rintro α cause s alike _ _ ⟨⟩
    exact alike
  bind {_ _ x y f g s s'} first next := by
    change ∀ fault t, EStateM.bind x f s = .error fault t → _
    unfold EStateM.bind
    cases ended : x s with
    | ok a t => exact next ended
    | error cause t =>
      rintro _ _ ⟨⟩
      exact first cause t ended
  reframe {_ r _} leave abort inner := by
    cases r with
    | ok a t => exact nofun
    | error cause t =>
      rintro _ _ ⟨⟩
      exact inner cause t rfl

namespace Task

def Ends (below : Descent) (names : Namespace) (s : State) (fault : Fault) : Task → Prop
  | expr e => ∃ t, below.expr names e s = .error fault t
  | statement st => ∃ t, below.statement names st s = .error fault t
  | body ss => ∃ t, below.body names ss s = .error fault t
  | function id requested => ∃ t, below.function id requested s = .error fault t

theorem couples_blaming {blamed : Fault → Prop} {below below' : Descent} {names names' : Namespace}
    {s : State} {task : Task} :
    task.Couples (blaming blamed).coupling below below' names names' () s s ↔
      ∀ fault, task.Ends below names s fault → blamed fault := by
  cases task <;> exact ⟨fun blames fault ⟨t, ended⟩ => blames fault t ended,
    fun all fault t ended => all fault ⟨t, ended⟩⟩

def isOperation : Task → Bool
  | expr (.unary ..) | expr (.binary ..) | expr (.junction ..) | expr (.compare ..)
  | statement (.augAssign ..) => true
  | _ => false

variable {host : Host} {limit : Int} {levels : Nat} {names : Namespace} {s : State} {task : Task}

/-- A fault is the task's own, or a part of the task ends with it. -/
theorem Ends.origin {fault : Fault}
    (ended : task.Ends (descent host limit (levels + 1)) names s fault) :
    Raises names task s fault ∨ ∃ part t, Enters host names task s part t ∧
      part.Ends (descent host limit levels) (task.inner host names) t fault := by
  let blamed (fault : Fault) : Prop := Raises names task s fault ∨ ∃ part t,
    Enters host names task s part t ∧
      part.Ends (descent host limit levels) (task.inner host names) t fault
  have blames : task.Couples (blaming blamed).coupling (descent host limit (levels + 1))
      (descent host limit (levels + 1)) names names () s s := by
    refine StateCoupling.couples (fun {part t} entered => couples_blaming.2 fun fault below => ?_)
      .inl (.refl task)
    exact .inr ⟨part, t, entered, below⟩
  exact couples_blaming.1 blames fault ended

theorem not_raises_arity (written : task.isOperation = true) {op : String} {fixity : Fixity}
    {count : Nat} : ¬ Raises names task s (.arity op fixity count) := by
  intro raised
  cases raised with
  | arity => cases written
  | simple simple => cases simple

end Task

end Lowering

namespace Source

inductive Routine.Takes (r : Routine) : Expr → Prop where
  | value {st e} (runs : r.Runs st) (inside : e ∈ st.values) : Takes r e
  | operand {e a} (outer : Takes r e) (inside : a ∈ e.operands) : Takes r a

def Expr.namedToken? : Expr → Option String
  | name id _ => some (Operator.tokenForName id)
  | member (name ..) attr => some (Operator.tokenForName attr)
  | _ => none

end Source

namespace Lowering

open Source

section Reaches

variable {host : Host} {e : EntryPoint} {active : List Activation} {names : Namespace}
  {task : Task} {s t : State}

theorem Evaluates.mem_values {st : Stmt} {x : Expr} (h : Evaluates st x) : x ∈ st.values := by
  have kept (assignable : isAssignable x = true) : x ∈ [x].filter fun e => !e.isLambda := by
    cases x <;> first | exact List.mem_cons_self | cases assignable
  cases h with
  | ret | augAssign | test => exact List.mem_cons_self
  | assign plain | annotated plain => exact kept plain
  | expression plain => simp [Stmt.values, plain]

/-- An expression that a lowering comes to is one whose value the innermost routine takes. -/
theorem Reaches.takes {x : Expr} (h : Reaches host e active names (.expr x) s) :
    ∃ a rest, active = a :: rest ∧ a.routine.Takes x := by
  generalize same : Task.expr x = task at h
  induction h generalizing x with
  | entry | lambda | closure | function => cases same
  | within before entered _ _ ih =>
    cases entered with
    | operand operand =>
      cases same
      obtain ⟨a, rest, shape, takes⟩ := ih rfl
      exact ⟨a, rest, shape, takes.operand operand.mem_operands⟩
    | value evaluates =>
      cases same
      obtain ⟨a, rest, shape, runs⟩ := before.inside
      exact ⟨a, rest, shape, .value runs evaluates.mem_values⟩
    | display shape split earlier =>
      cases same
      obtain ⟨a, rest, active, runs⟩ := before.inside
      refine ⟨a, rest, active, .value runs ?_⟩
      rcases shape with rfl | rfl <;> simp [Stmt.values, Expr.headerValues, split]
    | _ => cases same

/-- The innermost routine is translated. -/
theorem Reaches.translated {a : Activation} (h : Reaches host e active names task s)
    (innermost : active.head? = some a) : Translated host e a.routine := by
  induction h with
  | entry => cases innermost
  | within _ _ _ _ ih => exact ih innermost
  | lambda before plain accepted =>
    cases innermost
    exact .nested (before.lambda plain accepted)
  | closure before plain owned outer pending undecorated accepted =>
    cases innermost
    exact .nested (before.closure plain owned outer pending undecorated accepted)
  | function called found =>
    cases innermost
    exact .function called found

/-- Followed down, by induction on the levels, a fault is raised by a task that is reached. -/
theorem Reaches.raises {limit : Int} {levels : Nat} {fault : Fault}
    (operator : fault.isOperatorFault = true) (h : Reaches host e active names task s)
    (ended : task.Ends (descent host limit levels) names s fault) :
    ∃ active names task s, Reaches host e active names task s ∧ Raises names task s fault := by
  induction levels generalizing active names task s with
  | zero =>
    cases task <;>
      · obtain ⟨t, ended⟩ := ended
        cases ended
        cases operator
  | succ levels ih =>
    rcases ended.origin with raised | ⟨part, t, entered, below⟩
    · exact ⟨active, names, task, s, h, raised⟩
    · obtain ⟨active', reached⟩ := h.enters entered
      exact ih reached below

end Reaches

theorem namedToken?_of_calleeToken? {fs : Frames} {names : Namespace} {callee : Expr}
    {token : String} (named : calleeToken? fs names callee = some token) :
    callee.namedToken? = some token := by
  unfold calleeToken? at named
  split at named
  · split at named
    · cases named
    · exact named
  · split at named
    · cases named
    · exact named
  · cases named

end Lowering

namespace Host

open Source Lowering

variable {h : Host} {value : Value} {name : Option String} {maxDepth : Option Int}

theorem isSimple_of_entry? {fault : Fault}
    (refused : h.entry? value name maxDepth = .error (.fault fault)) : fault.isSimple = true := by
  unfold entry? at refused
  split at refused
  next cause failed =>
    cases refused
    unfold function? at failed
    split at failed <;> cases failed
    rfl
  · dsimp only at refused
    split at refused
    · cases refused
      rfl
    · split at refused
      · cases refused
        rfl
      · split at refused
        · cases refused
        · split at refused <;> cases refused

/-- A fault about an operator is raised at a task that the lowering of the entry point comes to. -/
theorem raises_of_lower {fault : Fault} (operator : fault.isOperatorFault = true)
    (failed : h.lower value name maxDepth = .error (.fault fault)) :
    ∃ e, h.entry? value name maxDepth = .ok e ∧ ∃ active names task s,
      Reaches h e active names task s ∧ Raises names task s fault := by
  cases entry : h.entry? value name maxDepth with
  | error cause =>
    have same : cause = .fault fault := by
      simpa [lower, lowerTraced, entry] using failed
    have simple := isSimple_of_entry? (same ▸ entry)
    rw [Fault.not_isOperatorFault simple] at operator
    cases operator
  | ok e =>
    rw [lower_of_entry entry, outcome_eq_fault] at failed
    obtain ⟨t, failed⟩ := failed
    refine ⟨e, rfl, ?_⟩
    have ended : (Task.function e.id e.name).Ends
        (descent h e.limit ((Depth.start e.limit).remaining + 1)) [] (.start []) fault :=
      ⟨t, failed⟩
    exact Reaches.entry.raises operator ended

/-- A fault about an operator blames the source.  A wrong number of operands is that of a call whose
value a translated routine takes, and whose callee names the operator; operators that are written as
such only pass on the faults of their parts.  A text that is quoted is that of an expression or of an
augmented assignment of a translated routine, and no token. -/
theorem operator_faults_blame_source :
    (∀ op fixity count, h.lower value name maxDepth = .error (.fault (.arity op fixity count)) →
      ∃ e r callee args, h.entry? value name maxDepth = .ok e ∧ Translated h e r ∧
        r.Takes (.call callee args []) ∧ args.any Expr.isStarred = false ∧
        callee.namedToken? = some op ∧ args.length = count ∧
        Operator.classify op (some (count : Int)) = fixity ∧ fixity.admits count = false) ∧
    (∀ limit levels names task s op fixity count, task.isOperation = true →
      task.Ends (descent h limit (levels + 1)) names s (.arity op fixity count) →
      ∃ part t, Enters h names task s part t ∧
        part.Ends (descent h limit levels) names t (.arity op fixity count)) ∧
    ∀ text, h.lower value name maxDepth = .error (.fault (.unknownOperator text)) →
      ∃ e r, h.entry? value name maxDepth = .ok e ∧ Translated h e r ∧
        ((∃ x, r.Takes x ∧ x.text = text ∧ (x.isParsed = true → Operator.isBare text = false)) ∨
          ∃ target op x, r.Runs (.augAssign target op x) ∧ augAssignText target op x = text ∧
            Operator.isBare text = false) := by
  refine ⟨fun op fixity count failed => ?_, fun limit levels names task s op fixity count written
    ended => ?_, fun text failed => ?_⟩
  · obtain ⟨e, entry, active, names, task, s, reached, raised⟩ := raises_of_lower rfl failed
    cases raised with
    | simple simple => cases simple
    | arity plain named _ unfit =>
      obtain ⟨a, rest, rfl, takes⟩ := reached.takes
      exact ⟨e, a.routine, _, _, entry, reached.translated rfl, takes, plain,
        namedToken?_of_calleeToken? named, rfl, rfl, unfit⟩
  · rcases ended.origin with raised | ⟨part, t, entered, below⟩
    · exact absurd raised (Task.not_raises_arity written)
    · have own : task.inner h names = names := by
        cases task with
        | function => cases written
        | _ => rfl
      exact ⟨part, t, entered, own ▸ below⟩
  · obtain ⟨e, entry, active, names, task, s, reached, raised⟩ := raises_of_lower rfl failed
    cases raised with
    | simple simple => cases simple
    | expression refused =>
      obtain ⟨a, rest, rfl, takes⟩ := reached.takes
      exact ⟨e, a.routine, entry, reached.translated rfl,
        .inl ⟨_, takes, rfl, Expr.not_isBare_text refused⟩⟩
    | assignment unknown =>
      obtain ⟨a, rest, rfl, runs⟩ := reached.inside
      exact ⟨e, a.routine, entry, reached.translated rfl,
        .inr ⟨_, _, _, runs, rfl, not_isBare_augAssignText _ _ _⟩⟩

/-- A sum with a call of an operator that takes one operand and is given two. -/
def blamedSum : Expr :=
  let x : Expr := .name "x" .load
  .binary .add x (.call (.name "abs" .load) [x, x] [])

/-- A function that returns the sum, and one that iterates over a list with an operator that the
engine lacks. -/
def blamed : Host :=
  let x : Expr := .name "x" .load
  ofFunctions [] [("f", ["x"], [.ret (some blamedSum)]),
    ("g", ["x"], [.forLoop (.name "i" .store) (.list [.binary .matMult x x]) [.pass] []])]

theorem blamed_blame_source :
    blamed.lower (.function "f") none (some 100) = .error (.fault (.arity "abs" .unary 2)) ∧
    (∃ e r callee args, blamed.entry? (.function "f") none (some 100) = .ok e ∧
      Translated blamed e r ∧ r.Takes (.call callee args []) ∧ callee.namedToken? = some "abs" ∧
      args.length = 2) ∧
    (∃ part t, Enters blamed [] (.expr blamedSum) (.start []) part t ∧
      part.Ends (descent blamed 100 5) [] t (.arity "abs" .unary 2)) ∧
    blamed.lower (.function "g") none (some 100) = .error (.fault (.unknownOperator "x @ x")) ∧
    ∃ e r, blamed.entry? (.function "g") none (some 100) = .ok e ∧ Translated blamed e r ∧
      ((∃ x, r.Takes x ∧ x.text = "x @ x") ∨
        ∃ target op x, r.Runs (.augAssign target op x)) := by
  have arity : blamed.lower (.function "f") none (some 100) =
      .error (.fault (.arity "abs" .unary 2)) := by rfl
  have unknown : blamed.lower (.function "g") none (some 100) =
      .error (.fault (.unknownOperator "x @ x")) := by rfl
  have sum : (Task.expr blamedSum).Ends (descent blamed 100 6) [] (.start [])
      (.arity "abs" .unary 2) := ⟨_, rfl⟩
  have faults := @operator_faults_blame_source blamed
  refine ⟨arity, ?_, (@faults (.function "f") none (some 100)).2.1 100 5 [] (.expr blamedSum) _ _ _ _
    rfl sum, unknown, ?_⟩
  · obtain ⟨e, r, callee, args, entry, translated, takes, -, named, count, -⟩ :=
      faults.1 "abs" .unary 2 arity
    exact ⟨e, r, callee, args, entry, translated, takes, named, count⟩
  · obtain ⟨e, r, entry, translated, found⟩ := faults.2.2 "x @ x" unknown
    refine ⟨e, r, entry, translated, found.imp ?_ ?_⟩
    · rintro ⟨x, takes, text, -⟩
      exact ⟨x, takes, text⟩
    · rintro ⟨target, op, x, runs, -⟩
      exact ⟨target, op, x, runs⟩

end Host

end Cascade
