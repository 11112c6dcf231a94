import Cascade.Proofs.Lowering.Derivation
import Cascade.Proofs.Node.Functions
import Mathlib.Data.List.Forall2

set_option autoImplicit false

/-!
# Two lowerings side by side

A coupling says how two lowerings that run side by side have to be related for their results, their
faults and their states to be related at the end.  The modules below take each function of the
lowering apart once, for any coupling; what is special to a pair of programs, sources or limits is
in the laws of its coupling and in what is assumed one level further down.
-/
namespace Cascade.Lowering

open Source

abbrev Ending (α : Type) := EStateM.Result Fault State α

def Ending.state {α : Type} : Ending α → State
  | .ok _ t | .error _ t => t

def Ending.reframe {α : Type} (leave abort : Frames → Frames) : Ending α → Ending α
  | .ok a t => .ok a (t.withFrames (leave t.frames))
  | .error fault t => .error fault (t.withFrames (abort t.frames))

section Bind

variable {α β : Type} {s t : State}

theorem bind_of_ok {x : Lower α} {f : α → Lower β} {a : α} (ran : x s = .ok a t) :
    (x >>= f) s = f a t := by
  change EStateM.bind x f s = _
  unfold EStateM.bind
  rw [ran]

theorem bind_of_error {x : Lower α} {f : α → Lower β} {fault : Fault} (ran : x s = .error fault t) :
    (x >>= f) s = .error fault t := by
  change EStateM.bind x f s = _
  unfold EStateM.bind
  rw [ran]

theorem frames_bind {f : Frames → Lower α} : (frames >>= f) s = f s.frames s :=
  rfl

theorem get_bind {f : State → Lower α} : (get >>= f) s = f s s :=
  rfl

theorem record_bind {event : Event} {f : Unit → Lower α} :
    (record event >>= f) s = f () (s.recorded event) :=
  rfl

theorem register_bind {entry : Entry} {f : Unit → Lower α} :
    (register entry >>= f) s = f () (s.registered entry) :=
  rfl

theorem markFunction_bind {id : FunctionId} {requested : String} {f : String → Lower α} :
    (markFunction id requested >>= f) s = f (s.aliasFor id requested) (s.marked id requested) :=
  rfl

theorem nameLambda_bind {f : String → Lower α} :
    (nameLambda >>= f) s = f (lambdaAlias (s.lambdas + 1)) s.lambdaNamed :=
  rfl

theorem bindVariable_bind {name : String} {f : Unit → Lower α} :
    (bindVariable name >>= f) s = f () (s.withFrames (s.frames.bind name)) :=
  rfl

end Bind

/-- Results that can be compared by the nodes and definitions in them. -/
class Outcome (α : Type) where
  Alike : (Node → Node → Prop) → (Definition → Definition → Prop) → α → α → Prop
  functions : α → List Definition
  alike_eq : ∀ {a b : α}, Alike Eq Eq a b ↔ a = b
  total : ∀ {R : Node → Node → Prop} {D : Definition → Definition → Prop},
    (∀ n, ∃ o, R n o) → (∀ d, ∃ e, D d e) → ∀ a, ∃ b, Alike R D a b

instance : Outcome Node where
  Alike R _ := R
  functions := Node.functions
  alike_eq := Iff.rfl
  total nodes _ := nodes

instance : Outcome (List Node) where
  Alike R _ := List.Forall₂ R
  functions := Node.functionsList
  alike_eq := by rw [List.forall₂_eq_eq_eq]
  total nodes _ ns := by
    induction ns with
    | nil => exact ⟨[], .nil⟩
    | cons n ns ih =>
      obtain ⟨o, head⟩ := nodes n
      obtain ⟨os, tail⟩ := ih
      exact ⟨o :: os, .cons head tail⟩

instance {α : Type} [Outcome α] : Outcome (Option α) where
  Alike R D := Option.Rel (Outcome.Alike R D)
  functions
    | none => []
    | some a => Outcome.functions a
  alike_eq {a b} := by
    constructor
    · rintro (alike | _)
      · exact congrArg some (Outcome.alike_eq.1 alike)
      · rfl
    · rintro rfl
      cases a with
      | none => exact .none
      | some a => exact .some (Outcome.alike_eq.2 rfl)
  total
    | _, _, none => ⟨none, .none⟩
    | nodes, definitions, some a =>
      have ⟨b, alike⟩ := Outcome.total nodes definitions a
      ⟨some b, .some alike⟩

instance : Outcome Definition where
  Alike _ D := D
  functions d := d.node.functions
  alike_eq := Iff.rfl
  total _ definitions := definitions

namespace Outcome

variable {α : Type} [Outcome α]

@[simp] theorem functions_node (n : Node) : functions n = n.functions :=
  rfl

@[simp] theorem functions_list (ns : List Node) : functions ns = Node.functionsList ns :=
  rfl

@[simp] theorem functions_none : functions (none : Option α) = [] :=
  rfl

@[simp] theorem functions_some (a : α) : functions (some a) = functions a :=
  rfl

@[simp] theorem functions_definition (d : Definition) : functions d = d.node.functions :=
  rfl

end Outcome

/-- How the results of two runs are compared.  The comparison may depend on a stage that the runs
have come to, and then holds at all later stages. -/
structure Likeness where
  Stage : Type
  Later : Stage → Stage → Prop
  Similar : Stage → Node → Node → Prop
  Made : Stage → Definition → Definition → Prop
  /-- Names of closures and lambda expressions that stand for each other. -/
  Named : String → String → Prop
  later_refl : ∀ w, Later w w
  later_trans : ∀ {u v w}, Later u v → Later v w → Later u w
  similar_later : ∀ {v w n o}, Later v w → Similar v n o → Similar w n o
  made_later : ∀ {v w d e}, Later v w → Made v d e → Made w d e
  named_refl : ∀ x, Named x x
  isLiteral_eq : ∀ {w n o}, Similar w n o → o.isLiteral = n.isLiteral
  literal : ∀ {w} value, Similar w (.literal value) (.literal value)
  symbol : ∀ {w} name, Similar w (.symbol name) (.symbol name)
  range : ∀ {w} start stop step, Similar w (.range start stop step) (.range start stop step)
  operation : ∀ {w op fixity ns os}, List.Forall₂ (Similar w) ns os →
    Similar w (.operation op fixity ns) (.operation op fixity os)
  sequence : ∀ {w ns os}, List.Forall₂ (Similar w) ns os → Similar w (.sequence ns) (.sequence os)
  reference : ∀ {w name ns os}, List.Forall₂ (Similar w) ns os →
    Similar w (.call name ns none) (.call name os none)
  inner : ∀ {w x y d e ns os}, Named x y → Made w d e → List.Forall₂ (Similar w) ns os →
    Similar w (.call x ns (some d.node)) (.call y os (some e.node))
  made : ∀ {w x y formals ns os}, Named x y → List.Forall₂ (Similar w) ns os →
    Made w ⟨x, Formals.ofNames formals, ns⟩ ⟨y, Formals.ofNames formals, os⟩
  assign : ∀ {w name n o}, Similar w n o → Similar w (.assign name n) (.assign name o)
  branch : ∀ {w n o ns os no no'}, Similar w n o → List.Forall₂ (Similar w) ns os →
    Option.Rel (List.Forall₂ (Similar w)) no no' → Similar w (.branch n ns no) (.branch o os no')
  loop : ∀ {w name n o ns os}, Similar w n o → List.Forall₂ (Similar w) ns os →
    Similar w (.loop name n ns) (.loop name o os)
  ret : ∀ {w n o}, Option.Rel (Similar w) n o → Similar w (.ret n) (.ret o)

namespace Likeness

@[reducible]
def equality (Stage : Type) (Later : Stage → Stage → Prop) (refl : ∀ w, Later w w)
    (trans : ∀ {u v w}, Later u v → Later v w → Later u w) : Likeness where
  Stage := Stage
  Later := Later
  Similar _ := Eq
  Made _ := Eq
  Named := Eq
  later_refl := refl
  later_trans := trans
  similar_later _ same := same
  made_later _ same := same
  named_refl _ := rfl
  isLiteral_eq same := same ▸ rfl
  literal _ := rfl
  symbol _ := rfl
  range _ _ _ := rfl
  operation same := congrArg _ (List.forall₂_eq_eq_eq ▸ same)
  sequence same := congrArg _ (List.forall₂_eq_eq_eq ▸ same)
  reference same := by
    rw [List.forall₂_eq_eq_eq] at same
    rw [same]
  inner named made same := by
    rw [List.forall₂_eq_eq_eq] at same
    rw [named, made, same]
  made named same := by
    rw [List.forall₂_eq_eq_eq] at same
    rw [named, same]
  assign same := congrArg _ same
  branch condition yes no := by
    rw [List.forall₂_eq_eq_eq] at yes
    have no := (Outcome.alike_eq (α := Option (List Node))).1 no
    rw [condition, yes, no]
  loop header body := by
    rw [List.forall₂_eq_eq_eq] at body
    rw [header, body]
  ret same := congrArg _ ((Outcome.alike_eq (α := Option Node)).1 same)

variable (L : Likeness)

abbrev Like {α : Type} [Outcome α] (w : L.Stage) : α → α → Prop :=
  Outcome.Alike (L.Similar w) (L.Made w)

theorem all_later {v w : L.Stage} (later : L.Later v w) {ns os : List Node}
    (alike : List.Forall₂ (L.Similar v) ns os) : List.Forall₂ (L.Similar w) ns os :=
  alike.imp fun _ _ => L.similar_later later

end Likeness

/-- A step that two runs take together, from states `s` and `s'` to states `t` and `t'`. -/
inductive Pace (s s' : State) : State → State → Prop where
  | recorded (event : Event) : Pace s s' (s.recorded event) (s'.recorded event)
  | bound (name : String) :
      Pace s s' (s.withFrames (s.frames.bind name)) (s'.withFrames (s'.frames.bind name))
  | closure (name : String) :
      Pace s s' (s.registered (.closure name)) (s'.registered (.closure name))
  | lambda :
      Pace s s' (s.lambdaNamed.registered (.lambda (lambdaAlias (s.lambdas + 1))))
        (s'.lambdaNamed.registered (.lambda (lambdaAlias (s'.lambdas + 1))))

/-- How two runs that are at a stage end.  `Ends held w r r'` also says that the definitions `held`
are among those of the first result. -/
structure Coupling extends Likeness where
  At : Stage → State → State → Prop
  Alike : Fault → Fault → Prop
  Ends : ∀ {α : Type} [Outcome α], List Definition → Stage → Ending α → Ending α → Prop
  pure : ∀ {α : Type} [Outcome α] {a b : α} {held w s s'}, At w s s' → toLikeness.Like w a b →
    held ⊆ Outcome.functions a → Ends held w (.ok a s) (.ok b s')
  fault : ∀ {α : Type} [Outcome α] {held w s s' cause cause'}, At w s s' → Alike cause cause' →
    Ends (α := α) held w (.error cause s) (.error cause' s')
  bind : ∀ {α β : Type} [Outcome α] [Outcome β] {x y : Lower α} {f g : α → Lower β} {held w s s'},
    Ends [] w (x s) (y s') →
    (∀ {a b t t' v}, x s = .ok a t → Later w v → At v t t' → toLikeness.Like v a b →
      Ends (held ++ Outcome.functions a) v (f a t) (g b t')) →
    Ends held w ((x >>= f) s) ((y >>= g) s')
  step : ∀ {α : Type} [Outcome α] {r r' : Ending α} {held w s s' t t'}, At w s s' →
    Pace s s' t t' → (∀ {v}, Later w v → At v t t' → Ends held v r r') → Ends held w r r'
  lowerOnce : ∀ {α : Type} [Outcome α] {x y : Lower α} {w s s' place name}, At w s s' →
    (∀ {v}, Later w v → At v (s.withStatus place name .active) (s'.withStatus place name .active) →
      Ends [] v (x (s.withStatus place name .active)) (y (s'.withStatus place name .active))) →
    Ends [] w (lowerOnce place name x s) (lowerOnce place name y s')
  lambdas : ∀ {w s s'}, At w s s' →
    Named (lambdaAlias (s.lambdas + 1)) (lambdaAlias (s'.lambdas + 1))
  accepted : ∀ {r : Routine} {x y formals}, Named x y → r.formals? x = .ok formals →
    r.formals? y = .ok formals
  /-- What a routine is refused for under a name, it is refused for under one that stands for it. -/
  refused : ∀ {r : Routine} {x y cause}, Named x y → r.formals? x = .error cause →
    ∃ cause', r.formals? y = .error cause' ∧ (Alike cause cause → Alike cause cause')

structure ExactCoupling where
  Stage : Type
  Later : Stage → Stage → Prop
  later_refl : ∀ w, Later w w
  later_trans : ∀ {u v w}, Later u v → Later v w → Later u w
  At : Stage → State → State → Prop
  Alike : Fault → Fault → Prop
  Ends : ∀ {α : Type}, Stage → Ending α → Ending α → Prop
  pure : ∀ {α : Type} {a : α} {w s s'}, At w s s' → Ends w (.ok a s) (.ok a s')
  fault : ∀ {α : Type} {w s s' cause cause'}, At w s s' → Alike cause cause' →
    Ends (α := α) w (.error cause s) (.error cause' s')
  bind : ∀ {α β : Type} {x y : Lower α} {f g : α → Lower β} {w s s'}, Ends w (x s) (y s') →
    (∀ {a t t' v}, x s = .ok a t → Later w v → At v t t' → Ends v (f a t) (g a t')) →
    Ends w ((x >>= f) s) ((y >>= g) s')
  step : ∀ {α : Type} {r r' : Ending α} {w s s' t t'}, At w s s' → Pace s s' t t' →
    (∀ {v}, Later w v → At v t t' → Ends v r r') → Ends w r r'
  lowerOnce : ∀ {α : Type} {x y : Lower α} {w s s' place name}, At w s s' →
    (∀ {v}, Later w v → At v (s.withStatus place name .active) (s'.withStatus place name .active) →
      Ends v (x (s.withStatus place name .active)) (y (s'.withStatus place name .active))) →
    Ends w (lowerOnce place name x s) (lowerOnce place name y s')
  lambdas : ∀ {w s s'}, At w s s' → s'.lambdas = s.lambdas

@[reducible]
def ExactCoupling.coupling (C : ExactCoupling) : Coupling where
  toLikeness := .equality C.Stage C.Later C.later_refl C.later_trans
  At := C.At
  Alike := C.Alike
  Ends _ := C.Ends
  pure here alike _ := by
    rw [Outcome.alike_eq.1 alike]
    exact C.pure here
  fault := C.fault
  bind first next := C.bind first fun ran later here =>
    next ran later here (Outcome.alike_eq.2 rfl)
  step := C.step
  lowerOnce := C.lowerOnce
  lambdas here := by rw [C.lambdas here]
  accepted named found := named ▸ found
  refused named failed := ⟨_, named ▸ failed, id⟩

end Cascade.Lowering
