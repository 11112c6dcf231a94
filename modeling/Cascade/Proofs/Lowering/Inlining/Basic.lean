import Cascade.Proofs.Aliases
import Cascade.Proofs.Frame.Difference
import Cascade.Proofs.Lowering.Coupling.SameSource
import Cascade.Proofs.Lowering.Lookups
import Cascade.Proofs.Source.Alignment

set_option autoImplicit false

/-!
# Lowering with the values of assignment expressions in their places

A function is lowered beside the one in which its assignment expressions to some names are replaced
by their values.  As long as the second run goes well, the first one does the same in frames that
bind these names in addition, until it comes to one of the assignment expressions and asks for an
assignment instead.
-/
namespace Cascade.Lowering

open Source

section Lookups

variable {off : List String} {fs fs' : Frames} {names : Namespace}

theorem sameAnswer_of_sameBut (same : Frames.SameBut off fs fs') {id : String} (other : id ∉ off) :
    SameAnswer fs fs' names names id :=
  ⟨same.isBound_eq other, fun _ => rfl⟩

theorem calleeToken?_of_sameBut (same : Frames.SameBut off fs fs') {callee : Expr}
    (apart : off.Disjoint callee.mentions) :
    calleeToken? fs' names callee = calleeToken? fs names callee := by
  refine calleeToken?_congr ?_ ?_
  · rintro id use rfl
    have other := List.disjoint_singleton.1 apart
    exact ⟨same.isBound_eq other, same.owner?_eq other⟩
  · rintro base use attr rfl
    exact sameAnswer_of_sameBut same (List.disjoint_singleton.1 apart)

theorem calledBy?_of_sameBut (host : Host) (same : Frames.SameBut off fs fs') {callee : Expr}
    (apart : off.Disjoint callee.mentions) :
    calledBy? host fs' names callee = calledBy? host fs names callee := by
  unfold calledBy?
  rw [calleeValue?_congr]
  · rintro id use rfl
    exact sameAnswer_of_sameBut same (List.disjoint_singleton.1 apart)
  · rintro base use attr rfl
    exact sameAnswer_of_sameBut same (List.disjoint_singleton.1 apart)

theorem staticRange?_of_sameBut (same : Frames.SameBut off fs fs') {source : Expr}
    (apart : off.Disjoint source.mentions) :
    staticRange? fs' names source = staticRange? fs names source := by
  refine staticRange?_congr ?_ ?_
  · rintro id use args rfl
    have callee := List.disjoint_of_subset_right (Expr.mentions_callee_subset _ args []) apart
    exact sameAnswer_of_sameBut same (List.disjoint_singleton.1 callee)
  · rintro id use args rfl n use' inside
    refine sameAnswer_of_sameBut same fun isOff => apart isOff ?_
    exact Expr.mentions_args_subset _ _ _
      (Expr.mem_mentionsList.2 ⟨_, inside, List.mem_singleton_self n⟩)

end Lookups

structure Paired (id : FunctionId) (off : List String) (s s' : State) : Prop where
  frames : Frames.SameBut off s.frames s'.frames
  rest : s'.withFrames s.frames = s
  settled : ∃ name, s.aliases.get? id = some name

namespace Paired

variable {id : FunctionId} {off : List String} {s s' : State}

theorem aliases_eq (h : Paired id off s s') : s'.aliases = s.aliases :=
  (congrArg State.aliases h.rest :)

theorem lambdas_eq (h : Paired id off s s') : s'.lambdas = s.lambdas :=
  (congrArg State.lambdas h.rest :)

theorem withFrames (h : Paired id off s s') {inner : List String} {fs fs' : Frames}
    (same : Frames.SameBut inner fs fs') : Paired id inner (s.withFrames fs) (s'.withFrames fs') :=
  ⟨same, congrArg (·.withFrames fs) h.rest, h.settled⟩

theorem recorded (h : Paired id off s s') (event : Event) :
    Paired id off (s.recorded event) (s'.recorded event) :=
  ⟨h.frames, congrArg (·.recorded event) h.rest, h.settled⟩

theorem registered (h : Paired id off s s') (entry : Entry) :
    Paired id off (s.registered entry) (s'.registered entry) :=
  ⟨h.frames, congrArg (·.registered entry) h.rest, h.settled⟩

theorem lambdaNamed (h : Paired id off s s') : Paired id off s.lambdaNamed s'.lambdaNamed :=
  ⟨h.frames, congrArg (·.lambdaNamed) h.rest, h.settled⟩

theorem marked (h : Paired id off s s') (other : FunctionId) (requested : String) :
    Paired id off (s.marked other requested) (s'.marked other requested) := by
  refine ⟨h.frames, congrArg (·.marked other requested) h.rest, ?_⟩
  rw [State.marked_aliases, Aliases.get?_mark]
  split
  · exact ⟨_, rfl⟩
  · exact h.settled

end Paired

inductive Guided {α : Type} (id : FunctionId) (off : List String) : Ending α → Ending α → Prop where
  | ok {a t t'} (paired : Paired id off t t') : Guided id off (.ok a t) (.ok a t')
  | asked {t r'} : Guided id off (.error (.unsupported .assignmentExpression) t) r'
  | failed {r fault t'} : Guided id off r (.error fault t')

namespace Guided

variable {α β : Type} {id : FunctionId} {off : List String} {s s' : State}

theorem bind {x y : Lower α} {f g : α → Lower β} (first : Guided id off (x s) (y s'))
    (next : ∀ {a t t'}, x s = .ok a t → Paired id off t t' → Guided id off (f a t) (g a t')) :
    Guided id off ((x >>= f) s) ((y >>= g) s') := by
  change Guided id off (EStateM.bind x f s) (EStateM.bind y g s')
  unfold EStateM.bind
  generalize ran : x s = r at first
  generalize y s' = r' at first
  cases first with
  | ok paired => exact next ran paired
  | asked => exact .asked
  | failed => exact .failed

/-- The names in which the frames differ may be others inside. -/
theorem inFrames {inner : List String} {enter enter' : Frames → Frames}
    {leave : Frames → Frames → Frames} {x y : Lower α} (paired : Paired id off s s')
    (entered : Frames.SameBut inner (enter s.frames) (enter' s'.frames))
    (ran : ∀ {t t'}, Paired id inner t t' → Guided id inner (x t) (y t'))
    (left : ∀ {fs fs'}, Frames.SameBut inner fs fs' →
      Frames.SameBut off (leave s.frames fs) (leave s'.frames fs')) :
    Guided id off (inFrames enter leave x s) (inFrames enter' leave y s') := by
  have ran := ran (paired.withFrames entered)
  unfold Lowering.inFrames
  unfold State.withFrames at ran
  generalize x { s with frames := enter s.frames } = r at ran
  generalize y { s' with frames := enter' s'.frames } = r' at ran
  cases ran with
  | ok paired => exact .ok (paired.withFrames (left paired.frames))
  | asked => exact .asked
  | failed => exact .failed

theorem lowerOnce {place : Nat} {name : String} {x y : Lower α}
    (ran : Guided id off (x (s.withStatus place name .active))
      (y (s'.withStatus place name .active))) :
    Guided id off (lowerOnce place name x s) (lowerOnce place name y s') := by
  unfold Lowering.lowerOnce
  unfold State.withStatus State.withFrames at ran
  generalize x { s with frames := s.frames.setStatus place name .active } = r at ran
  generalize y { s' with frames := s'.frames.setStatus place name .active } = r' at ran
  cases ran with
  | ok paired => exact .ok (paired.withFrames (paired.frames.setStatus place name .lowered))
  | asked => exact .asked
  | failed => exact .failed

theorem closureBound {a : α} {name : String} {r : Routine} (paired : Paired id off s s')
    (apart : off.Disjoint r.mentions) :
    Guided id off (.ok a (s.closureBound name r)) (.ok a (s'.closureBound name r)) :=
  .ok ((paired.withFrames (paired.frames.bindClosure name apart)).recorded (.closureBound name))

end Guided

@[reducible]
def guiding (id : FunctionId) (off : List String) : Coupling :=
  ExactCoupling.coupling
    { Stage := Unit
      Later := fun _ _ => True
      later_refl := fun _ => trivial
      later_trans := fun _ _ => trivial
      At := fun _ => Paired id off
      Alike := fun _ _ => True
      Ends := fun _ => Guided id off
      pure := .ok
      fault := fun _ _ => .failed
      bind := fun first next => first.bind fun ran paired => next (v := ()) ran trivial paired
      step := by
        rintro α r r' w s s' t t' paired pace next
        refine next (v := ()) trivial ?_
        cases pace with
        | recorded event => exact paired.recorded event
        | bound name => exact paired.withFrames (paired.frames.bind name)
        | closure name => exact paired.registered _
        | lambda =>
          rw [paired.lambdas_eq]
          exact paired.lambdaNamed.registered _
      lowerOnce := by
        rintro α x y w s s' place name paired inner
        have begun := paired.withFrames (paired.frames.setStatus place name .active)
        exact .lowerOnce (inner (v := ()) trivial begun)
      lambdas := Paired.lambdas_eq }

/-- What lies one level further down in two runs.  Where there are levels to spare, an assignment
expression is answered on this level or the next. -/
structure Guides (id : FunctionId) (spare : Bool) (below below' : Descent) : Prop where
  expr : ∀ {off s s'} names e, e.exposes spare off = true → Paired id off s s' →
    Guided id off (below.expr names e s) (below'.expr names (e.inline off) s')
  statement : ∀ {off s s'} names st, st.exposes spare off = true → Paired id off s s' →
    Guided id off (below.statement names st s) (below'.statement names (st.inline off) s')
  body : ∀ {off s s' ss ss'} names, Stmt.Aligned spare off ss ss' → Paired id off s s' →
    Guided id off (below.body names ss s) (below'.body names ss' s')
  function : ∀ {off s s'} other requested, other ≠ id → Paired id off s s' →
    Guided id off (below.function other requested s) (below'.function other requested s')
  askExpr : spare = true → ∀ names target value s,
    below.expr names (.named target value) s = .error (.unsupported .assignmentExpression) s
  askStatement : spare = true → ∀ names st s, st.Asks →
    below.statement names st s = .error (.unsupported .assignmentExpression) s

structure Replaces (id : FunctionId) (host host' : Host) : Prop where
  calledBy? : ∀ fs names callee,
    calledBy? host' fs names callee = calledBy? host fs names callee
  namespaceOf : ∀ other, host'.world.namespaceOf (host'.world.function other) =
    host.world.namespaceOf (host.world.function other)
  function : ∀ other, other ≠ id → host'.world.function other = host.world.function other

end Cascade.Lowering
