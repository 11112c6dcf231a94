import Cascade.Proofs.Frame.Pairs
import Cascade.Proofs.Lowering.Coupling.SameSource
import Cascade.Proofs.Lowering.Lookups

set_option autoImplicit false

namespace Cascade.Lowering

open Source

structure SameAnswers (fs fs' : Frames) : Prop where
  isBound : ∀ n, fs'.isBound n = fs.isBound n
  owner? : ∀ n, fs'.owner? n = fs.owner? n

namespace SameAnswers

variable {fs fs' : Frames} {names : Namespace}

theorem sameAnswer (h : SameAnswers fs fs') (id : String) : SameAnswer fs fs' names names id :=
  ⟨h.isBound id, fun _ => rfl⟩

theorem staticRange?_eq (h : SameAnswers fs fs') (source : Expr) :
    staticRange? fs' names source = staticRange? fs names source :=
  staticRange?_congr (fun _ _ _ _ => h.sameAnswer _) fun _ _ _ _ _ _ _ => h.sameAnswer _

theorem staticValues?_eq (h : SameAnswers fs fs') (id : String) :
    staticValues? fs' names id = staticValues? fs names id :=
  staticValues?_congr (h.sameAnswer id)

theorem looksAlike (h : SameAnswers fs fs') (names : Namespace) (task : Task) :
    task.LooksAlike names names fs fs' := by
  unfold Task.LooksAlike
  split
  · exact nameNode?_congr (h.owner? _) fun _ => h.sameAnswer _
  · refine ⟨calleeToken?_congr ?_ fun _ _ _ _ => h.sameAnswer _, fun _ => h.owner? _⟩
    exact fun _ _ _ => ⟨h.isBound _, h.owner? _⟩
  · exact ⟨h.staticRange?_eq _, fun _ => h.staticValues?_eq _⟩
  · trivial

end SameAnswers

structure Beside (chain : FrameChain) (s s' : State) : Prop where
  left : s.frames = chain.left
  right : s'.frames = chain.right
  order : chain.InOrder
  aliases : s'.aliases = s.aliases
  lambdas : s'.lambdas = s.lambdas

namespace Beside

variable {chain chain' : FrameChain} {s s' : State}

theorem reframe (h : Beside chain s s') (order : chain'.InOrder) :
    Beside chain' (s.withFrames chain'.left) (s'.withFrames chain'.right) :=
  ⟨rfl, rfl, order, h.aliases, h.lambdas⟩

theorem recorded (h : Beside chain s s') (event event' : Event) :
    Beside chain (s.recorded event) (s'.recorded event') :=
  ⟨h.left, h.right, h.order, h.aliases, h.lambdas⟩

theorem registered (h : Beside chain s s') (entry : Entry) :
    Beside chain (s.registered entry) (s'.registered entry) :=
  ⟨h.left, h.right, h.order, h.aliases, h.lambdas⟩

theorem marked (h : Beside chain s s') (id : FunctionId) (requested : String) :
    Beside chain (s.marked id requested) (s'.marked id requested) := by
  refine ⟨h.left, h.right, h.order, ?_, h.lambdas⟩
  simp only [State.marked_aliases, h.aliases]

theorem lambdaNamed (h : Beside chain s s') : Beside chain s.lambdaNamed s'.lambdaNamed :=
  ⟨h.left, h.right, h.order, h.aliases, congrArg (· + 1) h.lambdas⟩

end Beside

inductive Twin {α : Type} (chain : FrameChain) : Ending α → Ending α → Prop where
  | ok {a t t' chain'} (grows : chain.Grows chain') (beside : Beside chain' t t') :
      Twin chain (.ok a t) (.ok a t')
  | error {fault t t'} : Twin chain (.error fault t) (.error fault t')

namespace Twin

variable {α β : Type} {chain chain' : FrameChain} {s s' : State}

theorem here {a : α} (beside : Beside chain s s') : Twin chain (.ok a s) (.ok a s') :=
  .ok (.refl chain) beside

theorem widen {r r' : Ending α} (h : Twin chain' r r') (grows : chain.Grows chain') :
    Twin chain r r' := by
  cases h with
  | ok grows' beside => exact .ok (grows.trans grows') beside
  | error => exact .error

theorem bind {x y : Lower α} {f g : α → Lower β} (first : Twin chain (x s) (y s'))
    (next : ∀ {a t t' chain'}, x s = .ok a t → chain.Grows chain' → Beside chain' t t' →
      Twin chain' (f a t) (g a t')) :
    Twin chain ((x >>= f) s) ((y >>= g) s') := by
  change Twin chain (EStateM.bind x f s) (EStateM.bind y g s')
  unfold EStateM.bind
  generalize ran : x s = r at first
  generalize y s' = r' at first
  cases first with
  | ok grows beside => exact (next ran grows beside).widen grows
  | error => exact .error

/-- An action in other frames, if the frames that it leaves can be put back. -/
theorem inFrames {enter : Frames → Frames} {leave : Frames → Frames → Frames} {x y : Lower α}
    {entered : FrameChain}
    (inner : Twin entered (x (s.withFrames (enter s.frames))) (y (s'.withFrames (enter s'.frames))))
    (rejoin : ∀ {chain'}, entered.Grows chain' → chain'.InOrder → ∃ joined : FrameChain,
      chain.Grows joined ∧ joined.InOrder ∧ leave s.frames chain'.left = joined.left ∧
        leave s'.frames chain'.right = joined.right) :
    Twin chain (inFrames enter leave x s) (inFrames enter leave y s') := by
  unfold Lowering.inFrames
  unfold State.withFrames at inner
  generalize x { s with frames := enter s.frames } = r at inner
  generalize y { s' with frames := enter s'.frames } = r' at inner
  cases inner with
  | ok grows beside =>
    obtain ⟨joined, grown, order, left, right⟩ := rejoin grows beside.order
    refine .ok grown ⟨?_, ?_, order, beside.aliases, beside.lambdas⟩
    · rw [← left, beside.left]
    · rw [← right, beside.right]
  | error => exact .error

theorem inFreshFrame (dead : List String) {locals : List String} {x y : Lower α}
    (beside : Beside chain s s')
    (inner : ∀ {t t'}, Beside [.fresh dead locals] t t' →
      Twin [.fresh dead locals] (x t) (y t')) :
    Twin chain (inFreshFrame (.ofNames locals) x s) (inFreshFrame (.ofNames locals) y s') := by
  have empty : FrameChain.InOrder [] := trivial
  refine inFrames (inner (beside.reframe (FrameChain.inOrder_cons_fresh empty dead locals)))
    fun _ _ => ⟨chain, .refl chain, beside.order, beside.left, beside.right⟩

theorem inChildFrame (dead : List String) {locals : List String} {place : Nat} {x y : Lower α}
    (beside : Beside chain s s')
    (inner : ∀ {t t'}, Beside (.fresh dead locals :: chain.drop place) t t' →
      Twin (.fresh dead locals :: chain.drop place) (x t) (y t')) :
    Twin chain (inChildFrame place (.ofNames locals) x s)
      (inChildFrame place (.ofNames locals) y s') := by
  have order := FrameChain.inOrder_cons_fresh (beside.order.drop place) dead locals
  have left : Frame.ofNames locals :: s.frames.drop place =
      FrameChain.left (.fresh dead locals :: chain.drop place) := by
    rw [beside.left]
    exact congrArg (_ :: ·) List.map_drop.symm
  have right : Frame.ofNames locals :: s'.frames.drop place =
      FrameChain.right (.fresh dead locals :: chain.drop place) := by
    rw [beside.right]
    exact congrArg (_ :: ·) List.map_drop.symm
  have ran := inner (beside.reframe order)
  rw [← left, ← right] at ran
  refine inFrames ran fun grows order' => ?_
  cases grows with
  | @cons _ q _ rest _ grows =>
    obtain ⟨grown, joined⟩ := beside.order.rejoin grows order'.2
    refine ⟨chain.take place ++ rest, grown, joined, ?_, ?_⟩
    · rw [beside.left]
      simp [FrameChain.left]
    · rw [beside.right]
      simp [FrameChain.right]

theorem lowerOnce {place : Nat} {id : String} {x y : Lower α} (beside : Beside chain s s')
    (inner : ∀ {chain'}, chain.Grows chain' →
      Beside chain' (s.withStatus place id .active) (s'.withStatus place id .active) →
      Twin chain' (x (s.withStatus place id .active)) (y (s'.withStatus place id .active))) :
    Twin chain (lowerOnce place id x s) (lowerOnce place id y s') := by
  obtain ⟨grows, order⟩ := beside.order.setStatus place id .active
  have begun := beside.reframe order
  rw [FrameChain.left_setStatus, FrameChain.right_setStatus, ← beside.left, ← beside.right] at begun
  have ran := inner grows begun
  unfold Lowering.lowerOnce
  unfold State.withStatus State.withFrames at ran
  generalize x { s with frames := s.frames.setStatus place id .active } = r at ran
  generalize y { s' with frames := s'.frames.setStatus place id .active } = r' at ran
  cases ran with
  | ok grows' after =>
    obtain ⟨grows'', order⟩ := after.order.setStatus place id .lowered
    refine .ok (grows.trans (grows'.trans grows'')) ⟨?_, ?_, order, after.aliases, after.lambdas⟩
    · rw [FrameChain.left_setStatus, ← after.left]
    · rw [FrameChain.right_setStatus, ← after.right]
  | error => exact .error

theorem bindVariable {id : String} (beside : Beside chain s s') : ∃ chain', chain.Grows chain' ∧
    Beside chain' (s.withFrames (s.frames.bind id)) (s'.withFrames (s'.frames.bind id)) := by
  obtain ⟨grows, order⟩ := beside.order.bind id
  have bound := beside.reframe order
  rw [FrameChain.left_bind, FrameChain.right_bind, ← beside.left, ← beside.right] at bound
  exact ⟨_, grows, bound⟩

theorem bindClosure {a : α} {id : String} {r r' : Routine} (beside : Beside chain s s')
    (edit : id ∈ chain.dead ∨ ∃ inner, Routine.Edited inner chain.Safe r r') :
    Twin chain (.ok a (s.closureBound id r)) (.ok a (s'.closureBound id r')) := by
  obtain ⟨grows, order⟩ := beside.order.bindClosure edit
  have bound := beside.reframe order
  rw [FrameChain.left_bindClosure, FrameChain.right_bindClosure, ← beside.left,
    ← beside.right] at bound
  exact .ok grows (bound.recorded _ _)

end Twin

end Cascade.Lowering
