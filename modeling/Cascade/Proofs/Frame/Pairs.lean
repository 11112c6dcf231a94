import Cascade.Proofs.Frame.Lookup
import Cascade.Proofs.Source.Calls

set_option autoImplicit false

/-!
# Two chains of frames beside each other

Two runs have frames that bind the same names, but hold different closures under names that are dead
in a frame.  As long as no dead closure is called, the two chains are looked up alike.  A call is
safe if it finds a binding before it comes to a dead name, and two chains are in order if all
closures that are not dead are edits of each other that make safe calls only.
-/
namespace Cascade

open Source

/-- The frames of two runs at one place, and the names whose closures may differ. -/
structure FramePair where
  dead : List String
  left : Frame
  right : Frame

namespace FramePair

structure Alike (may : String → Prop) (p : FramePair) : Prop where
  names : p.right.names = p.left.names
  held : ∀ id, p.right.closures.contains id = p.left.closures.contains id
  closures : ∀ {id r status}, id ∉ p.dead → p.left.closures.get? id = some ⟨r, status⟩ →
    ∃ inner r', p.right.closures.get? id = some ⟨r', status⟩ ∧ Routine.Edited inner may r r'

def fresh (dead names : List String) : FramePair :=
  ⟨dead, .ofNames names, .ofNames names⟩

def bind (p : FramePair) (id : String) : FramePair :=
  ⟨p.dead, p.left.bind id, p.right.bind id⟩

def bindClosure (p : FramePair) (id : String) (r r' : Routine) : FramePair :=
  ⟨p.dead, p.left.bindClosure id r, p.right.bindClosure id r'⟩

def setStatus (p : FramePair) (id : String) (status : ClosureStatus) : FramePair :=
  ⟨p.dead, p.left.setStatus id status, p.right.setStatus id status⟩

variable {p : FramePair} {may may' : String → Prop}

theorem alike_fresh (dead names : List String) : (fresh dead names).Alike may :=
  ⟨rfl, fun _ => rfl, fun _ held => (nomatch held)⟩

theorem Alike.mono (h : p.Alike may) (wider : ∀ n, may n → may' n) : p.Alike may' where
  names := h.names
  held := h.held
  closures alive held := by
    obtain ⟨inner, r', held', edit⟩ := h.closures alive held
    exact ⟨inner, r', held', edit.mono wider⟩

theorem Alike.bind (h : p.Alike may) (id : String) : (p.bind id).Alike may where
  names := by simp only [FramePair.bind, Frame.bind, h.names]
  held other := by
    have held := h.held other
    simp only [FramePair.bind, Frame.bind, Table.contains, Table.get?_remove] at held ⊢
    split
    · rfl
    · exact held
  closures alive held := by
    simp only [FramePair.bind, Frame.bind, Table.get?_remove] at held ⊢
    split at held
    · cases held
    · rename_i other
      rw [if_neg other]
      exact h.closures alive held

theorem Alike.bindClosure (h : p.Alike may) {id : String} {r r' : Routine}
    (edit : id ∈ p.dead ∨ ∃ inner, Routine.Edited inner may r r') :
    (p.bindClosure id r r').Alike may where
  names := by simp only [FramePair.bindClosure, Frame.bindClosure, h.names]
  held other := by
    have held := h.held other
    simp only [FramePair.bindClosure, Frame.bindClosure, Table.contains, Table.get?_set] at held ⊢
    split
    · rfl
    · exact held
  closures alive held := by
    simp only [FramePair.bindClosure, Frame.bindClosure, Table.get?_set] at held ⊢
    split at held
    · rename_i same
      cases held
      obtain ⟨inner, edit⟩ := edit.resolve_left (same ▸ alive)
      exact ⟨inner, r', if_pos same, edit⟩
    · rename_i other
      rw [if_neg other]
      exact h.closures alive held

theorem contains_setStatus (f : Frame) (id other : String) (status : ClosureStatus) :
    (f.setStatus id status).closures.contains other = f.closures.contains other := by
  unfold Table.contains
  rw [Frame.get?_closures_setStatus]
  split
  · rename_i same
    rw [same, Option.isSome_map]
  · rfl

theorem Alike.setStatus (h : p.Alike may) (id : String) (status : ClosureStatus) :
    (p.setStatus id status).Alike may where
  names := by
    have left := congrArg Prod.fst (Frame.shape_setStatus p.left id status)
    have right := congrArg Prod.fst (Frame.shape_setStatus p.right id status)
    exact right.trans (h.names.trans left.symm)
  held other := by simp only [FramePair.setStatus, contains_setStatus, h.held]
  closures alive held := by
    simp only [FramePair.setStatus, Frame.get?_closures_setStatus] at held ⊢
    split at held
    · rename_i same
      obtain ⟨⟨r, before⟩, found, equal⟩ := Option.map_eq_some_iff.1 held
      cases equal
      obtain ⟨inner, r', held', edit⟩ := h.closures (same ▸ alive) found
      rw [if_pos same, held']
      exact ⟨inner, r', rfl, edit⟩
    · rename_i other
      rw [if_neg other]
      exact h.closures alive held

end FramePair

abbrev FrameChain := List FramePair

namespace FrameChain

variable {chain chain' chain'' : FrameChain} {p q : FramePair} {n id : String} {place : Nat}

def left (chain : FrameChain) : Frames := chain.map (·.left)

def right (chain : FrameChain) : Frames := chain.map (·.right)

def dead : FrameChain → List String
  | [] => []
  | p :: _ => p.dead

/-- A call of the name cannot come to a dead closure. -/
def Safe : FrameChain → String → Prop
  | [], _ => True
  | p :: chain, n => n ∉ p.dead ∧ (p.left.Binds n ∨ Safe chain n)

def InOrder : FrameChain → Prop
  | [] => True
  | p :: chain => p.Alike (Safe (p :: chain)) ∧ InOrder chain

/-- What becomes of a chain: nothing else is dead, and all bindings stay. -/
def Grows (chain chain' : FrameChain) : Prop :=
  List.Forall₂ (fun p q => q.dead = p.dead ∧ ∀ n, p.left.Binds n → q.left.Binds n) chain chain'

theorem Grows.refl (chain : FrameChain) : chain.Grows chain :=
  List.forall₂_same.2 fun _ _ => ⟨rfl, fun _ => id⟩

theorem Grows.trans (first : chain.Grows chain') (second : chain'.Grows chain'') :
    chain.Grows chain'' := by
  unfold Grows at first second ⊢
  induction first generalizing chain'' with
  | nil => exact second
  | cons head _ ih =>
    cases second with
    | cons head' tail' =>
      exact .cons ⟨head'.1.trans head.1, fun n binds => head'.2 n (head.2 n binds)⟩ (ih tail')

theorem Safe.mono (grows : chain.Grows chain') (n : String) (h : chain.Safe n) :
    Safe chain' n := by
  unfold Grows at grows
  induction grows with
  | nil => trivial
  | cons head _ ih =>
    obtain ⟨alive, rest⟩ := h
    exact ⟨head.1 ▸ alive, rest.imp (head.2 n) ih⟩

section Lookups

theorem not_binds_of_free {f : Frame} (unheld : ¬ f.closures.contains n = true)
    (unnamed : ¬ f.names.contains n = true) : ¬ f.Binds n := by
  rintro (named | ⟨c, held⟩)
  · exact unnamed (List.contains_iff_mem.2 named)
  · exact unheld (Option.isSome_iff_exists.2 ⟨c, held⟩)

theorem Safe.alive (h : chain.Safe n) (owned : chain.left.owner? n = some place) :
    ∃ p, chain[place]? = some p ∧ n ∉ p.dead := by
  induction chain generalizing place with
  | nil => cases owned
  | cons p chain ih =>
    change Frames.owner? (p.left :: left chain) n = some place at owned
    unfold Frames.owner? at owned
    split at owned
    · cases owned
      exact ⟨p, rfl, h.1⟩
    · rename_i unheld
      split at owned
      · cases owned
      · rename_i unnamed
        obtain ⟨inner, found, rfl⟩ := Option.map_eq_some_iff.1 owned
        exact ih (h.2.resolve_left (not_binds_of_free unheld unnamed)) found

theorem InOrder.alike (h : chain.InOrder) (held : chain[place]? = some p) :
    p.Alike (Safe (chain.drop place)) := by
  induction place generalizing chain with
  | zero =>
    cases chain with
    | nil => cases held
    | cons q chain =>
      cases held
      exact h.1
  | succ place ih =>
    cases chain with
    | nil => cases held
    | cons q chain => exact ih h.2 held

end Lookups

section Updates

theorem inOrder_cons_fresh (h : chain.InOrder) (dead names : List String) :
    InOrder (.fresh dead names :: chain) :=
  ⟨FramePair.alike_fresh dead names, h⟩

theorem InOrder.drop (h : chain.InOrder) (place : Nat) : InOrder (chain.drop place) := by
  induction place generalizing chain with
  | zero => exact h
  | succ place ih =>
    cases chain with
    | nil => exact h
    | cons p chain => exact ih h.2

theorem InOrder.rejoin (h : chain.InOrder) (grows : Grows (chain.drop place) chain')
    (rest : chain'.InOrder) :
    Grows chain (chain.take place ++ chain') ∧ InOrder (chain.take place ++ chain') := by
  induction place generalizing chain with
  | zero => exact ⟨grows, rest⟩
  | succ place ih =>
    cases chain with
    | nil => exact ⟨grows, rest⟩
    | cons p chain =>
      obtain ⟨grown, order⟩ := ih h.2 grows
      have whole : Grows (p :: chain) (p :: (chain.take place ++ chain')) :=
        .cons ⟨rfl, fun _ => id⟩ grown
      exact ⟨whole, h.1.mono (Safe.mono whole), order⟩

def bind (chain : FrameChain) (id : String) : FrameChain :=
  chain.modifyHead (·.bind id)

def bindClosure (chain : FrameChain) (id : String) (r r' : Routine) : FrameChain :=
  chain.modifyHead (·.bindClosure id r r')

def setStatus (chain : FrameChain) (place : Nat) (id : String) (status : ClosureStatus) :
    FrameChain :=
  chain.modify place (·.setStatus id status)

theorem left_bind (chain : FrameChain) (id : String) :
    (chain.bind id).left = chain.left.bind id := by
  cases chain <;> rfl

theorem right_bind (chain : FrameChain) (id : String) :
    (chain.bind id).right = chain.right.bind id := by
  cases chain <;> rfl

theorem left_bindClosure (chain : FrameChain) (id : String) (r r' : Routine) :
    (chain.bindClosure id r r').left = chain.left.bindClosure id r := by
  cases chain <;> rfl

theorem right_bindClosure (chain : FrameChain) (id : String) (r r' : Routine) :
    (chain.bindClosure id r r').right = chain.right.bindClosure id r' := by
  cases chain <;> rfl

theorem left_setStatus (chain : FrameChain) (place : Nat) (id : String) (status : ClosureStatus) :
    (chain.setStatus place id status).left = chain.left.setStatus place id status := by
  unfold setStatus left Frames.setStatus
  induction chain generalizing place with
  | nil => simp
  | cons p chain ih =>
    cases place with
    | zero => rfl
    | succ place => exact congrArg (p.left :: ·) (ih place)

theorem right_setStatus (chain : FrameChain) (place : Nat) (id : String) (status : ClosureStatus) :
    (chain.setStatus place id status).right = chain.right.setStatus place id status := by
  unfold setStatus right Frames.setStatus
  induction chain generalizing place with
  | nil => simp
  | cons p chain ih =>
    cases place with
    | zero => rfl
    | succ place => exact congrArg (p.right :: ·) (ih place)

theorem InOrder.bind (h : chain.InOrder) (id : String) :
    Grows chain (chain.bind id) ∧ InOrder (chain.bind id) := by
  cases chain with
  | nil => exact ⟨.refl _, h⟩
  | cons p chain =>
    have grows : Grows (p :: chain) (p.bind id :: chain) :=
      .cons ⟨rfl, fun _ binds => binds.bind id⟩ (Grows.refl chain)
    exact ⟨grows, (h.1.bind id).mono (Safe.mono grows), h.2⟩

theorem InOrder.bindClosure (h : chain.InOrder) {r r' : Routine}
    (edit : id ∈ chain.dead ∨ ∃ inner, Routine.Edited inner chain.Safe r r') :
    Grows chain (chain.bindClosure id r r') ∧ InOrder (chain.bindClosure id r r') := by
  cases chain with
  | nil => exact ⟨.refl _, h⟩
  | cons p chain =>
    have grows : Grows (p :: chain) (p.bindClosure id r r' :: chain) :=
      .cons ⟨rfl, fun _ binds => binds.bindClosure id r⟩ (Grows.refl chain)
    exact ⟨grows, (h.1.bindClosure edit).mono (Safe.mono grows), h.2⟩

theorem InOrder.setStatus (h : chain.InOrder) (place : Nat) (id : String)
    (status : ClosureStatus) :
    Grows chain (chain.setStatus place id status) ∧ InOrder (chain.setStatus place id status) := by
  induction chain generalizing place with
  | nil =>
    unfold FrameChain.setStatus
    rw [List.modify_nil]
    exact ⟨.refl _, h⟩
  | cons p chain ih =>
    cases place with
    | zero =>
      have grows : Grows (p :: chain) (p.setStatus id status :: chain) :=
        .cons ⟨rfl, fun _ binds => binds.setStatus id status⟩ (Grows.refl chain)
      exact ⟨grows, (h.1.setStatus id status).mono (Safe.mono grows), h.2⟩
    | succ place =>
      obtain ⟨grown, order⟩ := ih h.2 place
      have grows : Grows (p :: chain) (p :: FrameChain.setStatus chain place id status) :=
        .cons ⟨rfl, fun _ binds => binds⟩ grown
      exact ⟨grows, h.1.mono (Safe.mono grows), order⟩

end Updates

end FrameChain

end Cascade
