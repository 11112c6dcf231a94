import Cascade.Proofs.Frame.Binding

set_option autoImplicit false

namespace Cascade

open Source

namespace Frame

variable {off : List String} {f f' : Frame}

structure SameBut (off : List String) (f f' : Frame) : Prop where
  names : ∀ m ∉ off, m ∈ f'.names ↔ m ∈ f.names
  closures : f'.closures = f.closures
  clean : ∀ {id c}, f.closures.get? id = some c → off.Disjoint c.routine.mentions

namespace SameBut

theorem ofNames {xs xs' : List String} (names : ∀ m ∉ off, m ∈ xs' ↔ m ∈ xs) :
    SameBut off (.ofNames xs) (.ofNames xs') :=
  ⟨names, rfl, fun held => (nomatch held)⟩

theorem bind (h : SameBut off f f') (id : String) : SameBut off (f.bind id) (f'.bind id) where
  names m other := by
    simp only [Frame.bind, List.mem_insert_iff, h.names m other]
  closures := by rw [Frame.bind, Frame.bind, h.closures]
  clean held := by
    rw [Frame.bind, Table.get?_remove] at held
    split at held
    · cases held
    · exact h.clean held

theorem bindClosure (h : SameBut off f f') (id : String) {r : Routine}
    (apart : off.Disjoint r.mentions) :
    SameBut off (f.bindClosure id r) (f'.bindClosure id r) where
  names m other := by
    simp only [Frame.bindClosure, List.mem_filter, h.names m other]
  closures := by rw [Frame.bindClosure, Frame.bindClosure, h.closures]
  clean held := by
    rw [Frame.bindClosure, Table.get?_set] at held
    split at held
    · cases held
      exact apart
    · exact h.clean held

theorem setStatus (h : SameBut off f f') (id : String) (status : ClosureStatus) :
    SameBut off (f.setStatus id status) (f'.setStatus id status) where
  names m other := by
    have left := congrArg Prod.fst (shape_setStatus f id status)
    have right := congrArg Prod.fst (shape_setStatus f' id status)
    change (f.setStatus id status).names = f.names at left
    change (f'.setStatus id status).names = f'.names at right
    rw [left, right]
    exact h.names m other
  closures := by
    unfold Frame.setStatus
    rw [h.closures]
    cases f.closures.get? id with
    | none => exact h.closures
    | some c => rfl
  clean held := by
    rw [get?_closures_setStatus] at held
    split at held
    · obtain ⟨c, found, rfl⟩ := Option.map_eq_some_iff.1 held
      have apart := h.clean found
      exact apart
    · exact h.clean held

theorem contains_eq (h : SameBut off f f') {m : String} (other : m ∉ off) :
    f'.names.contains m = f.names.contains m := by
  rw [Bool.eq_iff_iff, List.contains_iff_mem, List.contains_iff_mem, h.names m other]

end SameBut

end Frame

namespace Frames

variable {off : List String} {fs fs' gs gs' : Frames}

def SameBut (off : List String) (fs fs' : Frames) : Prop :=
  List.Forall₂ (Frame.SameBut off) fs fs'

namespace SameBut

theorem isBound_eq (h : SameBut off fs fs') {m : String} (other : m ∉ off) :
    fs'.isBound m = fs.isBound m := by
  unfold SameBut at h
  induction h with
  | nil => rfl
  | cons head _ ih => simp only [isBound, head.contains_eq other, head.closures, ih]

theorem owner?_eq (h : SameBut off fs fs') {m : String} (other : m ∉ off) :
    fs'.owner? m = fs.owner? m := by
  unfold SameBut at h
  induction h with
  | nil => rfl
  | cons head _ ih => simp only [owner?, head.contains_eq other, head.closures, ih]

theorem closure?_eq (h : SameBut off fs fs') (place : Nat) (id : String) :
    fs'.closure? place id = fs.closure? place id := by
  unfold SameBut at h
  induction h generalizing place with
  | nil => rfl
  | cons head _ ih =>
    cases place with
    | zero => exact congrArg (Table.get? · id) head.closures
    | succ place => exact ih place

theorem clean (h : SameBut off fs fs') {place : Nat} {id : String} {c : Closure}
    (held : fs.closure? place id = some c) : off.Disjoint c.routine.mentions := by
  unfold SameBut at h
  induction h generalizing place with
  | nil => cases held
  | @cons f _ _ _ head _ ih =>
    cases place with
    | zero => exact head.clean (show f.closures.get? id = some c from held)
    | succ place => exact ih held

theorem bind (h : SameBut off fs fs') (id : String) : SameBut off (fs.bind id) (fs'.bind id) := by
  cases h with
  | nil => exact .nil
  | cons head tail => exact .cons (head.bind id) tail

theorem bindClosure (h : SameBut off fs fs') (id : String) {r : Routine}
    (apart : off.Disjoint r.mentions) :
    SameBut off (fs.bindClosure id r) (fs'.bindClosure id r) := by
  cases h with
  | nil => exact .nil
  | cons head tail => exact .cons (head.bindClosure id apart) tail

theorem setStatus (h : SameBut off fs fs') (place : Nat) (id : String) (status : ClosureStatus) :
    SameBut off (fs.setStatus place id status) (fs'.setStatus place id status) := by
  unfold SameBut Frames.setStatus at *
  induction h generalizing place with
  | nil => simp
  | cons head tail ih =>
    cases place with
    | zero => exact .cons (head.setStatus id status) tail
    | succ place => exact .cons head (ih place)

theorem drop (h : SameBut off fs fs') (place : Nat) :
    SameBut off (fs.drop place) (fs'.drop place) :=
  List.forall₂_drop place h

theorem rejoin (h : SameBut off fs fs') (after : SameBut off gs gs') (place : Nat) :
    SameBut off (fs.take place ++ gs.tail) (fs'.take place ++ gs'.tail) := by
  refine List.rel_append (List.forall₂_take place h) ?_
  rw [← List.drop_one, ← List.drop_one]
  exact List.forall₂_drop 1 after

end SameBut

end Frames

end Cascade
