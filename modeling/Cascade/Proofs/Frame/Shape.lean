import Cascade.Frame.Basic
import Cascade.Proofs.Table

set_option autoImplicit false

namespace Cascade

open Source

namespace Frame

def shape (f : Frame) : List String × Table Routine :=
  (f.names, f.closures.map fun entry => (entry.1, entry.2.routine))

@[simp] theorem shape_setStatus (f : Frame) (name : String) (status : ClosureStatus) :
    (f.setStatus name status).shape = f.shape := by
  unfold setStatus
  cases found : f.closures.get? name with
  | none => rfl
  | some closure =>
    simp only [shape, Prod.mk.injEq, true_and]
    exact Table.map_set found rfl

theorem get?_routine_of_shape {f g : Frame} (h : f.shape = g.shape) (name : String) :
    (f.closures.get? name).map (·.routine) = (g.closures.get? name).map (·.routine) := by
  rw [← Table.get?_map, ← Table.get?_map]
  exact congrArg (Table.get? · name) (congrArg Prod.snd h)

theorem get?_closures_setStatus (f : Frame) (name other : String) (status : ClosureStatus) :
    (f.setStatus name status).closures.get? other =
      if other = name then (f.closures.get? name).map fun c => { c with status := status }
      else f.closures.get? other := by
  unfold setStatus
  cases found : f.closures.get? name with
  | none =>
    by_cases same : other = name
    · simp [same, found]
    · simp [same]
  | some closure => simp [Table.get?_set]

end Frame

namespace Frames

def shape (fs : Frames) : List (List String × Table Routine) :=
  fs.map Frame.shape

@[simp] theorem shape_tail (fs : Frames) : shape fs.tail = (shape fs).tail :=
  List.map_tail

@[simp] theorem tail_bind (fs : Frames) (name : String) : (fs.bind name).tail = fs.tail := by
  cases fs <;> rfl

@[simp] theorem tail_bindClosure (fs : Frames) (name : String) (routine : Routine) :
    (fs.bindClosure name routine).tail = fs.tail := by
  cases fs <;> rfl

theorem closure?_routine_of_shape {fs gs : Frames} (h : shape fs = shape gs) (place : Nat)
    (name : String) :
    (fs.closure? place name).map (·.routine) = (gs.closure? place name).map (·.routine) := by
  have same := congrArg (·[place]?) h
  simp only [shape, List.getElem?_map] at same
  unfold closure?
  cases hf : fs[place]? with
  | none =>
    rw [hf] at same
    cases hg : gs[place]? with
    | none => rfl
    | some g => simp [hg] at same
  | some f =>
    rw [hf] at same
    cases hg : gs[place]? with
    | none => simp [hg] at same
    | some g =>
      rw [hg] at same
      exact Frame.get?_routine_of_shape (Option.some.inj same) name

theorem closure?_of_owner? {fs : Frames} {name : String} {place : Nat}
    (h : fs.owner? name = some place) : ∃ c, fs.closure? place name = some c := by
  induction fs generalizing place with
  | nil => simp [owner?] at h
  | cons f fs ih =>
    unfold owner? at h
    split at h
    · rename_i held
      cases h
      exact Option.isSome_iff_exists.1 held
    · split at h
      · cases h
      · obtain ⟨inner, found, rfl⟩ := Option.map_eq_some_iff.1 h
        exact ih found

def Started (fs : Frames) (name : String) : Prop :=
  ∃ f ∈ fs, ∃ c, f.closures.get? name = some c ∧ c.status ≠ .pending

theorem Started.mono {fs gs : Frames} {name : String} (sub : ∀ f ∈ fs, f ∈ gs)
    (h : fs.Started name) : gs.Started name := by
  obtain ⟨f, member, rest⟩ := h
  exact ⟨f, sub f member, rest⟩

theorem started_append {fs gs : Frames} {name : String} :
    Started (fs ++ gs) name ↔ fs.Started name ∨ gs.Started name := by
  simp only [Started, List.mem_append, or_and_right, exists_or]

theorem started_of_closure? {fs : Frames} {place : Nat} {name : String} {c : Closure}
    (h : fs.closure? place name = some c) (status : c.status ≠ .pending) : fs.Started name := by
  obtain ⟨f, found, held⟩ := Option.bind_eq_some_iff.1 h
  exact ⟨f, List.mem_of_getElem? found, c, held, status⟩

theorem Started.of_bind {fs : Frames} {name other : String}
    (h : Started (fs.bind name) other) : fs.Started other := by
  obtain ⟨f, member, c, held, status⟩ := h
  cases fs with
  | nil => simp [bind] at member
  | cons g gs =>
    rcases List.mem_cons.1 member with rfl | member
    · simp only [Frame.bind, Table.get?_remove] at held
      split at held
      · cases held
      · exact ⟨g, List.mem_cons_self, c, held, status⟩
    · exact ⟨f, List.mem_cons_of_mem _ member, c, held, status⟩

theorem Started.of_bindClosure {fs : Frames} {name other : String} {routine : Routine}
    (h : Started (fs.bindClosure name routine) other) : fs.Started other := by
  obtain ⟨f, member, c, held, status⟩ := h
  cases fs with
  | nil => simp [bindClosure] at member
  | cons g gs =>
    rcases List.mem_cons.1 member with rfl | member
    · simp only [Frame.bindClosure, Table.get?_set] at held
      split at held
      · cases held
        exact absurd rfl status
      · exact ⟨g, List.mem_cons_self, c, held, status⟩
    · exact ⟨f, List.mem_cons_of_mem _ member, c, held, status⟩

theorem Started.of_setStatus {fs : Frames} {place : Nat} {name other : String}
    {status : ClosureStatus} (h : Started (fs.setStatus place name status) other) :
    other = name ∨ fs.Started other := by
  by_cases same : other = name
  · exact .inl same
  · right
    obtain ⟨f, member, c, held, started⟩ := h
    unfold setStatus at member
    induction fs generalizing place with
    | nil => simp at member
    | cons g gs ih =>
      cases place with
      | zero =>
        rcases List.mem_cons.1 member with rfl | member
        · rw [Frame.get?_closures_setStatus, if_neg same] at held
          exact ⟨g, List.mem_cons_self, c, held, started⟩
        · exact ⟨f, List.mem_cons_of_mem _ member, c, held, started⟩
      | succ place =>
        rcases List.mem_cons.1 member with rfl | member
        · exact ⟨f, List.mem_cons_self, c, held, started⟩
        · exact (ih member).mono fun g' member' => List.mem_cons_of_mem _ member'

end Frames

end Cascade
