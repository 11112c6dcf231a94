import Cascade.Proofs.Frame.Binding

set_option autoImplicit false

namespace Cascade

open Source

namespace Frame

variable {f g : Frame} {id n : String} {r : Routine}

def Apart (f : Frame) : Prop :=
  ∀ n ∈ f.names, f.closures.get? n = none

theorem binds_bind : (f.bind id).Binds n ↔ n = id ∨ f.Binds n := by
  constructor
  · rintro (named | ⟨c, held⟩)
    · rcases List.mem_insert_iff.1 named with same | named
      · exact .inl same
      · exact .inr (.inl named)
    · rw [Frame.bind, Table.get?_remove] at held
      split at held
      · cases held
      · exact .inr (.inr ⟨c, held⟩)
  · rintro (rfl | binds)
    · exact .inl List.mem_insert_self
    · exact binds.bind id

theorem binds_bindClosure : (f.bindClosure id r).Binds n ↔ n = id ∨ f.Binds n := by
  constructor
  · rintro (named | ⟨c, held⟩)
    · exact .inr (.inl (List.mem_filter.1 named).1)
    · rw [Frame.bindClosure, Table.get?_set] at held
      split at held
      · exact .inl ‹_›
      · exact .inr (.inr ⟨c, held⟩)
  · rintro (rfl | binds)
    · exact .inr ⟨⟨r, .pending⟩, by rw [Frame.bindClosure, Table.get?_set, if_pos rfl]⟩
    · exact binds.bindClosure id r

theorem Apart.bind (h : f.Apart) (id : String) : (f.bind id).Apart := by
  intro n named
  rw [Frame.bind, Table.get?_remove]
  split
  · rfl
  · rename_i other
    exact h n ((List.mem_insert_iff.1 named).resolve_left other)

theorem Apart.bindClosure (h : f.Apart) (id : String) (r : Routine) :
    (f.bindClosure id r).Apart := by
  intro n named
  obtain ⟨named, other⟩ := List.mem_filter.1 named
  rw [Frame.bindClosure, Table.get?_set, if_neg (of_decide_eq_true other)]
  exact h n named

theorem get?_eq_none_of_shape (same : g.shape = f.shape) (absent : f.closures.get? n = none) :
    g.closures.get? n = none := by
  have routines := get?_routine_of_shape same n
  rw [absent] at routines
  exact Option.map_eq_none_iff.1 routines

theorem Apart.of_shape (h : f.Apart) (same : g.shape = f.shape) : g.Apart := by
  intro n named
  rw [show g.names = f.names from congrArg Prod.fst same] at named
  exact get?_eq_none_of_shape same (h n named)

theorem Binds.of_shape (h : f.Binds n) (same : g.shape = f.shape) : g.Binds n := by
  rcases h with named | ⟨c, held⟩
  · left
    rwa [show g.names = f.names from congrArg Prod.fst same]
  · right
    by_contra absent
    rw [not_exists] at absent
    have absent := get?_eq_none_of_shape same.symm (Option.eq_none_iff_forall_ne_some.2 absent)
    rw [held] at absent
    cases absent

end Frame

namespace Frames

variable {fs : Frames} {f : Frame} {n : String}

structure Innermost (fs : Frames) (n : String) (place : Nat) (f : Frame) : Prop where
  held : fs[place]? = some f
  binds : f.Binds n
  inner : ∀ g ∈ fs.take place, ¬ g.Binds n

theorem Innermost.tail {g : Frame} {place : Nat} (h : Innermost (g :: fs) n (place + 1) f) :
    fs.Innermost n place f :=
  ⟨h.held, h.binds, fun g' inside => h.inner g' (List.mem_cons_of_mem g inside)⟩

theorem exists_innermost (h : fs.Binds n) : ∃ place f, fs.Innermost n place f := by
  induction fs with
  | nil =>
    obtain ⟨f, inside, _⟩ := h
    cases inside
  | cons g fs ih =>
    by_cases binds : g.Binds n
    · exact ⟨0, g, rfl, binds, fun g' inside => (nomatch inside)⟩
    · have rest : Binds fs n := by
        obtain ⟨f, inside, held⟩ := h
        rcases List.mem_cons.1 inside with rfl | inside
        · exact absurd held binds
        · exact ⟨f, inside, held⟩
      obtain ⟨place, f, innermost⟩ := ih rest
      refine ⟨place + 1, f, innermost.held, innermost.binds, fun g' inside => ?_⟩
      rcases List.mem_cons.1 inside with rfl | inside
      · exact binds
      · exact innermost.inner g' inside

variable {place : Nat}

theorem Innermost.isBound_iff (h : fs.Innermost n place f) :
    fs.isBound n = true ↔ n ∈ f.names := by
  induction fs generalizing place with
  | nil => cases h.held
  | cons g fs ih =>
    unfold isBound
    cases place with
    | zero =>
      cases Option.some.inj h.held
      rcases h.binds with named | ⟨c, held⟩
      · rw [if_pos (List.contains_iff_mem.2 named)]
        exact iff_of_true rfl named
      · rw [if_pos (show f.closures.contains n = true from
          Option.isSome_iff_exists.2 ⟨c, held⟩)]
        simp
    | succ place =>
      have free : ¬ g.Binds n := h.inner g List.mem_cons_self
      have unnamed : ¬ g.names.contains n = true :=
        fun named => free (.inl (List.contains_iff_mem.1 named))
      have unheld : ¬ g.closures.contains n = true :=
        fun held => free (.inr (Option.isSome_iff_exists.1 held))
      rw [if_neg unnamed, if_neg unheld]
      exact ih h.tail

theorem Innermost.owner?_eq (h : fs.Innermost n place f) :
    fs.owner? n = if f.closures.contains n then some place else none := by
  induction fs generalizing place with
  | nil => cases h.held
  | cons g fs ih =>
    unfold owner?
    cases place with
    | zero =>
      cases Option.some.inj h.held
      by_cases held : f.closures.contains n = true
      · rw [if_pos held, if_pos held]
      · have named : f.names.contains n = true := List.contains_iff_mem.2
          (h.binds.resolve_right fun c => held (Option.isSome_iff_exists.2 c))
        rw [if_neg held, if_neg held, if_pos named]
    | succ place =>
      have free : ¬ g.Binds n := h.inner g List.mem_cons_self
      have unnamed : ¬ g.names.contains n = true :=
        fun named => free (.inl (List.contains_iff_mem.1 named))
      have unheld : ¬ g.closures.contains n = true :=
        fun held => free (.inr (Option.isSome_iff_exists.1 held))
      rw [if_neg unheld, if_neg unnamed, ih h.tail]
      split <;> rfl

theorem binds_of_isBound (h : fs.isBound n = true) : fs.Binds n := by
  induction fs with
  | nil => cases h
  | cons g fs ih =>
    unfold isBound at h
    split at h
    · rename_i named
      exact ⟨g, List.mem_cons_self, .inl (List.contains_iff_mem.1 named)⟩
    · split at h
      · cases h
      · exact (ih h).cons g

/-- What the two look-ups of a name say.  They are never both positive, one of them is if a frame
binds the name, and both speak for the innermost such frame. -/
structure Answers (fs : Frames) (n : String) : Prop where
  apart : ¬ (fs.isBound n = true ∧ (fs.owner? n).isSome = true)
  bound : fs.Binds n → fs.isBound n = true ∨ (fs.owner? n).isSome = true
  variable_iff : ∀ {place f}, fs.Innermost n place f → (fs.isBound n = true ↔ n ∈ f.names)
  closure_iff : ∀ {place f}, fs.Innermost n place f →
    (fs.owner? n = some place ↔ ∃ c, f.closures.get? n = some c)

theorem answers_of_apart (h : ∀ f ∈ fs, f.Apart) (n : String) : fs.Answers n where
  apart := by
    rintro ⟨named, owned⟩
    obtain ⟨place, f, innermost⟩ := exists_innermost (binds_of_isBound named)
    have absent := h f (List.mem_of_getElem? innermost.held) n (innermost.isBound_iff.1 named)
    have unheld : ¬ f.closures.contains n = true := by
      change ¬ (f.closures.get? n).isSome = true
      rw [absent]
      exact Bool.false_ne_true
    rw [innermost.owner?_eq, if_neg unheld] at owned
    cases owned
  bound binds := by
    obtain ⟨place, f, innermost⟩ := exists_innermost binds
    rw [innermost.isBound_iff, innermost.owner?_eq]
    rcases innermost.binds with named | held
    · exact .inl named
    · right
      rw [if_pos (show f.closures.contains n = true from Option.isSome_iff_exists.2 held)]
      rfl
  variable_iff innermost := innermost.isBound_iff
  closure_iff {place f} innermost := by
    rw [innermost.owner?_eq, ← Option.isSome_iff_exists]
    change _ ↔ f.closures.contains n = true
    cases f.closures.contains n <;> simp

end Frames

end Cascade
