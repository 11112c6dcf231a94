import Cascade.Proofs.Lowering.Matching

set_option autoImplicit false

namespace Cascade

namespace Lowering

open Source

theorem inFreshFrame_of_error {α : Type} {s t : State} {frame : Frame} {act : Lower α} {fault : Fault}
    (ran : act (s.withFrames [frame]) = .error fault t) :
    inFreshFrame frame act s = .error fault (t.withFrames s.frames) := by
  unfold inFreshFrame inFrames
  unfold State.withFrames at ran
  rw [ran]
  rfl

namespace Plan

variable (p : Plan)

inductive Recorded (id : FunctionId) (s : State) : Ending Definition → Prop where
  | ok {d t} (frames : t.frames = s.frames) (more : Extends s.aliases t.aliases)
      (found : t.aliases.get? id = some d.name)
      (outlined : ∀ {o}, p.outline? id = some o → Outlines t.aliases o d)
      (accounts : p.Within t.aliases → p.Accounts s.aliases t.aliases d.node.functions) :
      Recorded id s (.ok d t)
  | error {fault t}
      (cause : id ∈ p.known → (∃ limit, fault = .depthExceeded limit) ∨ ¬ p.Closed) :
      Recorded id s (.error fault t)

structure Kindred (below below₀ : Descent) : Prop where
  sound : Sound p.host below
  expr : ∀ names e, p.Agree (below.expr names e) (below₀.expr names e)
  statement : ∀ names st, p.Agree (below.statement names st) (below₀.statement names st)
  body : ∀ names ss, p.Agree (below.body names ss) (below₀.body names ss)
  call : ∀ id requested, below₀.function id requested = nameKnown p.known id
  function : ∀ id requested {s}, s.aliases.get? id = none →
    p.Recorded id s (below.function id requested s)

variable {p}

section Steps

variable {below below₀ : Descent} {names : Namespace} {s s₀ : State}

theorem Kindred.known_bind (kin : p.Kindred below below₀) {id : FunctionId}
    (known : id ∈ p.known) {requested : String} {α : Type} {f : Definition → Lower α} :
    (below₀.function id requested >>= f) s = f (mention id) s := by
  rw [kin.call, nameKnown, if_pos known]
  rfl

theorem Kindred.unknown_bind (kin : p.Kindred below below₀) {id : FunctionId}
    (unknown : id ∉ p.known) {requested : String} {α : Type} {f : Definition → Lower α} :
    (below₀.function id requested >>= f) s = .error (.unknownOperator id) s := by
  rw [kin.call, nameKnown, if_neg unknown]
  rfl

theorem exprs_agree (kin : p.Kindred below below₀) (names : Namespace) (es : List Expr) :
    p.Agree (exprs below names es) (exprs below₀ names es) := fun paired =>
  exprs_same (C := p.matching) kin.sound ⟨rfl, paired⟩ fun _ _ _ here => by
    obtain ⟨rfl, paired⟩ := here
    exact kin.expr names _ paired

theorem block_agree (kin : p.Kindred below below₀) (names : Namespace) (ss : List Stmt) :
    p.Agree (block below names ss) (block below₀ names ss) := fun paired =>
  block_same (C := p.matching) kin.sound ⟨rfl, paired⟩ fun _ _ _ here => by
    obtain ⟨rfl, paired⟩ := here
    exact kin.statement names _ paired

theorem callFunction_agree (kin : p.Kindred below below₀) (names : Namespace) (id : FunctionId)
    (requested : String) (args : List Expr) :
    p.Agree (callFunction below names id requested args)
      (callFunction below₀ names id requested args) := by
  intro s s₀ paired
  unfold callFunction
  refine .bind (exprs_agree kin names args paired) @fun ns os t t₀ _ _ paired operands => ?_
  rw [get_bind, get_bind, paired.empty, Table.get?_nil]
  dsimp only
  -- The outline names the function if it is known, whether the run refers to it or lowers it.
  cases recorded : t.aliases.get? id with
  | some name =>
    by_cases known : id ∈ p.known
    · rw [kin.known_bind known]
      refine .both ⟨paired.frames, paired.empty⟩ (.refl _)
        (.user recorded (spellAll_iff.2 operands)) ?_ fun _ => .refl _ _
      simp
    · rw [kin.unknown_bind known]
      refine .stopped fun ended => ?_
      cases ended
      exact ⟨.refl _, fun within => known (within id name recorded)⟩
  | none =>
    have facts := kin.function id requested recorded
    dsimp only
    generalize ran : below.function id requested t = r at facts
    cases facts with
    | ok frames more found _ accounts =>
      rw [bind_of_ok ran]
      by_cases known : id ∈ p.known
      · rw [kin.known_bind known]
        refine .both ⟨paired.frames.trans frames.symm, paired.empty⟩ more
          (.user found ((spellAll_iff.2 operands).mono more)) ?_ fun within => ?_
        · simp
        · refine (accounts within).trans (.refl _ _) (.refl _) ?_
          simp
      · rw [kin.unknown_bind known]
        refine .stopped fun ended => ?_
        cases ended
        exact ⟨more, fun within => known (within id _ found)⟩
    | error cause =>
      rw [bind_of_error ran]
      by_cases known : id ∈ p.known
      · exact .failed (cause known)
      · rw [kin.unknown_bind known]
        exact .faults

theorem callValue_agree (kin : p.Kindred below below₀) (names : Namespace) (callee : Expr)
    (args : List Expr) :
    p.Agree (callValue p.host below names callee args)
      (callValue p.host below₀ names callee args) := by
  intro s s₀ paired
  refine callValue_coupled (C := p.matching) ⟨rfl, paired⟩ ?_
  rw [paired.frames]
  cases calledBy? p.host s.frames names callee with
  | none => exact .inl ⟨rfl, rfl, trivial⟩
  | some target =>
    exact .inr ⟨_, _, _, rfl, rfl, callFunction_agree kin names target.1 target.2 args paired⟩

theorem Kindred.coupled (kin : p.Kindred below below₀) {task : Task} (paired : Paired s s₀) :
    task.Coupled p.matching p.host p.host below below₀ names names s.aliases s s₀ := by
  refine framed_matching.coupled kin.sound ?_ (fun _ => trivial) ?_ ?_ ⟨rfl, paired⟩
  · rintro part t t₀ a _ own _ ⟨rfl, paired⟩
    cases part with
    | expr e => exact kin.expr names e paired
    | statement st => exact kin.statement names st paired
    | body ss => exact kin.body names ss paired
    | function id requested => exact absurd rfl (own id requested)
  · rw [paired.frames]
    exact .refl names s.frames task
  · rintro callee args rfl _ _ _
    exact callValue_agree kin names callee args paired

theorem expr_agree (kin : p.Kindred below below₀) (names : Namespace) (e : Expr) :
    p.Agree (expr p.host below names e) (expr p.host below₀ names e) := fun paired =>
  expr_same (C := p.matching) kin.sound ⟨rfl, paired⟩ (kin.coupled paired)

theorem statement_agree (kin : p.Kindred below below₀) (names : Namespace) (st : Stmt) :
    p.Agree (statement below names st) (statement below₀ names st) := fun paired =>
  statement_same (C := p.matching) kin.sound ⟨rfl, paired⟩ (kin.coupled paired)

theorem get?_marked {id : FunctionId} {requested : String} (other : FunctionId) :
    (s.marked id requested).aliases.get? other =
      if other = id then some (s.aliasFor id requested) else s.aliases.get? other :=
  Table.get?_set s.aliases id other _

/-- A function without an outline may fail, unless not every known function has one. -/
theorem Recorded.of_outline?_eq_none {id : FunctionId} {fault : Fault} {t : State}
    (none : ∀ {o}, p.outline? id ≠ some o) : p.Recorded id s (.error fault t) := by
  refine .error fun known => .inr fun closed => ?_
  obtain ⟨o, made⟩ := closed id known
  exact none made

/-- The definition that a function gets for its body. -/
theorem Recorded.of_body {id : FunctionId} {requested : String} {formals : List String}
    (new : s.aliases.get? id = none) {r₀ : Ending (List Node)} {steps : List Node} {t : State}
    (outline : ∀ {o}, p.outline? id = some o ↔
      ∃ body u, r₀ = .ok body u ∧ ⟨id, Formals.ofNames formals, body⟩ = o)
    (body : p.Matches [] (s.marked id requested).aliases (.ok steps t) r₀) :
    p.Recorded id s (.ok ⟨s.aliasFor id requested, Formals.ofNames formals, steps⟩
      (t.withFrames s.frames)) := by
  have more := body.grows rfl
  have named : t.aliases.get? id = some (s.aliasFor id requested) :=
    more _ _ ((get?_marked id).trans (if_pos rfl))
  cases body with
  | @both _ o _ t₀ _ _ spelled _ accounts =>
    have spelled := spellAll_iff.2 spelled
    have made : p.outline? id = some ⟨id, Formals.ofNames formals, o⟩ :=
      outline.2 ⟨o, t₀, rfl, rfl⟩
    refine .ok rfl ((Extends.marked new).trans more) named (fun made' => ?_) fun within => ?_
    · rw [made] at made'
      cases made'
      exact ⟨rfl, spelled⟩
    · intro other name found
      rcases accounts within other name found with earlier | ⟨d, member, renders⟩
      · rw [get?_marked] at earlier
        split at earlier
        · subst other
          exact .inr ⟨_, List.mem_cons_self, named, _, made, rfl, spelled⟩
        · exact .inl earlier
      · exact .inr ⟨d, List.mem_cons_of_mem _ member, renders⟩
  | stopped unknown =>
    refine .ok rfl ((Extends.marked new).trans more) named (fun made => ?_) fun within => ?_
    · obtain ⟨_, _, ⟨⟩, _⟩ := outline.1 made
    · exact absurd within (unknown rfl).2

theorem function_recorded (kin : p.Kindred below (sketch p.host p.known p.levels))
    (id : FunctionId) (requested : String) (new : s.aliases.get? id = none) :
    p.Recorded id s (function p.host below id requested s) := by
  unfold function
  rw [markFunction_bind, register_bind]
  dsimp only
  rw [record_bind]
  cases found : (p.host.world.function id).locate? with
  | error fault =>
    refine .of_outline?_eq_none fun made => ?_
    obtain ⟨_, _, _, _, found', _⟩ := outline?_eq_some.1 made
    rw [found] at found'
    cases found'
  | ok located =>
    rw [bind_of_ok (ofExcept_eq_ok.2 ⟨rfl, rfl⟩)]
    cases accepted : located.routine.formals? (s.aliasFor id requested) with
    | error fault =>
      refine .of_outline?_eq_none fun made => ?_
      obtain ⟨_, _, _, _, found', accepted', _⟩ := outline?_eq_some.1 made
      rw [found] at found'
      cases found'
      rw [formals?_rename accepted'] at accepted
      cases accepted
    | ok formals =>
      rw [bind_of_ok (ofExcept_eq_ok.2 ⟨rfl, rfl⟩)]
      have started : Paired
          (s.begun id requested (p.host.world.function id).qualname
            (frameOf located.routine formals))
          (.start [frameOf located.routine formals]) :=
        ⟨rfl, rfl⟩
      have body := block_agree kin (p.host.world.namespaceOf (p.host.world.function id))
        located.routine.statements started
      have outline {o : Definition} : p.outline? id = some o ↔ _ :=
        outline?_eq_some_iff_body found accepted
      change p.Recorded id s ((inFreshFrame (frameOf located.routine formals) _ >>= _) _)
      generalize block (sketch p.host p.known p.levels) _ _ _ = r₀ at body outline
      generalize ran : block below _ _ _ = r at body
      cases r with
      | ok steps t =>
        rw [bind_of_ok (inFreshFrame_eq_ok.2 ⟨t, ran, rfl⟩)]
        exact .of_body new outline body
      | error fault t =>
        rw [bind_of_error (inFreshFrame_of_error ran)]
        cases body with
        | stopped unknown =>
          refine .of_outline?_eq_none fun made => ?_
          obtain ⟨_, _, ⟨⟩, _⟩ := outline.1 made
        | failed cause => exact .error fun _ => cause

/-- The runs with some levels left, beside the outlines with no fewer. -/
theorem kindred_descent (p : Plan) (limit : Int) {k : Nat} (within : k ≤ p.levels) {j : Nat}
    (le : k ≤ j) : p.Kindred (descent p.host limit k) (sketch p.host p.known j) := by
  have call := sketch_function p.host p.known j
  induction k generalizing j with
  | zero =>
    have cut : ∃ reported, Fault.depthExceeded limit = .depthExceeded reported := ⟨limit, rfl⟩
    exact ⟨descent_sound p.host limit 0, fun _ _ _ _ _ => .failed (.inl cut),
      fun _ _ _ _ _ => .failed (.inl cut), fun _ _ _ _ _ => .failed (.inl cut), call,
      fun _ _ _ _ => .error fun _ => .inl cut⟩
  | succ k ih =>
    cases j with
    | zero => exact absurd le (Nat.not_succ_le_zero k)
    | succ j =>
      have within' : k ≤ p.levels := Nat.le_of_succ_le within
      have kin := ih within' (Nat.le_of_succ_le_succ le) (sketch_function _ _ _)
      -- What the run records is compared with an outline of its own, made with all levels.
      have top := ih within' within' (sketch_function _ _ _)
      exact ⟨descent_sound p.host limit (k + 1), expr_agree kin, statement_agree kin,
        block_agree kin, call,
        fun id requested _ => function_recorded top id requested⟩

end Steps

end Plan

end Lowering

end Cascade
