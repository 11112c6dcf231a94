import Cascade.Proofs.Lowering.Clearness

set_option autoImplicit false

/-!
# The local names of a lowered routine

The walk that collects the local names of a routine enters no lambda expression, comprehension or
head of a nested function, although assignment expressions there may bind names of the routine.
Where the lowering takes a value it accepts none of these, except for a lambda expression that is
called, and that one has no initial values.  So the names that are collected for a lowered routine
are its local names, except for names that are bound only where the lowering does not look either,
and for names that are only annotated, in parentheses.  The former are missed and the latter are
added.
-/
namespace Cascade.Lowering

open Source

inductive Lowers (host : Host) : Routine → Prop where
  | function {limit levels id requested located s d t}
      (found : (host.world.function id).locate? = .ok located)
      (run : function host (descent host limit levels) id requested s = .ok d t) :
      Lowers host located.routine
  | closure {limit levels names entry routine place s d t}
      (run : closure (descent host limit levels) names entry routine place s = .ok d t) :
      Lowers host routine

variable {host : Host} {r : Routine}

theorem lowers_of_lower {value : Value} {name : Option String} {maxDepth : Option Int}
    {d : Definition} {e : EntryPoint} {located : Located}
    (lowered : host.lower value name maxDepth = .ok d)
    (entry : host.entry? value name maxDepth = .ok e)
    (found : (host.world.function e.id).locate? = .ok located) : Lowers host located.routine := by
  obtain ⟨e', s, entry', run⟩ := Host.lower_eq_ok.1 lowered
  cases entry.symm.trans entry'
  exact .function found run

/-- The formal arguments of a lowered routine are accepted and its body is lowered. -/
theorem Lowers.exists_lowered (h : Lowers host r) :
    ∃ name formals names s ns t, r.formals? name = .ok formals ∧
      Lowered host names (.block r.statements) s ns t := by
  cases h with
  | @function limit levels id requested located s d t found run =>
    simp only [Lowering.function, bind_eq_ok, markFunction_eq_ok, register_eq_ok, record_eq_ok,
      ofExcept_eq_ok, inFreshFrame_eq_ok] at run
    obtain ⟨_, _, _, _, _, _, _, _, _, located', _, ⟨found', _⟩, formals, _, ⟨accepted, _⟩, body, _,
      ⟨u, inner, _⟩, _⟩ := run
    cases found.symm.trans found'
    exact ⟨_, formals, _, _, _, _, accepted, block_sound (descent_sound host limit levels) inner⟩
  | @closure limit levels names entry _ place s d t run =>
    obtain ⟨_, formals, steps, u, accepted, inner, _⟩ := closure_eq_ok.1 run
    exact ⟨_, formals, _, _, _, _, accepted, (descent_sound host limit levels).body inner⟩

theorem formals?_of_formals? {name : String} {formals : List String}
    (accepted : r.formals? name = .ok formals) (name' : String) :
    r.formals? name' = .ok formals := by
  unfold Routine.formals? at accepted ⊢
  split at accepted
  · cases accepted
  · rename_i placed
    split at accepted
    · cases accepted
    · rename_i plain
      rw [if_neg placed, if_neg plain]
      exact accepted

theorem mem_formals_iff {name n : String} {formals : List String}
    (accepted : r.formals? name = .ok formals) : n ∈ formals ↔ ∃ p ∈ r.params, p.name = n := by
  rw [Routine.eq_placedNames_of_formals? accepted, placedNames,
    List.filter_eq_self.2 fun p inside => (params_of_formals? accepted p inside).1, List.mem_map]

/-- Nothing that is refused stands in the scope of a routine that is lowered, so no name is declared
to belong further out. -/
theorem isLocal_iff {o : Omitted} {n : String} (clear : ∀ st, r.Holds st → st.Clear) :
    r.IsLocal o n ↔ (∃ p ∈ r.params, p.name = n) ∨ ∃ st, r.Holds st ∧ st.Binds o n := by
  refine and_iff_left ?_
  rintro ⟨kind, parts, body, held, _⟩
  cases clear _ held with
  | mk supported => cases supported

/-- The names that are collected for a lowered routine are its local names, up to two exceptions.  A
name is missed if it is bound only in the head of a nested function, or in a lambda expression or
comprehension whose value is not taken; a name is added if it is only annotated, in parentheses. -/
theorem local_names_agree_iff (lowers : Lowers host r) (o : Omitted) :
    ∃ formals, (∀ name, r.formals? name = .ok formals) ∧
      ∀ n, (n ∈ r.localNames formals ↔ r.IsLocal o n) ↔
        ∀ st, r.Holds st → (st.Conceals n → n ∈ r.localNames formals) ∧
          (st.Loosens n → r.IsLocal o n) := by
  obtain ⟨name, formals, names, s, ns, t, accepted, lowered⟩ := lowers.exists_lowered
  have clear : ∀ st, r.Holds st → st.Clear := fun st held => held.clear lowered.clear
  refine ⟨formals, formals?_of_formals? accepted, fun n => ⟨fun agree st held => ⟨?_, ?_⟩, ?_⟩⟩
  · intro concealed
    exact agree.2 ((isLocal_iff clear).2 (.inr ⟨st, held, concealed.binds⟩))
  · rintro ⟨_, rfl⟩
    refine agree.1 (Routine.mem_localNames_iff_shown.2 (.inr ⟨_, held, ?_⟩))
    exact List.mem_flatMap.2 ⟨_, List.mem_cons_self, List.mem_singleton_self n⟩
  · intro exceptions
    rw [isLocal_iff clear, ← mem_formals_iff accepted]
    constructor
    · intro found
      rcases Routine.mem_localNames_iff_shown.1 found with formal | ⟨st, held, shown⟩
      · exact .inl formal
      · rcases Stmt.binds_or_loosens (o := o) shown with bound | loosened
        · exact .inr ⟨st, held, bound⟩
        · rw [mem_formals_iff accepted]
          exact (isLocal_iff clear).1 ((exceptions st held).2 loosened)
    · rintro (formal | ⟨st, held, bound⟩)
      · exact Routine.mem_localNames_iff_shown.2 (.inl formal)
      · rcases (clear st held).shown_or_conceals bound with shown | concealed
        · exact Routine.mem_localNames_iff_shown.2 (.inr ⟨st, held, shown⟩)
        · exact (exceptions st held).1 concealed

end Cascade.Lowering

namespace Cascade.Host

open Lowering Source

def ofBody (body : List Stmt) : Routine :=
  .ofFunction [⟨.positional, "x", none, none⟩] body []

/-- The loop `for i in [1, 2]: s: int = x + i`. -/
def layeredLoop : Stmt :=
  .forLoop (.name "i" .store) (.list [.constant (.int 1), .constant (.int 2)])
    [.annAssign (.name "s" .store) (.name "int" .load)
      (some (.binary .add (.name "x" .load) (.name "i" .load))) true] []

/-- The body `def g(y: (s := x)): t = y; return t`, the loop, and `return g(s)`. -/
def layeredBody : List Stmt :=
  [.function "g" [⟨.positional, "y", some (.named (.name "s" .store) (.name "x" .load)), none⟩]
      [.assign [.name "t" .store] (.name "y" .load), .ret (some (.name "t" .load))] [] none,
    layeredLoop,
    .ret (some (.call (.name "g" .load) [.name "s" .load] []))]

def layered : Host :=
  ofFunctions [] [("f", ["x"], layeredBody)]

/-- The name `s` is bound in the head of `g`, but also in the loop, so that it is found; `t` is
local to `g` only. -/
theorem layered_local_names_agree :
    Lowers layered (ofBody layeredBody) ∧
      (ofBody layeredBody).localNames ["x"] = ["x", "g", "i", "s"] ∧
      ∀ o n, n ∈ (ofBody layeredBody).localNames ["x"] ↔ (ofBody layeredBody).IsLocal o n := by
  have lowers : Lowers layered (ofBody layeredBody) := by
    obtain ⟨d, lowered, _⟩ := exists_of_toOption
      (show (layered.lower (.function "f") none (some 100)).toOption.map (·.node.definitions) =
        some ["f", "g"] by decide +kernel)
    exact lowers_of_lower (e := ⟨"f", "f", 100⟩) lowered (by decide +kernel) rfl
  refine ⟨lowers, by decide, fun o n => ?_⟩
  obtain ⟨formals, accepted, agree⟩ := local_names_agree_iff lowers o
  cases (accepted "f").symm.trans (show _ = .ok ["x"] by rfl)
  refine (agree n).2 fun st held => ?_
  have among : st ∈ layeredBody ++ layeredLoop.scopeStmts := by
    refine held.mem_of_scopeStmts_subset (List.subset_append_left _ _) ?_
    simp [layeredBody, layeredLoop, Stmt.scopeStmts]
  simp only [layeredBody, layeredLoop, Stmt.scopeStmts, List.append_nil, List.cons_append,
    List.nil_append, List.mem_cons, List.not_mem_nil, or_false] at among
  constructor
  · intro concealed
    rcases among with rfl | rfl | rfl | rfl
    · obtain ⟨e, inside, bound⟩ := concealed
      cases List.mem_singleton.1 inside
      have clear : (Expr.named (.name "s" .store) (.name "x" .load)).Clear :=
        Expr.clear_of_scopeParts rfl (List.forall_mem_cons.2
          ⟨Expr.clear_name _ _, List.forall_mem_singleton.2 (Expr.clear_name _ _)⟩)
      have found : n ∈ ["s"] := (Expr.binds_iff.1 bound).resolve_right (clear n)
      cases List.mem_singleton.1 found
      decide
    · cases concealed
    · cases concealed
    · rcases concealed with annotation | ⟨isLambda, _⟩
      · exact absurd annotation Expr.not_conceals_name
      · cases isLambda
  · rintro ⟨_, rfl⟩
    simp at among

/-- The body `def k(a=(n := 1)): return a` and `return n`. -/
def presetBody : List Stmt :=
  [.function "k" [⟨.positional, "a", none, some (.named (.name "n" .store) (.constant (.int 1)))⟩]
      [.ret (some (.name "a" .load))] [] none,
    .ret (some (.name "n" .load))]

/-- A function in a module where `n` is 5. -/
def preset : Host :=
  ofFunctions [("n", .scalar (.int 5))] [("f", ["x"], presetBody)]

/-- The local name `n` is missed, and the constant of the module stands in its place. -/
theorem preset_local_names_disagree :
    preset.lower (.function "f") none (some 100) =
        .ok ⟨"f", .names ["x"], [.ret (some (.literal (.int 5)))]⟩ ∧
      Lowers preset (ofBody presetBody) ∧ "n" ∉ (ofBody presetBody).localNames ["x"] ∧
      ∀ o, (ofBody presetBody).IsLocal o "n" := by
  have lowered : preset.lower (.function "f") none (some 100) =
      .ok ⟨"f", .names ["x"], [.ret (some (.literal (.int 5)))]⟩ := by rfl
  have lowers : Lowers preset (ofBody presetBody) :=
    lowers_of_lower (e := ⟨"f", "f", 100⟩) lowered (by decide +kernel) rfl
  refine ⟨lowered, lowers, by decide, fun o => ?_⟩
  obtain ⟨_, _, _, _, _, _, _, derived⟩ := lowers.exists_lowered
  have clear : ∀ st, (ofBody presetBody).Holds st → st.Clear :=
    fun st held => held.clear derived.clear
  refine (isLocal_iff clear).2 (.inr ⟨_, .top List.mem_cons_self, ?_⟩)
  exact .expr List.mem_cons_self (.target .name)

end Cascade.Host
