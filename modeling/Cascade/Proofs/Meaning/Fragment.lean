import Cascade.Proofs.Meaning.Source
import Cascade.Proofs.Source.ExprScope

set_option autoImplicit false

namespace Cascade.Meaning

open Source

def isTarget : Expr → Bool
  | .name _ .store => true
  | _ => false

def targetNames : List Expr → List String
  | [.name id _] => [id]
  | _ => []

mutual

def assigned : Stmt → List String
  | .assign targets _ => targetNames targets
  | .annAssign _ _ none false => []
  | .annAssign target .. | .augAssign target .. => targetNames [target]
  | .forLoop target _ body orelse =>
    targetNames [target] ++ (assignedList body ++ assignedList orelse)
  | .branch _ body orelse => assignedList body ++ assignedList orelse
  | _ => []

def assignedList : List Stmt → List String
  | [] => []
  | s :: ss => assigned s ++ assignedList ss

end

variable (c : Context)

mutual

/-- Constants, names of them, variables, and operators other than `~`. -/
def plain : Expr → Bool
  | .name id use => use = .load ∧ (id ∈ c.locals ∨ (Context.valueOf (c.names.get? id)).isOk)
  | .constant value => (Datum.ofScalar value).isOk
  | .unary op e => op ≠ .invert ∧ plain e
  | .binary _ left right => plain left && plain right
  | .junction _ first rest => plain first && plainList rest
  | .compare left _ right rest => plain left && (plain right && plainLinks rest)
  | _ => false

def plainList : List Expr → Bool
  | [] => true
  | e :: es => plain e && plainList es

def plainLinks : List (Comparison Expr) → Bool
  | [] => true
  | ⟨_, right⟩ :: rest => plain right && plainLinks rest

end

/-- A range, a display, or a name of a sequence of integers and truth values. -/
def header : Expr → Bool
  | .call (.name _ use) args [] => use = .load ∧ plainList c args
  | .list es | .tuple es => plainList c es
  | .name id use => use = .load ∧ (Context.elementsOf (c.names.get? id)).isOk
  | _ => false

/-- The annotation binds nothing and cannot make the function a generator. -/
def isNote (e : Expr) : Bool :=
  (e.binders false).isEmpty &&
    (e.collect (fun | .yield _ | .yieldFrom _ | .await _ => [()] | _ => []) fun _ => true).isEmpty

mutual

/-- A name that is only annotated does not stand in parentheses, since it would not be bound. -/
def regular : Stmt → Bool
  | .assign [target] e => isTarget target && plain c e
  | .annAssign target note value bare =>
    isTarget target && (isNote note && (value.all (plain c) && (value.isSome || bare)))
  | .augAssign target _ e => isTarget target && plain c e
  | .branch test body orelse => plain c test && (regularList body && regularList orelse)
  | .forLoop target iterator body orelse =>
    isTarget target && (header c iterator && (regularList body && regularList orelse))
  | .ret value => value.all (plain c)
  | .pass => true
  | .expr e => plain c e
  | _ => false

def regularList : List Stmt → Bool
  | [] => true
  | s :: ss => regular s && regularList ss

end

def contextOf (names : Namespace) (routine : Routine) : Context where
  locals := placedNames routine.params ++
    match routine.body with
    | .block ss => assignedList ss
    | .expression _ => []
  names := names

def inFragment (names : Namespace) (routine : Routine) : Bool :=
  match routine.body with
  | .expression e => plain (contextOf names routine) e
  | .block [] => true
  | .block (s :: ss) =>
    (s.isDocstring || regular (contextOf names routine) s) &&
      regularList (contextOf names routine) ss

variable {c}

def OnlyTargets (visit : Expr → List String) : Prop :=
  ∀ e, isTarget e = false → visit e = []

variable {visit : Expr → List String} {enter : Expr → Bool}

mutual

theorem collect_of_plain (only : OnlyTargets visit) :
    ∀ {e}, plain c e = true → e.collect visit enter = []
  | .name id use, h => by
    simp only [plain, decide_eq_true_eq] at h
    rw [h.1]
    exact only (.name id .load) rfl
  | .constant value, _ => only (.constant value) rfl
  | .unary op e, h => by
    simp only [plain, decide_eq_true_eq] at h
    have inner := collect_of_plain only h.2
    simp [Expr.collect, only (.unary op e) rfl, inner]
  | .binary op a b, h => by
    simp only [plain, Bool.and_eq_true] at h
    have left := collect_of_plain only h.1
    have right := collect_of_plain only h.2
    simp [Expr.collect, only (.binary op a b) rfl, left, right]
  | .junction op first rest, h => by
    simp only [plain, Bool.and_eq_true] at h
    have head := collect_of_plain only h.1
    have tail := collectList_of_plain only h.2
    simp [Expr.collect, only (.junction op first rest) rfl, head, tail]
  | .compare left op right rest, h => by
    simp only [plain, Bool.and_eq_true] at h
    have first := collect_of_plain only h.1
    have second := collect_of_plain only h.2.1
    have more := collectComparisons_of_plain only h.2.2
    simp [Expr.collect, only (.compare left op right rest) rfl, first, second, more]

theorem collectList_of_plain (only : OnlyTargets visit) :
    ∀ {es}, plainList c es = true → Expr.collectList visit enter es = []
  | [], _ => rfl
  | e :: es, h => by
    simp only [plainList, Bool.and_eq_true] at h
    have head := collect_of_plain only h.1
    have tail := collectList_of_plain only h.2
    simp [Expr.collectList, head, tail]

theorem collectComparisons_of_plain (only : OnlyTargets visit) :
    ∀ {links}, plainLinks c links = true → Expr.collectComparisons visit enter links = []
  | [], _ => rfl
  | ⟨op, right⟩ :: rest, h => by
    simp only [plainLinks, Bool.and_eq_true] at h
    have head := collect_of_plain only h.1
    have tail := collectComparisons_of_plain only h.2
    simp [Expr.collectComparisons, head, tail]

end

theorem collect_of_header (only : OnlyTargets visit) {e : Expr} (h : header c e = true) :
    e.collect visit enter = [] := by
  unfold header at h
  split at h
  · rename_i id use args
    simp only [decide_eq_true_eq] at h
    have inner : Expr.collectList visit enter args = [] := collectList_of_plain only h.2
    have callee : visit (.name id use) = [] := by
      rw [h.1]
      exact only (.name id .load) rfl
    simp [Expr.collect, only (.call (.name id use) args []) rfl, callee, inner,
      Expr.collectKeywords]
  · rename_i es
    simp [Expr.collect, only (.list es) rfl, collectList_of_plain only h]
  · rename_i es
    simp [Expr.collect, only (.tuple es) rfl, collectList_of_plain only h]
  · rename_i id use
    simp only [decide_eq_true_eq] at h
    rw [h.1]
    exact only (.name id .load) rfl
  · cases h

/-- The names that an expression binds are targets in it. -/
theorem storedNames_eq_nil {e : Expr}
    (h : ∀ {visit enter}, OnlyTargets visit → e.collect visit enter = []) :
    e.storedNames = [] := by
  refine h fun other loaded => ?_
  cases other with
  | name id use =>
    cases use with
    | store => cases loaded
    | load | delete => rfl
  | _ => rfl

theorem storedNames_of_plain {e : Expr} (h : plain c e = true) : e.storedNames = [] :=
  storedNames_eq_nil fun only => collect_of_plain only h

theorem storedNames_of_header {e : Expr} (h : header c e = true) : e.storedNames = [] :=
  storedNames_eq_nil fun only => collect_of_header only h

theorem storedNames_of_isNote {e : Expr} (h : isNote e = true) : e.storedNames = [] := by
  have unbound : e.binders false = [] := List.isEmpty_iff.1 (Bool.and_eq_true_iff.1 h).1
  refine List.eq_nil_iff_forall_not_mem.2 fun n found => ?_
  have bound := Expr.mem_binders.2 (Expr.binds_of_mem_storedNames found)
  rw [unbound] at bound
  cases bound

theorem storedNames_of_isTarget {e : Expr} (h : isTarget e = true) :
    e.storedNames = targetNames [e] := by
  unfold isTarget at h
  split at h
  · rfl
  · cases h

mutual

theorem boundNames_of_regular : ∀ {s}, regular c s = true → s.boundNames = assigned s
  | .assign [target] e, h => by
    simp only [regular, Bool.and_eq_true] at h
    simp [Stmt.boundNames, assigned, storedNames_of_isTarget h.1, storedNames_of_plain h.2]
  | .annAssign target note (some e) bare, h => by
    simp only [regular, Bool.and_eq_true] at h
    simp [Stmt.boundNames, assigned, storedNames_of_isTarget h.1, storedNames_of_isNote h.2.1,
      storedNames_of_plain h.2.2.1]
  | .annAssign target note none true, h => by
    simp only [regular, Bool.and_eq_true] at h
    simp [Stmt.boundNames, assigned, storedNames_of_isTarget h.1, storedNames_of_isNote h.2.1]
  | .annAssign target note none false, h => by simp [regular] at h
  | .augAssign target op e, h => by
    simp only [regular, Bool.and_eq_true] at h
    simp [Stmt.boundNames, assigned, storedNames_of_isTarget h.1, storedNames_of_plain h.2]
  | .branch test body orelse, h => by
    simp only [regular, Bool.and_eq_true] at h
    have yes := boundNamesList_of_regular h.2.1
    have no := boundNamesList_of_regular h.2.2
    simp [Stmt.boundNames, assigned, storedNames_of_plain h.1, yes, no]
  | .forLoop target iterator body orelse, h => by
    simp only [regular, Bool.and_eq_true] at h
    have inner := boundNamesList_of_regular h.2.2.1
    have after := boundNamesList_of_regular h.2.2.2
    simp [Stmt.boundNames, assigned, storedNames_of_isTarget h.1, storedNames_of_header h.2.1,
      inner, after]
  | .ret value, h => by
    simp only [regular] at h
    cases value with
    | none => rfl
    | some e => simp [Stmt.boundNames, assigned, storedNames_of_plain h]
  | .pass, _ => rfl
  | .expr e, h => storedNames_of_plain h

theorem boundNamesList_of_regular : ∀ {ss}, regularList c ss = true →
    Stmt.boundNamesList ss = assignedList ss
  | [], _ => rfl
  | s :: ss, h => by
    simp only [regularList, Bool.and_eq_true] at h
    rw [Stmt.boundNamesList, assignedList, boundNames_of_regular h.1, boundNamesList_of_regular h.2]

end

theorem formals?_eq_ok {routine : Routine} {name : String} {formals : List String}
    (h : routine.formals? name = .ok formals) : formals = placedNames routine.params := by
  unfold Routine.formals? at h
  split at h
  · cases h
  · split at h
    · cases h
    · cases h
      rfl

theorem boundNames_of_isDocstring {s : Stmt} (h : s.isDocstring = true) :
    s.boundNames = assigned s := by
  unfold Stmt.isDocstring at h
  split at h
  · rfl
  · cases h

/-- The variables of a routine in the fragment are its formal arguments and what it assigns to. -/
theorem localNames_eq {names : Namespace} {routine : Routine} {name : String}
    {formals : List String} (accepted : routine.formals? name = .ok formals)
    (h : inFragment names routine = true) :
    routine.localNames formals = (contextOf names routine).locals := by
  rw [formals?_eq_ok accepted]
  obtain ⟨params, body, decorated⟩ := routine
  cases body with
  | expression e =>
    have stored := storedNames_of_plain h
    simp [Routine.localNames, contextOf, stored]
  | block ss =>
    cases ss with
    | nil => rfl
    | cons s ss =>
      simp only [inFragment, Bool.and_eq_true, Bool.or_eq_true] at h
      have first : s.boundNames = assigned s :=
        h.1.elim boundNames_of_isDocstring boundNames_of_regular
      have rest := boundNamesList_of_regular h.2
      simp [Routine.localNames, contextOf, Stmt.boundNamesList, assignedList, first, rest]

theorem isLambda_of_plain {e : Expr} (h : plain c e = true) : e.isLambda = false := by
  cases e with
  | lambda params body => cases h
  | _ => rfl

variable (r : Rules)

theorem body_cons {s : Stmt} {ss : List Stmt}
    (middle : (∀ e, s ≠ .expr e) ∨ ss.all Stmt.isPass = false) (σ : Store) :
    r.body c (s :: ss) σ = andThen (r.step c s σ) (r.body c ss) := by
  cases s with
  | expr e =>
    rcases middle with other | more
    · exact absurd rfl (other e)
    · simp [Rules.body, more]
  | _ => rfl

theorem asResult_of_ne {s : Stmt} (other : ∀ e, s ≠ .expr e) : s.asResult = s := by
  cases s with
  | expr e => exact absurd rfl (other e)
  | _ => rfl

theorem filter_cons_of_ne_pass {s : Stmt} (h : s ≠ .pass) (ss : List Stmt) :
    ((s :: ss).filter fun s => !s.isPass) = s :: ss.filter fun s => !s.isPass := by
  cases s with
  | pass => exact absurd rfl h
  | _ => rfl

/-- The last statement that is not empty gives the result. -/
theorem block_asResult {s : Stmt} {ss : List Stmt} (h : regular c s = true)
    (passes : ss.all Stmt.isPass = true) (idle : r.body c ss = fun τ => .ok (.running τ))
    (σ : Store) : r.block c [s.asResult] σ = r.body c (s :: ss) σ := by
  by_cases result : ∃ e, s = .expr e
  · obtain ⟨e, rfl⟩ := result
    have value : plain c e = true := h
    simp [Stmt.asResult, isLambda_of_plain value, Rules.body, passes, Rules.block, Rules.step,
      andThen]
  · have other : ∀ e, s ≠ .expr e := fun e same => result ⟨e, same⟩
    rw [body_cons r (.inl other), idle, asResult_of_ne other]
    rfl

/-- Running the statements without the empty ones, the last of which gives the result, is running
the body. -/
theorem block_withResult {ss : List Stmt} (h : regularList c ss = true) (σ : Store) :
    r.block c (Routine.withResult (ss.filter fun s => !s.isPass)) σ = r.body c ss σ := by
  induction ss generalizing σ with
  | nil => rfl
  | cons s ss ih =>
    simp only [regularList, Bool.and_eq_true] at h
    have after := funext (ih h.2)
    by_cases empty : s = .pass
    · subst empty
      exact ih h.2 σ
    · rw [filter_cons_of_ne_pass empty]
      cases rest : ss.filter fun s => !s.isPass with
      | nil =>
        -- Only empty statements follow, so this one is the last in the source as well.
        rw [rest] at after
        have passes : ss.all Stmt.isPass = true := by simpa using rest
        exact block_asResult r h.1 passes after.symm σ
      | cons t ts =>
        rw [rest] at after
        have more : ss.all Stmt.isPass = false := by
          by_contra all
          have none : (ss.filter fun s => !s.isPass) = [] := by simpa using all
          rw [rest] at none
          cases none
        rw [body_cons r (.inr more), ← after]
        rfl

/-- What is lowered of a routine means what the routine means. -/
theorem block_statements {names : Namespace} {routine : Routine}
    (h : inFragment names routine = true) (σ : Store) :
    r.block (contextOf names routine) routine.statements σ =
      r.run (contextOf names routine) routine σ := by
  obtain ⟨params, body, decorated⟩ := routine
  cases body with
  | expression e =>
    have value : regularList (contextOf names ⟨params, .expression e, decorated⟩) [.expr e] :=
      Bool.and_eq_true_iff.2 ⟨h, rfl⟩
    exact block_withResult r value σ
  | block ss =>
    cases ss with
    | nil => rfl
    | cons s ss =>
      simp only [inFragment, Bool.and_eq_true, Bool.or_eq_true] at h
      by_cases text : s.isDocstring = true
      · simp only [Routine.statements, Rules.run, text, if_true]
        exact block_withResult r h.2 σ
      · simp only [Routine.statements, Rules.run, text]
        have all : regularList (contextOf names ⟨params, .block (s :: ss), decorated⟩) (s :: ss) :=
          Bool.and_eq_true_iff.2 ⟨h.1.resolve_left text, h.2⟩
        exact block_withResult r all σ

end Cascade.Meaning
