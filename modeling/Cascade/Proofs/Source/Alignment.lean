import Cascade.Proofs.Source.Exposure

set_option autoImplicit false

namespace Cascade.Source

namespace Stmt

inductive Asks : Stmt → Prop where
  | alone {target value} : Asks (expr (.named target value))
  | result {target value} : Asks (ret (some (.named target value)))

/-- Statements, and what takes their place.  If there are levels to spare, nothing matters behind an
assignment expression. -/
inductive Aligned (spare : Bool) (off : List String) : List Stmt → List Stmt → Prop where
  | nil : Aligned spare off [] []
  | cons {st ss ss'} (exposed : st.exposes spare off = true) (rest : Aligned spare off ss ss') :
      Aligned spare off (st :: ss) (st.inline off :: ss')
  | asks {st ss ss'} (room : spare = true) (asks : st.Asks) : Aligned spare off (st :: ss) ss'

section Aligned

variable {spare : Bool} {off : List String}

theorem aligned_inlineList {ss : List Stmt} (exposed : exposesList spare off ss = true) :
    Aligned spare off ss (inlineList off ss) := by
  induction ss with
  | nil => exact .nil
  | cons st ss ih =>
    rw [exposesList, Bool.and_eq_true] at exposed
    exact .cons exposed.1 (ih exposed.2)

theorem asResult_inline {st : Stmt} (exposed : st.exposes spare off = true) :
    (st.asResult.exposes spare off = true ∧ (st.inline off).asResult = st.asResult.inline off) ∨
      (spare = true ∧ st.asResult.Asks) := by
  cases st with
  | expr e =>
    have alone : e.exposesAlone spare off = true := exposed
    unfold Expr.exposesAlone Expr.exposesBound at alone
    cases isLambda : e.isLambda with
    | true =>
      left
      simp only [asResult, isLambda, inline, Expr.isLambda_inline isLambda, if_true]
      exact ⟨exposed, trivial⟩
    | false =>
      rw [asResult_expr isLambda]
      rw [isLambda, cond_false, Bool.and_eq_true] at alone
      cases becomes : (e.inline off).isLambda with
      | false => exact .inl ⟨alone.1, asResult_expr becomes⟩
      | true =>
        obtain ⟨target, value, rfl⟩ := Expr.named_of_isLambda_inline isLambda becomes
        rw [becomes] at alone
        exact .inr ⟨(Bool.or_eq_true_iff.1 alone.2).resolve_right Bool.false_ne_true, .result⟩
  | _ => exact .inl ⟨exposed, rfl⟩

theorem aligned_withResult {ss : List Stmt} (exposed : exposesList spare off ss = true) :
    Aligned spare off (Routine.withResult ss) (Routine.withResult (inlineList off ss)) := by
  induction ss with
  | nil => exact .nil
  | cons st ss ih =>
    rw [exposesList, Bool.and_eq_true] at exposed
    cases ss with
    | nil =>
      rcases asResult_inline exposed.1 with ⟨exposed, same⟩ | ⟨room, asks⟩
      · change Aligned spare off [st.asResult] [(st.inline off).asResult]
        rw [same]
        exact .cons exposed .nil
      · exact .asks room asks
    | cons next rest => exact .cons exposed.1 (ih exposed.2)

theorem isPass_inline (st : Stmt) : (st.inline off).isPass = st.isPass := by
  cases st <;> rfl

theorem filter_inlineList (ss : List Stmt) :
    ((inlineList off ss).filter fun st => !st.isPass) =
      inlineList off (ss.filter fun st => !st.isPass) := by
  induction ss with
  | nil => rfl
  | cons st ss ih =>
    rw [inlineList, List.filter_cons, List.filter_cons, isPass_inline, ih]
    split <;> rfl

theorem exposesList_iff {ss : List Stmt} :
    exposesList spare off ss = true ↔ ∀ st ∈ ss, st.exposes spare off = true := by
  induction ss with
  | nil => simp [exposesList]
  | cons st ss ih => simp [exposesList, ih]

theorem isDocstring_inline {st : Stmt} (title : st.isDocstring = true) :
    (st.inline off).isDocstring = true := by
  cases st with
  | expr e =>
    cases e with
    | constant => exact title
    | _ => cases title
  | _ => cases title

/-- Only an assignment expression becomes a text. -/
theorem asks_of_isDocstring_inline {st : Stmt} (plain : st.isDocstring = false)
    (becomes : (st.inline off).isDocstring = true) : st.Asks := by
  cases st with
  | expr e =>
    cases e with
    | named => exact .alone
    | constant => exact absurd (becomes.symm.trans plain) nofun
    | _ => cases becomes
  | _ => cases becomes

theorem Asks.withResult {st : Stmt} (asks : st.Asks) (ss : List Stmt) :
    ∃ st' ss', Routine.withResult (st :: ss) = st' :: ss' ∧ st'.Asks := by
  cases ss with
  | nil =>
    refine ⟨st.asResult, [], rfl, ?_⟩
    cases asks <;> exact .result
  | cons next rest => exact ⟨st, _, rfl, asks⟩

end Aligned

end Stmt

namespace Routine

open Stmt

def inline (off : List String) (r : Routine) : Routine :=
  { r with
    body := match r.body with
      | .block ss => .block (inlineList off ss)
      | .expression e => .expression (e.inline off) }

def isTitled : List Stmt → Bool
  | [] => false
  | st :: _ => st.isDocstring

def exposes (spare : Bool) (off : List String) (r : Routine) : Bool :=
  match r.body with
  | .block ss =>
    exposesList spare off ss && (spare || isTitled (inlineList off ss) == isTitled ss)
  | .expression e => e.exposesAlone spare off

structure Inlined (spare : Bool) (off : List String) (r r' : Routine) : Prop where
  params : r'.params = r.params
  decorated : r'.decorated = r.decorated
  localNames : ∀ formals, ∀ m ∉ off, m ∈ r'.localNames formals ↔ m ∈ r.localNames formals
  statements : Aligned spare off r.statements r'.statements

section Inlined

variable {spare : Bool} {off : List String} {r r' : Routine}

theorem Inlined.formals?_eq (h : Inlined spare off r r') (name : String) :
    r'.formals? name = r.formals? name := by
  unfold formals?
  rw [h.params]

theorem mentions_ofLambda (params : List (Parameter Expr)) (value : Expr) :
    (ofLambda params value).mentions = value.mentions := by
  change mentionsList (withResult [.expr value]) = _
  rw [mentionsList_withResult]
  exact List.append_nil _

theorem statements_block (params : List (Parameter Expr)) (ss : List Stmt) (decorated : Bool) :
    (⟨params, .block ss, decorated⟩ : Routine).statements =
      withResult ((untitled ss).filter fun st => !st.isPass) := by
  cases ss <;> rfl

theorem aligned_filter {ss : List Stmt} (exposed : exposesList spare off ss = true) :
    Aligned spare off (withResult (ss.filter fun st => !st.isPass))
      (withResult ((inlineList off ss).filter fun st => !st.isPass)) := by
  rw [filter_inlineList]
  refine aligned_withResult (exposesList_iff.2 fun st inside => ?_)
  exact exposesList_iff.1 exposed st (List.mem_filter.1 inside).1

theorem aligned_untitled {ss : List Stmt} (exposed : exposesList spare off ss = true)
    (title : (spare || isTitled (inlineList off ss) == isTitled ss) = true) :
    Aligned spare off (withResult ((untitled ss).filter fun st => !st.isPass))
      (withResult ((untitled (inlineList off ss)).filter fun st => !st.isPass)) := by
  cases ss with
  | nil => exact .nil
  | cons st ss =>
    have rest : exposesList spare off ss = true := (Bool.and_eq_true_iff.1 exposed).2
    simp only [untitled, inlineList, isTitled] at title ⊢
    cases plain : st.isDocstring with
    | true =>
      simp only [isDocstring_inline plain, if_true]
      exact aligned_filter rest
    | false =>
      cases becomes : (st.inline off).isDocstring with
      | false =>
        simp only [Bool.false_eq_true, if_false]
        exact aligned_filter exposed
      | true =>
        -- The text takes the place of an assignment expression, and is then no statement.
        have asks := asks_of_isDocstring_inline plain becomes
        have kept : st.isPass = false := by cases asks <;> rfl
        rw [plain, becomes] at title
        simp only [Bool.false_eq_true, if_false]
        rw [List.filter_cons_of_pos (by rw [kept]; rfl)]
        obtain ⟨st', ss', same, asks⟩ := asks.withResult (ss.filter fun st => !st.isPass)
        rw [same]
        exact .asks ((Bool.or_eq_true_iff.1 title).resolve_right Bool.false_ne_true) asks

theorem inlined_inline (exposed : r.exposes spare off = true) :
    Inlined spare off r (r.inline off) where
  params := rfl
  decorated := rfl
  localNames formals m other := by
    obtain ⟨params, body, decorated⟩ := r
    cases body with
    | block ss => exact Expr.mem_append_congr Iff.rfl (mem_boundNamesList_inline other ss)
    | expression e => exact Expr.mem_append_congr Iff.rfl (Expr.mem_storedNames_inline other e)
  statements := by
    obtain ⟨params, body, decorated⟩ := r
    cases body with
    | block ss =>
      have exposed := Bool.and_eq_true_iff.1 exposed
      change Aligned spare off _
        (⟨params, .block (inlineList off ss), decorated⟩ : Routine).statements
      rw [statements_block, statements_block]
      exact aligned_untitled exposed.1 exposed.2
    | expression e =>
      have alone : exposesList spare off [.expr e] = true :=
        exposesList_iff.2 fun st inside => List.mem_singleton.1 inside ▸ exposed
      exact aligned_withResult alone

theorem inlined_self (apart : off.Disjoint r.mentions) : Inlined spare off r r where
  params := rfl
  decorated := rfl
  localNames _ _ _ := Iff.rfl
  statements := by
    have exposed : exposesList spare off r.statements = true :=
      exposesList_of_disjoint r.statements apart
    have aligned := aligned_inlineList exposed
    rwa [inlineList_of_disjoint r.statements apart] at aligned

end Inlined

end Routine

end Cascade.Source
