import Cascade.Source.Routine

set_option autoImplicit false

namespace Cascade.Source

namespace Stmt

variable {value : Expr}

theorem asResult_expr (plain : value.isLambda = false) :
    (expr value).asResult = ret (some value) := by
  simp [asResult, plain]

theorem filter_passes (count : Nat) :
    ((List.replicate count pass).filter fun s => !s.isPass) = [] := by
  rw [List.filter_eq_nil_iff]
  intro s member
  rw [List.eq_of_mem_replicate member]
  decide

theorem boundNamesList_append (ss ts : List Stmt) :
    boundNamesList (ss ++ ts) = boundNamesList ss ++ boundNamesList ts := by
  induction ss with
  | nil => rfl
  | cons s ss ih =>
    change boundNames s ++ boundNamesList (ss ++ ts) = _
    rw [ih, ← List.append_assoc]
    rfl

theorem boundNamesList_passes (count : Nat) :
    boundNamesList (List.replicate count pass) = [] := by
  induction count with
  | zero => rfl
  | succ count ih => exact ih

end Stmt

namespace Routine

structure Alike (r r' : Routine) : Prop where
  params : r'.params = r.params
  decorated : r'.decorated = r.decorated
  localNames : ∀ formals, r'.localNames formals = r.localNames formals
  statements : r'.statements = r.statements

theorem Alike.refl (r : Routine) : r.Alike r :=
  ⟨rfl, rfl, fun _ => rfl, rfl⟩

theorem Alike.formals?_eq {r r' : Routine} (h : r.Alike r') (name : String) :
    r'.formals? name = r.formals? name := by
  unfold formals?
  rw [h.params]

def untitled : List Stmt → List Stmt
  | [] => []
  | s :: ss => if s.isDocstring then ss else s :: ss

theorem withResult_concat (ss : List Stmt) (last : Stmt) :
    withResult (ss ++ [last]) = ss ++ [last.asResult] := by
  induction ss with
  | nil => rfl
  | cons s ss ih =>
    cases ss with
    | nil => rfl
    | cons next rest => exact congrArg (s :: ·) ih

/-- What follows the first statement of a body cannot be its text. -/
theorem untitled_append {body : List Stmt} {s : Stmt} (rest : List Stmt)
    (title : body = [] → s.isDocstring = false) :
    untitled (body ++ s :: rest) = untitled body ++ s :: rest := by
  cases body with
  | nil => simp [untitled, title rfl]
  | cons first others =>
    simp only [untitled, List.cons_append]
    split <;> rfl

theorem statements_ofFunction (params : List (Parameter Expr)) (body : List Stmt)
    (decorators : List Expr) :
    (ofFunction params body decorators).statements =
      withResult ((untitled body).filter fun s => !s.isPass) := by
  cases body <;> rfl

variable {value : Expr}

/-- Behind any statements, an expression that is no lambda expression is a result. -/
theorem alike_trailing (params : List (Parameter Expr)) (body : List Stmt)
    (decorators : List Expr) (count : Nat) (plain : value.isLambda = false)
    (title : body = [] → (Stmt.expr value).isDocstring = false) :
    (ofFunction params (body ++ [.ret (some value)]) decorators).Alike
      (ofFunction params (body ++ .expr value :: List.replicate count .pass) decorators) where
  params := rfl
  decorated := rfl
  localNames formals := by
    have result : Stmt.boundNamesList [.ret (some value)] = value.storedNames := by
      simp [Stmt.boundNamesList, Stmt.boundNames]
    have trailing : Stmt.boundNamesList (.expr value :: List.replicate count .pass) =
        value.storedNames := by
      change value.storedNames ++ Stmt.boundNamesList (List.replicate count .pass) = _
      rw [Stmt.boundNamesList_passes, List.append_nil]
    change formals ++ Stmt.boundNamesList _ = formals ++ Stmt.boundNamesList _
    rw [Stmt.boundNamesList_append, Stmt.boundNamesList_append, result, trailing]
  statements := by
    have result : ([.ret (some value)] : List Stmt).filter (fun s => !s.isPass) =
        [.ret (some value)] := rfl
    have trailing : (Stmt.expr value :: List.replicate count .pass).filter (fun s => !s.isPass) =
        [.expr value] := by
      rw [List.filter_cons_of_pos rfl, Stmt.filter_passes]
    rw [statements_ofFunction, statements_ofFunction, untitled_append _ title,
      untitled_append [] fun _ => rfl, List.filter_append, List.filter_append, result, trailing,
      withResult_concat, withResult_concat, Stmt.asResult_expr plain]
    rfl

/-- A lambda expression returns its value. -/
theorem alike_lambda (params : List (Parameter Expr)) (plain : value.isLambda = false) :
    (ofFunction params [.ret (some value)] []).Alike (ofLambda params value) where
  params := rfl
  decorated := rfl
  localNames formals := by
    change formals ++ value.storedNames = formals ++ Stmt.boundNamesList [.ret (some value)]
    simp [Stmt.boundNamesList, Stmt.boundNames]
  statements := by
    change [(Stmt.expr value).asResult] = _
    rw [Stmt.asResult_expr plain]
    rfl

end Routine

end Cascade.Source
