import Cascade.Proofs.Lowering.Support
import Cascade.Proofs.Source.Calls
import Cascade.Proofs.Source.Scoping

set_option autoImplicit false

namespace Cascade.Source

namespace Expr

def Clear (e : Expr) : Prop :=
  ∀ n, ¬ e.Conceals n

theorem clear_of_scopeParts {e : Expr} (plain : e.opensScope = false)
    (parts : ∀ a ∈ e.scopeParts, a.Clear) : e.Clear := by
  rintro n (⟨opens, _⟩ | ⟨_, below, concealed⟩)
  · exact Bool.false_ne_true (plain.symm.trans opens)
  · exact parts _ below n concealed

theorem clear_name (id : String) (use : Use) : (Expr.name id use).Clear :=
  fun _ => not_conceals_name

theorem clear_constant (value : Scalar) : (Expr.constant value).Clear :=
  clear_of_scopeParts rfl (List.forall_mem_nil _)

theorem clear_unary {op : UnaryOp} {e : Expr} (h : e.Clear) : (Expr.unary op e).Clear :=
  clear_of_scopeParts rfl (List.forall_mem_singleton.2 h)

theorem clear_call {callee : Expr} {args : List Expr} (head : callee.Clear)
    (h : ∀ e ∈ args, e.Clear) : (Expr.call callee args []).Clear := by
  refine clear_of_scopeParts rfl (List.forall_mem_cons.2 ⟨head, ?_⟩)
  rw [List.map_nil, List.append_nil]
  exact h

/-- Without initial values a lambda expression binds nothing around it. -/
theorem clear_lambda {params : List (Parameter Expr)} (body : Expr)
    (plain : ∀ p ∈ params, p.initial = none) : (Expr.lambda params body).Clear := by
  have nothing : (Expr.lambda params body).scopeParts = [] := by
    refine List.flatMap_eq_nil_iff.2 fun p inside => ?_
    rw [plain p inside]
    rfl
  intro n concealed
  rcases concealed.binds with _ | _ | ⟨below, _⟩
  rw [nothing] at below
  cases below

end Expr

namespace Stmt

/-- The statement is supported and conceals all that its expressions conceal, and so do the
statements inside it. -/
inductive Clear : Stmt → Prop where
  | mk {st : Stmt} (supported : st.isSupported = true)
      (own : ∀ e ∈ st.exprs, ∀ n, e.Conceals n → st.Conceals n)
      (inner : ∀ part ∈ st.scopeStmts, Clear part) : Clear st

variable {o : Omitted} {n : String} {st : Stmt}

/-- A statement all of whose expressions are clear. -/
theorem clear_of_exprs (supported : st.isSupported = true) (exprs : ∀ e ∈ st.exprs, e.Clear)
    (inner : ∀ part ∈ st.scopeStmts, part.Clear) : st.Clear :=
  .mk supported (fun e inside n concealed => absurd concealed (exprs e inside n)) inner

theorem clear_of_isPass (empty : st.isPass = true) : st.Clear := by
  cases st with
  | pass => exact clear_of_exprs rfl (List.forall_mem_nil _) (List.forall_mem_nil _)
  | _ => cases empty

theorem clear_of_isDocstring (title : st.isDocstring = true) : st.Clear := by
  unfold isDocstring at title
  split at title
  · exact clear_of_exprs rfl (List.forall_mem_singleton.2 (Expr.clear_constant _))
      (List.forall_mem_nil _)
  · cases title

/-- An expression that gives the result of a routine is clear if it is returned in its place. -/
theorem clear_of_asResult (h : st.asResult.Clear) : st.Clear := by
  unfold asResult at h
  split at h
  · rename_i value
    split at h
    · exact h
    · cases h with
      | mk _ own _ =>
        refine clear_of_exprs rfl (List.forall_mem_singleton.2 fun n concealed => ?_)
          (List.forall_mem_nil _)
        exact own value List.mem_cons_self n concealed
  · exact h

/-- A clear statement binds nothing but what is found by the walk or concealed. -/
theorem Clear.shown_or_conceals (h : st.Clear) (bound : st.Binds o n) :
    n ∈ st.shownNames ∨ st.Conceals n := by
  cases h with
  | mk supported own _ =>
    cases bound with
    | definition named =>
      left
      rw [shownNames, named]
      exact List.mem_singleton_self n
    | @expr _ e inside bound =>
      have inside := exprs_of_mem_scopeExprs inside
      cases defined : st.definedName? with
      | none =>
        refine (Expr.binds_iff.1 bound).imp (fun found => ?_) (own e inside n)
        rw [shownNames, defined]
        exact List.mem_flatMap.2 ⟨e, inside, found⟩
      | some name =>
        -- of all that has a name, only functions are supported
        cases st with
        | function => exact .inr ⟨e, inside, bound⟩
        | asyncFunction | classDef => cases supported
        | _ => cases defined
    | refused => cases supported

end Stmt

namespace Routine

variable {r : Routine} {st : Stmt}

theorem mem_withResult_or {ss : List Stmt} (h : st ∈ ss) :
    st ∈ withResult ss ∨ st.asResult ∈ withResult ss := by
  induction ss with
  | nil => cases h
  | cons first ss ih =>
    cases ss with
    | nil =>
      rw [List.mem_singleton.1 h]
      exact .inr List.mem_cons_self
    | cons next rest =>
      rcases List.mem_cons.1 h with rfl | h
      · exact .inl List.mem_cons_self
      · exact (ih h).imp (List.mem_cons_of_mem _) (List.mem_cons_of_mem _)

/-- What is written in the body is run, but for a leading text and empty statements. -/
theorem mem_statements_or (h : st ∈ r.written) :
    st.isPass = true ∨ st.isDocstring = true ∨ st ∈ r.statements ∨ st.asResult ∈ r.statements := by
  refine or_iff_not_imp_left.2 fun filled => or_iff_not_imp_left.2 fun plain => ?_
  obtain ⟨params, body, decorated⟩ := r
  have kept {ss : List Stmt} (h : st ∈ ss) : st ∈ ss.filter fun s => !s.isPass :=
    List.mem_filter.2 ⟨h, by simp [filled]⟩
  cases body with
  | expression value => exact mem_withResult_or (kept h)
  | block ss =>
    cases ss with
    | nil => cases h
    | cons first rest =>
      refine mem_withResult_or (kept ?_)
      change st ∈ if first.isDocstring then rest else first :: rest
      split
      · rename_i title
        refine (List.mem_cons.1 h).resolve_left ?_
        rintro rfl
        exact plain title
      · exact h

/-- Statements that have with each statement those inside it. -/
theorem Holds.mem_of_scopeStmts_subset {ss : List Stmt} (held : r.Holds st) (top : r.written ⊆ ss)
    (inner : ∀ st ∈ ss, st.scopeStmts ⊆ ss) : st ∈ ss := by
  induction held with
  | top inside => exact top inside
  | inner _ inside ih => exact inner _ ih inside

/-- If all statements that are run are clear, so are all statements of the scope. -/
theorem Holds.clear (runs : ∀ st ∈ r.statements, st.Clear) (held : r.Holds st) : st.Clear := by
  induction held with
  | top inside =>
    rcases mem_statements_or inside with empty | title | inside | inside
    · exact Stmt.clear_of_isPass empty
    · exact Stmt.clear_of_isDocstring title
    · exact runs _ inside
    · exact Stmt.clear_of_asResult (runs _ inside)
  | inner _ inside ih =>
    cases ih with
    | mk _ _ inner => exact inner _ inside

end Routine

end Cascade.Source

namespace Cascade.Lowering

open Source

def Job.Clear : Job → Prop
  | .expr e | .iterator e => e.Clear
  | .exprs es => ∀ e ∈ es, e.Clear
  | .chain left links => (links ≠ [] → left.Clear) ∧ ∀ link ∈ links, link.right.Clear
  | .statement st => st.Clear
  | .block ss => ∀ st ∈ ss, st.Clear
  | .function _ _ => True

section Lowered

variable {host : Host} {names : Namespace} {fs : Frames} {job : Job} {s t : State}
  {ns : List Node}

theorem clear_member (id attr : String) (use : Use) : (Expr.member (.name id use) attr).Clear :=
  Expr.clear_of_scopeParts rfl (List.forall_mem_singleton.2 (Expr.clear_name id use))

theorem clear_of_calleeToken? {callee : Expr} {token : String}
    (known : (calleeToken? fs names callee).filter Operator.isKnown = some token) :
    callee.Clear := by
  unfold calleeToken? at known
  split at known
  · exact Expr.clear_name _ _
  · exact clear_member _ _ _
  · cases known

theorem clear_of_calledBy? {callee : Expr} {target : FunctionId × String}
    (called : calledBy? host fs names callee = some target) : callee.Clear := by
  unfold calledBy? calleeValue? at called
  split at called
  · exact Expr.clear_name _ _
  · exact clear_member _ _ _
  · cases called

theorem clear_of_staticInt? {e : Expr} {n : Int} (static : staticInt? fs names e = some n) :
    e.Clear := by
  unfold staticInt? at static
  split at static
  · exact Expr.clear_constant _
  · exact Expr.clear_unary (Expr.clear_constant _)
  · exact Expr.clear_name _ _
  · cases static

theorem clear_of_staticRange? {e : Expr} {bounds : Int × Int × Int}
    (static : staticRange? fs names e = some bounds) : e.Clear := by
  unfold staticRange? at static
  split at static
  · split at static
    · cases static
    · obtain ⟨ints, found, _⟩ := Option.bind_eq_some_iff.1 static
      refine Expr.clear_call (Expr.clear_name _ _) fun a inside => ?_
      obtain ⟨n, integer⟩ := exists_of_mapM found a inside
      exact clear_of_staticInt? integer
  · cases static

theorem Lowered.clear (h : Lowered host names job s ns t) : job.Clear := by
  induction h with
  | name => exact Expr.clear_name _ _
  | constant => exact Expr.clear_constant _
  | plus _ ih | minus _ _ ih | negation _ _ ih => exact Expr.clear_unary ih
  | negative => exact Expr.clear_unary (Expr.clear_constant _)
  | binary _ _ _ ih₁ ih₂ =>
    exact Expr.clear_of_scopeParts rfl
      (List.forall_mem_cons.2 ⟨ih₁, List.forall_mem_singleton.2 ih₂⟩)
  | junction _ _ ih₁ ih₂ =>
    exact Expr.clear_of_scopeParts rfl (List.forall_mem_cons.2 ⟨ih₁, ih₂⟩)
  | compare _ ih =>
    obtain ⟨first, links⟩ := ih
    obtain ⟨second, rest⟩ := List.forall_mem_cons.1 links
    exact Expr.clear_of_scopeParts rfl (List.forall_mem_cons.2
      ⟨first (List.cons_ne_nil _ _), List.forall_mem_cons.2 ⟨second, List.forall_mem_map.2 rest⟩⟩)
  | operator _ known _ _ ih => exact Expr.clear_call (clear_of_calleeToken? known) ih
  | lambda _ accepted _ _ _ ih =>
    refine Expr.clear_call (Expr.clear_lambda _ fun p inside => ?_) ih
    exact (params_of_formals? accepted p inside).2
  | closureReference _ _ _ _ ih | closureDefinition _ _ _ _ _ _ _ ih =>
    exact Expr.clear_call (Expr.clear_name _ _) ih
  | functionReference _ _ _ called _ _ ih | functionDefinition _ _ _ called _ _ _ ih =>
    exact Expr.clear_call (clear_of_calledBy? called) ih
  | nil | blockNil => exact List.forall_mem_nil _
  | cons _ _ ih₁ ih₂ | blockCons _ _ ih₁ ih₂ => exact List.forall_mem_cons.2 ⟨ih₁, ih₂⟩
  | chainNil => exact ⟨fun filled => absurd rfl filled, List.forall_mem_nil _⟩
  | chainCons _ _ _ _ ih₁ ih₂ ih₃ => exact ⟨fun _ => ih₁, List.forall_mem_cons.2 ⟨ih₂, ih₃.2⟩⟩
  | range static => exact clear_of_staticRange? static
  | display shape _ _ ih =>
    rcases shape with rfl | rfl <;> exact Expr.clear_of_scopeParts rfl ih
  | constants => exact Expr.clear_name _ _
  | branch _ _ ih₁ ih₂ =>
    refine Stmt.clear_of_exprs rfl (List.forall_mem_singleton.2 ih₁) ?_
    rw [Stmt.scopeStmts, List.append_nil]
    exact ih₂
  | branchElse _ _ _ ih₁ ih₂ ih₃ =>
    exact Stmt.clear_of_exprs rfl (List.forall_mem_singleton.2 ih₁)
      (List.forall_mem_append.2 ⟨ih₂, ih₃⟩)
  | loop _ _ ih₁ ih₂ =>
    refine Stmt.clear_of_exprs rfl
      (List.forall_mem_cons.2 ⟨Expr.clear_name _ _, List.forall_mem_singleton.2 ih₁⟩) ?_
    rw [Stmt.scopeStmts, List.append_nil]
    exact ih₂
  | ret => exact Stmt.clear_of_exprs rfl (List.forall_mem_nil _) (List.forall_mem_nil _)
  | retValue _ ih | expression _ ih =>
    exact Stmt.clear_of_exprs rfl (List.forall_mem_singleton.2 ih) (List.forall_mem_nil _)
  | augAssign known _ ih =>
    refine Stmt.clear_of_exprs (by simp [Stmt.isSupported, known]) ?_ (List.forall_mem_nil _)
    exact List.forall_mem_cons.2 ⟨Expr.clear_name _ _, List.forall_mem_singleton.2 ih⟩
  | declaration =>
    refine .mk (by simp [Stmt.isSupported]) ?_ (List.forall_mem_nil _)
    exact List.forall_mem_cons.2 ⟨fun _ => .inl, List.forall_mem_singleton.2 fun _ => .inr⟩
  | @annotated _ target annotation e _ _ _ _ _ ih =>
    cases ih with
    | mk supported own _ =>
      obtain ⟨left, right⟩ := List.forall_mem_cons.1 own
      refine .mk ?_ (List.forall_mem_cons.2 ⟨fun n concealed => .inr (left n concealed),
        List.forall_mem_cons.2 ⟨fun n => .inl, List.forall_mem_singleton.2 fun n concealed => ?_⟩⟩)
        (List.forall_mem_nil _)
      · cases target with
        | name => rfl
        | _ => cases supported
      · exact .inr (right e List.mem_cons_self n concealed)
  | assign _ ih =>
    refine Stmt.clear_of_exprs rfl ?_ (List.forall_mem_nil _)
    exact List.forall_mem_cons.2 ⟨Expr.clear_name _ _, List.forall_mem_singleton.2 ih⟩
  | assignLambda =>
    refine .mk rfl (List.forall_mem_cons.2 ⟨fun n concealed => ?_, ?_⟩) (List.forall_mem_nil _)
    · exact absurd concealed Expr.not_conceals_name
    · exact List.forall_mem_singleton.2 fun n concealed => ⟨rfl, concealed⟩
  | nested =>
    exact .mk rfl (fun e inside n concealed => ⟨e, inside, concealed.binds⟩) (List.forall_mem_nil _)
  | pass => exact Stmt.clear_of_isPass rfl
  | dropped =>
    exact .mk rfl (List.forall_mem_singleton.2 fun n concealed => ⟨rfl, concealed⟩)
      (List.forall_mem_nil _)
  | function => trivial

end Lowered

end Cascade.Lowering
