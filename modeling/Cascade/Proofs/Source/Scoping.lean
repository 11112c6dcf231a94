import Cascade.Proofs.Source.ExprScope
import Cascade.Proofs.Source.Live

set_option autoImplicit false

/-!
# The scope of a routine

By the rules of the source language the local names of a routine are its parameters and all names
that are bound anywhere in its scope, unless the scope declares them to belong further out.  The
walk that collects them stops at everything that opens a scope.  It therefore finds what the rules
ask for, up to names that are concealed in such a place and names that are only annotated, in
parentheses.
-/
namespace Cascade.Source

/-- What the rules ask about a statement and the syntax tree leaves out. -/
structure Omitted where
  /-- The names that a statement of a refused kind binds without storing them, as imports, handlers,
  patterns and deletions do. -/
  bound : RefusedKind → List Expr → List Stmt → List String
  /-- The names that a statement of a refused kind declares to belong further out. -/
  declared : RefusedKind → List Expr → List Stmt → List String

namespace Stmt

def definedName? : Stmt → Option String
  | function name .. | asyncFunction name .. | classDef name .. => some name
  | _ => none

def exprs : Stmt → List Expr
  | function _ params _ decorators returns => headExprs params decorators returns
  | asyncFunction _ parts _ | classDef _ parts _ | refused _ parts _ => parts
  | ret value => value.toList
  | assign targets value => targets ++ [value]
  | augAssign target _ value => [target, value]
  | annAssign target annotation value _ => target :: annotation :: value.toList
  | forLoop target iterator _ _ => [target, iterator]
  | whileLoop test _ _ | branch test _ _ => [test]
  | expr value => [value]
  | pass => []

def scopeStmts : Stmt → List Stmt
  | forLoop _ _ body orelse | whileLoop _ body orelse | branch _ body orelse => body ++ orelse
  | refused _ _ body => body
  | _ => []

/-- The expressions of a statement in which names may be bound.  A name that is only annotated, in
parentheses, is not among them. -/
def scopeExprs : Stmt → List Expr
  | annAssign (.name ..) note none false => [note]
  | st => st.exprs

inductive Binds (o : Omitted) (n : String) : Stmt → Prop where
  | definition {st} (named : st.definedName? = some n) : Binds o n st
  | expr {st e} (inside : e ∈ st.scopeExprs) (bound : e.Binds n false) : Binds o n st
  | refused {kind parts body} (bound : n ∈ o.bound kind parts body) :
      Binds o n (.refused kind parts body)

/-- The statement annotates the name, in parentheses and without a value. -/
def Loosens (n : String) (st : Stmt) : Prop :=
  ∃ annotation, st = annAssign (.name n .store) annotation none false

/-- The statement binds the name where neither the walk nor the lowering looks: in the head of a
nested function or of a lambda expression that is bound to a name or stands alone, or in a lambda
expression or comprehension of an annotation or of the target of an annotation without a value. -/
def Conceals (n : String) : Stmt → Prop
  | function _ params _ decorators returns =>
    ∃ e ∈ headExprs params decorators returns, e.Binds n false
  | assign _ value | expr value => value.isLambda = true ∧ value.Conceals n
  | annAssign target annotation none _ => target.Conceals n ∨ annotation.Conceals n
  | annAssign _ annotation (some value) _ =>
    annotation.Conceals n ∨ value.isLambda = true ∧ value.Conceals n
  | _ => False

def shownNames (st : Stmt) : List String :=
  match st.definedName? with
  | some name => [name]
  | none => st.exprs.flatMap Expr.storedNames

variable {o : Omitted} {n : String} {st part : Stmt} {e : Expr}

theorem mem_boundNames :
    n ∈ st.boundNames ↔ n ∈ st.shownNames ∨ ∃ part ∈ st.scopeStmts, n ∈ part.boundNames := by
  cases st <;>
    simp [boundNames, shownNames, definedName?, exprs, scopeStmts, mem_boundNamesList,
      or_and_right, exists_or, or_assoc]

theorem sizeOf_lt_of_mem_scopeStmts (inside : part ∈ st.scopeStmts) : sizeOf part < sizeOf st := by
  have list {ss : List Stmt} : part ∈ ss → sizeOf part < sizeOf ss := List.sizeOf_lt_of_mem
  cases st <;> simp only [scopeStmts, List.mem_append, List.not_mem_nil] at inside <;> simp <;>
    grind

/-- All expressions of a statement count, but for a name that is annotated in parentheses. -/
theorem mem_scopeExprs_or (inside : e ∈ st.exprs) :
    e ∈ st.scopeExprs ∨ ∃ id use annotation, e = .name id use ∧
      st = annAssign (.name id use) annotation none false := by
  unfold scopeExprs
  split
  · rename_i id use note
    rcases List.mem_cons.1 inside with rfl | inside
    · exact .inr ⟨id, use, note, rfl, rfl⟩
    · exact .inl inside
  · exact .inl inside

theorem exprs_of_mem_scopeExprs (inside : e ∈ st.scopeExprs) : e ∈ st.exprs := by
  unfold scopeExprs at inside
  split at inside
  · exact List.mem_cons_of_mem _ inside
  · exact inside

/-- What the walk finds at a statement is bound by it or annotated in parentheses. -/
theorem binds_or_loosens (shown : n ∈ st.shownNames) : st.Binds o n ∨ st.Loosens n := by
  unfold shownNames at shown
  split at shown
  · rename_i name named
    cases List.mem_singleton.1 shown
    exact .inl (.definition named)
  · obtain ⟨e, inside, found⟩ := List.mem_flatMap.1 shown
    rcases mem_scopeExprs_or inside with counts | ⟨id, use, annotation, rfl, rfl⟩
    · exact .inl (.expr counts (Expr.binds_of_mem_storedNames found))
    · rcases Expr.mem_storedNames.1 found with same | ⟨_, _, below, _⟩
      · cases same
        exact .inr ⟨_, rfl⟩
      · cases below

theorem binds_of_conceals (inside : e ∈ st.exprs) (concealed : e.Conceals n) : st.Binds o n := by
  rcases mem_scopeExprs_or inside with counts | ⟨id, use, annotation, rfl, _⟩
  · exact .expr counts concealed.binds
  · exact absurd concealed Expr.not_conceals_name

theorem Conceals.binds (h : st.Conceals n) : st.Binds o n := by
  unfold Conceals at h
  split at h
  · obtain ⟨e, inside, bound⟩ := h
    exact .expr inside bound
  · exact binds_of_conceals (List.mem_append_right _ List.mem_cons_self) h.2
  · exact binds_of_conceals List.mem_cons_self h.2
  · rcases h with target | annotation
    · exact binds_of_conceals List.mem_cons_self target
    · exact binds_of_conceals (List.mem_cons_of_mem _ List.mem_cons_self) annotation
  · rcases h with annotation | ⟨_, value⟩
    · exact binds_of_conceals (List.mem_cons_of_mem _ List.mem_cons_self) annotation
    · exact binds_of_conceals (List.mem_cons_of_mem _ (List.mem_cons_of_mem _ List.mem_cons_self))
        value
  · cases h

end Stmt

namespace Routine

inductive Holds (r : Routine) : Stmt → Prop where
  | top {st} (inside : st ∈ r.written) : Holds r st
  | inner {st part} (outer : Holds r st) (inside : part ∈ st.scopeStmts) : Holds r part

def Declares (o : Omitted) (r : Routine) (n : String) : Prop :=
  ∃ kind parts body, r.Holds (.refused kind parts body) ∧ n ∈ o.declared kind parts body

def IsLocal (o : Omitted) (r : Routine) (n : String) : Prop :=
  ((∃ p ∈ r.params, p.name = n) ∨ ∃ st, r.Holds st ∧ st.Binds o n) ∧ ¬ r.Declares o n

variable {r : Routine} {n : String} {formals : List String}

theorem Holds.exists_shown : ∀ {st : Stmt}, r.Holds st → n ∈ st.boundNames →
    ∃ part, r.Holds part ∧ n ∈ part.shownNames := by
  intro st held bound
  rcases Stmt.mem_boundNames.1 bound with shown | ⟨part, inside, bound⟩
  · exact ⟨st, held, shown⟩
  · have smaller := Stmt.sizeOf_lt_of_mem_scopeStmts inside
    exact Holds.exists_shown (held.inner inside) bound
termination_by st => sizeOf st

theorem Holds.boundNames_subset {st : Stmt} (held : r.Holds st) :
    st.boundNames ⊆ r.localNames formals := by
  induction held with
  | top inside => exact fun n bound => mem_localNames.2 (.inr ⟨_, inside, bound⟩)
  | inner _ inside ih =>
    exact fun n bound => ih (Stmt.mem_boundNames.2 (.inr ⟨_, inside, bound⟩))

/-- The walk finds the formal arguments and what it finds at the statements of the scope. -/
theorem mem_localNames_iff_shown :
    n ∈ r.localNames formals ↔ n ∈ formals ∨ ∃ st, r.Holds st ∧ n ∈ st.shownNames := by
  constructor
  · intro found
    refine (mem_localNames.1 found).imp_right ?_
    rintro ⟨st, inside, bound⟩
    exact (Holds.top inside).exists_shown bound
  · rintro (formal | ⟨st, held, shown⟩)
    · exact mem_localNames.2 (.inl formal)
    · exact held.boundNames_subset (Stmt.mem_boundNames.2 (.inl shown))

end Routine

end Cascade.Source
