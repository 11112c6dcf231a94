import Cascade.Proofs.Source.Inlining

set_option autoImplicit false

/-!
# Assignment expressions that a lowering comes to

A lowering does not look into everything that it accepts.  It asks a callee, the header of a loop
and the head of a nested function only whether they have a certain form, and it drops the target of
a bare annotation.  An expression, statement or routine exposes names if they stand nowhere but in
the places that the lowering does look into, and there as targets of assignment expressions.  What
is refused anyway may hold them anywhere.

Three values need fewer levels than the assignment expressions that they are the values of: a number
behind a minus sign, a text at the beginning of a body and a lambda expression that stands alone.
There the names are exposed only if there are levels to spare.
-/
namespace Cascade.Source

open Lowering (negated?)

namespace Expr

section Exposes

variable (spare : Bool) (off : List String)

mutual

/-- Wherever one of the names stands in the expression, a lowering comes to it as the target of an
assignment expression, or comes to something that it refuses. -/
def exposes : Expr → Bool
  | name id _ => !off.contains id
  | unary op a => exposes a &&
      (spare || op != .minus || (negated? (a.inline off)).isSome == (negated? a).isSome)
  | binary _ a b => exposes a && exposes b
  | junction _ a es => exposes a && exposesList es
  | compare a _ b cs => exposes a && (exposes b && exposesLinks cs)
  | call f es _ => exposesCallee f && exposesList es
  | _ => true

/-- The body of a lambda expression that is called where it stands is lowered.  Another callee is
not. -/
def exposesCallee : Expr → Bool
  | lambda ps a => (Stmt.headExprs ps [] none).all (lacks off) &&
      ((bif a.isLambda then a.lacks off else exposes a) &&
        (spare || (a.inline off).isLambda == a.isLambda))
  | f => f.lacks off

def exposesList : List Expr → Bool
  | [] => true
  | e :: es => exposes e && exposesList es

def exposesLinks : List (Comparison Expr) → Bool
  | [] => true
  | ⟨_, a⟩ :: cs => exposes a && exposesLinks cs

end

/-- The same for the value that a name is bound to.  A lambda expression is only kept. -/
def exposesBound (e : Expr) : Bool :=
  bif e.isLambda then e.lacks off else e.exposes spare off

def exposesAlone (e : Expr) : Bool :=
  e.exposesBound spare off && (spare || (e.inline off).isLambda == e.isLambda)

/-- The same for a target.  One that is no name is refused, and must not become one. -/
def exposesTarget : Expr → Bool
  | name id use => (name id use).lacks off
  | named target value => (named target value).lacks off
  | _ => true

/-- The same for the header of a loop.  Only the elements of a display are lowered. -/
def exposesHeader : Expr → Bool
  | list es | tuple es => exposesList spare off es
  | e => e.lacks off

end Exposes

theorem mentions_lambda (ps : List (Parameter Expr)) (a : Expr) :
    (lambda ps a).mentions = (Stmt.headExprs ps [] none).flatMap mentions ++ a.mentions := by
  have head {visit : Expr → List String} {enter : Expr → Bool} :
      collectParameters visit enter ps =
        (Stmt.headExprs ps [] none).flatMap (collect visit enter) := by
    induction ps with
    | nil => rfl
    | cons p ps ih =>
      obtain ⟨kind, id, first, second⟩ := p
      rw [collectParameters, ih]
      cases first <;> cases second <;> simp [collectOption, Stmt.headExprs]
  exact congrArg (· ++ a.mentions) head

section Apart

variable {spare : Bool} {off : List String}

theorem exposesBound_of_disjoint {e : Expr} (apart : off.Disjoint e.mentions)
    (exposed : e.exposes spare off = true) : e.exposesBound spare off = true := by
  unfold exposesBound
  rw [lacks_iff.2 apart, exposed, Bool.cond_self]

theorem exposesAlone_of_disjoint {e : Expr} (apart : off.Disjoint e.mentions)
    (exposed : e.exposes spare off = true) : e.exposesAlone spare off = true := by
  unfold exposesAlone
  rw [exposesBound_of_disjoint apart exposed, inline_of_disjoint apart, beq_self_eq_true,
    Bool.or_true, Bool.and_true]

mutual

theorem exposes_of_disjoint : ∀ (e : Expr), off.Disjoint e.mentions → e.exposes spare off = true
  | name id use, apart => by
    have absent : id ∉ off := List.disjoint_singleton.1 apart
    simp [exposes, absent]
  | unary op a, apart => by
    have apart : off.Disjoint a.mentions := apart
    simp [exposes, exposes_of_disjoint a apart, inline_of_disjoint apart]
  | binary op a b, apart => by
    rw [mentions_binary, List.disjoint_append_right] at apart
    simp [exposes, exposes_of_disjoint a apart.1, exposes_of_disjoint b apart.2]
  | junction op a es, apart => by
    have apart := List.disjoint_append_right.1
      (show off.Disjoint (a.mentions ++ mentionsList es) from apart)
    simp [exposes, exposes_of_disjoint a apart.1, exposesList_of_disjoint es apart.2]
  | compare a op b cs, apart => by
    have apart := List.disjoint_append_right.1
      (show off.Disjoint (a.mentions ++ (b.mentions ++ mentionsLinks cs)) from apart)
    have rest := List.disjoint_append_right.1 apart.2
    simp [exposes, exposes_of_disjoint a apart.1, exposes_of_disjoint b rest.1,
      exposesLinks_of_disjoint cs rest.2]
  | call f es ks, apart => by
    have callee := List.disjoint_of_subset_right (mentions_callee_subset f es ks) apart
    have args := List.disjoint_of_subset_right (mentions_args_subset f es ks) apart
    simp [exposes, exposesCallee_of_disjoint f callee, exposesList_of_disjoint es args]
  | constant .., _ | member .., _ | subscript .., _ | slice .., _ | conditional .., _
  | lambda .., _ | tuple .., _ | list .., _ | set .., _ | dict .., _ | comprehension .., _
  | dictComprehension .., _ | named .., _ | yield .., _ | yieldFrom .., _ | await .., _
  | fstring .., _ | formatted .., _ | starred .., _ => rfl

theorem exposesCallee_of_disjoint : ∀ (f : Expr), off.Disjoint f.mentions →
    f.exposesCallee spare off = true
  | lambda ps a, apart => by
    rw [mentions_lambda, List.disjoint_append_right] at apart
    rw [exposesCallee, all_lacks_iff.2 apart.1, Bool.true_and]
    exact exposesAlone_of_disjoint apart.2 (exposes_of_disjoint a apart.2)
  | name .., apart | constant .., apart | unary .., apart | binary .., apart | junction .., apart
  | compare .., apart | call .., apart | member .., apart | subscript .., apart | slice .., apart
  | conditional .., apart | tuple .., apart | list .., apart | set .., apart | dict .., apart
  | comprehension .., apart | dictComprehension .., apart | named .., apart | yield .., apart
  | yieldFrom .., apart | await .., apart | fstring .., apart | formatted .., apart
  | starred .., apart => lacks_iff.2 apart

theorem exposesList_of_disjoint : ∀ (es : List Expr), off.Disjoint (mentionsList es) →
    exposesList spare off es = true
  | [], _ => rfl
  | e :: es, apart => by
    have apart := List.disjoint_append_right.1
      (show off.Disjoint (e.mentions ++ mentionsList es) from apart)
    simp [exposesList, exposes_of_disjoint e apart.1, exposesList_of_disjoint es apart.2]

theorem exposesLinks_of_disjoint : ∀ (cs : List (Comparison Expr)),
    off.Disjoint (mentionsLinks cs) → exposesLinks spare off cs = true
  | [], _ => rfl
  | ⟨op, a⟩ :: cs, apart => by
    have apart := List.disjoint_append_right.1
      (show off.Disjoint (a.mentions ++ mentionsLinks cs) from apart)
    simp [exposesLinks, exposes_of_disjoint a apart.1, exposesLinks_of_disjoint cs apart.2]

end

theorem not_mem_of_exposes {id : String} {use : Use}
    (exposed : (name id use).exposes spare off = true) : id ∉ off := by
  rw [exposes, Bool.not_eq_true', List.contains_eq_mem, decide_eq_false_iff_not] at exposed
  exact exposed

theorem disjoint_of_exposesCallee {f : Expr} (plain : f.isLambda = false)
    (exposed : f.exposesCallee spare off = true) : off.Disjoint f.mentions := by
  refine lacks_iff.1 ?_
  cases f with
  | lambda => cases plain
  | _ => exact exposed

theorem isLambda_inline {e : Expr} (isLambda : e.isLambda = true) :
    (e.inline off).isLambda = true := by
  cases e with
  | lambda => rfl
  | _ => cases isLambda

/-- Only an assignment expression becomes something of another form. -/
theorem named_of_isLambda_inline {e : Expr} (plain : e.isLambda = false)
    (becomes : (e.inline off).isLambda = true) : ∃ target value, e = named target value := by
  cases e with
  | named target value => exact ⟨target, value, rfl⟩
  | lambda => cases plain
  | _ => cases becomes

theorem exposesTarget_of_disjoint {e : Expr} (apart : off.Disjoint e.mentions) :
    e.exposesTarget off = true := by
  cases e with
  | name | named => exact lacks_iff.2 apart
  | _ => rfl

theorem exposesHeader_of_disjoint {e : Expr} (apart : off.Disjoint e.mentions) :
    e.exposesHeader spare off = true := by
  cases e with
  | list es | tuple es => exact exposesList_of_disjoint es apart
  | _ => exact lacks_iff.2 apart

end Apart

end Expr

namespace Stmt

def lacks (off : List String) (st : Stmt) : Bool :=
  off.all fun n => !st.mentions.contains n

theorem lacks_iff {off : List String} {st : Stmt} :
    st.lacks off = true ↔ off.Disjoint st.mentions := by
  simp [lacks, List.disjoint_left]

section Exposes

variable (spare : Bool) (off : List String)

mutual

def exposes : Stmt → Bool
  | function name params body decorators returns =>
    (function name params body decorators returns).lacks off
  | ret value => value.all (·.exposes spare off)
  | assign targets value => targets.all (·.exposesTarget off) && value.exposesBound spare off
  | augAssign target _ value => target.exposesTarget off && value.exposes spare off
  | annAssign target annotation none _ => target.lacks off && Expr.lacks off annotation
  | annAssign target annotation (some value) _ =>
    target.exposesTarget off && (Expr.lacks off annotation && value.exposesBound spare off)
  | forLoop target source body _ =>
    target.exposesTarget off && (source.exposesHeader spare off && exposesList body)
  | branch test body orelse =>
    test.exposes spare off && (exposesList body && exposesList orelse)
  | expr value => value.exposesAlone spare off
  | _ => true

def exposesList : List Stmt → Bool
  | [] => true
  | st :: ss => exposes st && exposesList ss

end

end Exposes

section Apart

variable {spare : Bool} {off : List String}

mutual

theorem exposes_of_disjoint : ∀ (st : Stmt), off.Disjoint st.mentions → st.exposes spare off = true
  | function .., apart => lacks_iff.2 apart
  | ret none, _ => rfl
  | ret (some e), apart => by
    rw [mentions, Option.toList_some, List.flatMap_singleton] at apart
    exact Expr.exposes_of_disjoint e apart
  | assign targets value, apart => by
    rw [mentions, List.disjoint_append_right] at apart
    have others : targets.all (·.exposesTarget off) = true :=
      List.all_eq_true.2 fun e inside =>
        Expr.exposesTarget_of_disjoint (Expr.disjoint_of_mem apart.1 inside)
    rw [exposes, others, Bool.true_and]
    exact Expr.exposesBound_of_disjoint apart.2 (Expr.exposes_of_disjoint value apart.2)
  | augAssign target op value, apart => by
    rw [mentions, List.disjoint_append_right] at apart
    rw [exposes, Expr.exposesTarget_of_disjoint apart.1, Expr.exposes_of_disjoint value apart.2]
    rfl
  | annAssign target annotation none _, apart => by
    simp only [mentions, List.flatMap_cons, List.flatMap_nil, List.append_nil,
      List.disjoint_append_right] at apart
    rw [exposes, Expr.lacks_iff.2 apart.1.1, Expr.lacks_iff.2 apart.1.2, Bool.and_self]
  | annAssign target annotation (some value) _, apart => by
    simp only [mentions, List.flatMap_cons, List.flatMap_nil, List.append_nil,
      List.disjoint_append_right, Option.toList_some] at apart
    rw [exposes, Expr.exposesTarget_of_disjoint apart.1.1, Expr.lacks_iff.2 apart.1.2,
      Expr.exposesBound_of_disjoint apart.2 (Expr.exposes_of_disjoint value apart.2)]
    rfl
  | forLoop target source body orelse, apart => by
    simp only [mentions, List.disjoint_append_right] at apart
    rw [exposes, Expr.exposesTarget_of_disjoint apart.1.1.1,
      Expr.exposesHeader_of_disjoint apart.1.1.2, exposesList_of_disjoint body apart.1.2]
    rfl
  | branch test body orelse, apart => by
    simp only [mentions, List.disjoint_append_right] at apart
    rw [exposes, Expr.exposes_of_disjoint test apart.1.1, exposesList_of_disjoint body apart.1.2,
      exposesList_of_disjoint orelse apart.2]
    rfl
  | expr value, apart =>
    Expr.exposesAlone_of_disjoint apart (Expr.exposes_of_disjoint value apart)
  | asyncFunction .., _ | classDef .., _ | whileLoop .., _ | pass, _ | refused .., _ => rfl

theorem exposesList_of_disjoint : ∀ (ss : List Stmt), off.Disjoint (mentionsList ss) →
    exposesList spare off ss = true
  | [], _ => rfl
  | st :: ss, apart => by
    rw [mentionsList, List.disjoint_append_right] at apart
    rw [exposesList, exposes_of_disjoint st apart.1, exposesList_of_disjoint ss apart.2,
      Bool.and_self]

end

end Apart

end Stmt

end Cascade.Source
