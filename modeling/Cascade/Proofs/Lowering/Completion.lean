import Cascade.Proofs.Lowering.Reach
import Cascade.Proofs.Lowering.Uniqueness

set_option autoImplicit false

namespace Cascade.Lowering

open Source State

structure Precedes (s t : State) : Prop where
  entries : s.entries <:+ t.entries
  aliases : s.aliases <+: t.aliases

theorem Precedes.refl (s : State) : Precedes s s :=
  ⟨List.suffix_rfl, List.prefix_rfl⟩

theorem Precedes.trans {s t u : State} (first : Precedes s t) (second : Precedes t u) :
    Precedes s u :=
  ⟨first.entries.trans second.entries, first.aliases.trans second.aliases⟩

theorem Precedes.get?_eq {s t : State} (h : Precedes s t) {id : FunctionId} {name : String}
    (found : s.aliases.get? id = some name) : t.aliases.get? id = some name := by
  obtain ⟨more, same⟩ := h.aliases
  unfold Table.get? at found ⊢
  rw [← same, List.lookup_append, found]
  rfl

theorem stable_precedes (s : State) : Stable (Precedes s) where
  frames h := ⟨h.entries, h.aliases⟩
  event h := ⟨h.entries, h.aliases⟩
  closure h := ⟨h.entries.trans (List.suffix_cons _ _), h.aliases⟩
  lambda h := ⟨h.entries.trans (List.suffix_cons _ _), h.aliases⟩
  function {t id requested} new h := by
    refine ⟨h.entries.trans (List.suffix_cons _ _), h.aliases.trans ?_⟩
    change t.aliases <+: (t.aliases.mark id requested).2
    rw [Aliases.mark_eq_append new]
    exact List.prefix_append _ _

theorem Lowered.precedes {host : Host} {names : Namespace} {job : Job} {s t : State}
    {ns : List Node} (h : Lowered host names job s ns t) : Precedes s t :=
  h.preserves (stable_precedes s) (.refl s)

def Succeeds (host : Host) (names : Namespace) (job : Job) (s : State) : Prop :=
  ∃ s' ns t, s'.silent = s.silent ∧ Lowered host names job s' ns t

/-- The job succeeds from the state, up to the log, and is finished before the last state. -/
def Completes (host : Host) (names : Namespace) (job : Job) (s final : State) : Prop :=
  ∃ s' ns t, s'.silent = s.silent ∧ Lowered host names job s' ns t ∧ Precedes t final

section Parts

variable {host : Host} {names : Namespace} {s s' t t' final : State} {ns ns' : List Node}

theorem Lowered.exprs_split {before after : List Expr} {e : Expr}
    (h : Lowered host names (.exprs (before ++ e :: after)) s ns t) :
    ∃ ms u n v, Lowered host names (.exprs before) s ms u ∧
      Lowered host names (.expr e) u [n] v ∧ Precedes v t := by
  induction before generalizing s ns with
  | nil =>
    cases h with
    | cons head tail => exact ⟨_, _, _, _, .nil, head, tail.precedes⟩
  | cons first before ih =>
    cases h with
    | cons head tail =>
      obtain ⟨ms, u, n, v, earlier, part, rest⟩ := ih tail
      exact ⟨_, u, n, v, .cons head earlier, part, rest⟩

theorem Lowered.chain_split {left : Expr} {before after : List (Comparison Expr)}
    {link : Comparison Expr}
    (h : Lowered host names (.chain left (before ++ link :: after)) s ns t) :
    ∃ ms u a v b w, Lowered host names (.chain left before) s ms u ∧
      Lowered host names (.expr (lastOperand left before)) u [a] v ∧
      Lowered host names (.expr link.right) v [b] w ∧ Precedes w t := by
  induction before generalizing left s ns with
  | nil =>
    cases h with
    | chainCons _ first second more =>
      exact ⟨_, _, _, _, _, _, .chainNil, first, second, more.precedes⟩
  | cons head before ih =>
    cases h with
    | chainCons known first second more =>
      obtain ⟨ms, u, a, v, b, w, earlier, part, right, rest⟩ := ih more
      exact ⟨_, u, a, v, b, w, .chainCons known first second earlier, part, right, rest⟩

theorem Lowered.block_split {before after : List Stmt} {st : Stmt}
    (h : Lowered host names (.block (before ++ st :: after)) s ns t) :
    ∃ ms u ls v, Lowered host names (.block before) s ms u ∧
      Lowered host names (.statement st) u ls v ∧ Precedes v t := by
  induction before generalizing s ns with
  | nil =>
    cases h with
    | blockCons head tail => exact ⟨_, _, _, _, .blockNil, head, tail.precedes⟩
  | cons first before ih =>
    cases h with
    | blockCons head tail =>
      obtain ⟨ms, u, ls, v, earlier, part, rest⟩ := ih tail
      exact ⟨_, u, ls, v, .blockCons head earlier, part, rest⟩

theorem Lowered.completes_expr {before after : List Expr} {e : Expr}
    (h : Lowered host names (.exprs (before ++ e :: after)) s' ns' t') (same : s'.silent = s.silent)
    (earlier : Lowered host names (.exprs before) s ns t) (rest : Precedes t' final) :
    Completes host names (.expr e) t final := by
  obtain ⟨ms, u, n, v, earlier', part, more⟩ := h.exprs_split
  exact ⟨u, _, v, (earlier.unique same earlier').2, part, more.trans rest⟩

theorem Lowered.completes_statement {before after : List Stmt} {st : Stmt}
    (h : Lowered host names (.block (before ++ st :: after)) s' ns' t')
    (same : s'.silent = s.silent) (earlier : Lowered host names (.block before) s ns t)
    (rest : Precedes t' final) : Completes host names (.statement st) t final := by
  obtain ⟨ms, u, ls, v, earlier', part, more⟩ := h.block_split
  exact ⟨u, ls, v, (earlier.unique same earlier').2, part, more.trans rest⟩

/-- The arguments of a call are lowered, first of all if the callee is no lambda expression. -/
theorem Lowered.exprs_of_callable {callee : Expr} {args : List Expr}
    (h : Lowered host names (.expr (.call callee args [])) s ns t)
    (callable : Callable host names s callee) :
    ∃ operands u, Lowered host names (.exprs args) s operands u ∧ Precedes u t := by
  cases h with
  | operator _ _ outer | closureReference _ _ outer => exact ⟨_, _, outer, .refl _⟩
  | closureDefinition _ _ outer _ _ _ inner =>
    have begun := inner.precedes
    exact ⟨_, _, outer, (List.suffix_cons _ _).trans begun.entries, begun.aliases⟩
  | functionReference _ _ _ _ outer => exact ⟨_, _, outer, (stable_precedes _).event (.refl _)⟩
  | functionDefinition _ _ _ _ outer _ definition => exact ⟨_, _, outer, definition.precedes⟩
  | lambda =>
    rcases callable with ⟨token, known⟩ | ⟨id, use, place, same, _⟩ | ⟨target, called⟩
    · cases known
    · cases same
    · cases called

theorem Callable.of_frames {callee : Expr} (h : Callable host names s callee)
    (same : s'.frames = s.frames) : Callable host names s' callee := by
  unfold Callable at h ⊢
  rwa [same]

theorem Operand.completes {e a : Expr} (operand : Operand host names e s a t)
    (same : s'.silent = s.silent) (h : Lowered host names (.expr e) s' ns' t')
    (rest : Precedes t' final) : Completes host names (.expr a) t final := by
  cases operand with
  | unary kept =>
    cases h with
    | plus operand | minus _ operand | negation _ operand =>
      exact ⟨_, _, _, same, operand, rest⟩
    | negative sign =>
      have absent : Scalar.negate? _ = none := kept rfl
      rw [sign] at absent
      cases absent
  | left =>
    cases h with
    | binary _ first second => exact ⟨_, _, _, same, first, second.precedes.trans rest⟩
  | right _ first =>
    cases h with
    | binary _ first' second' => exact ⟨_, _, _, (first.unique same first').2, second', rest⟩
  | junction split earlier =>
    cases h with
    | junction head tail =>
      have whole := Lowered.cons head tail
      rw [split] at whole
      exact whole.completes_expr same earlier rest
  | compareLeft split _ earlier =>
    cases h with
    | compare links =>
      rw [split] at links
      obtain ⟨_, _, _, _, _, _, earlier', first', second', more⟩ := links.chain_split
      exact ⟨_, _, _, (earlier.unique same earlier').2, first',
        second'.precedes.trans (more.trans rest)⟩
  | compareRight split _ earlier first =>
    cases h with
    | compare links =>
      rw [split] at links
      obtain ⟨_, _, _, _, _, _, earlier', first', second', more⟩ := links.chain_split
      have begun := (earlier.unique same earlier').2
      exact ⟨_, _, _, (first.unique begun first').2, second', more.trans rest⟩
  | argument _ callable earlier =>
    obtain ⟨_, _, outer, more⟩ := h.exprs_of_callable (callable.of_frames (frames_of_silent same))
    exact outer.completes_expr same earlier (more.trans rest)
  | @lambdaArgument params body formals _ _ _ _ _ _ _ _ _ accepted inner earlier =>
    obtain ⟨_, _, _, _, accepted', inner', outer', _⟩ := h.lambda_inv
    rw [lambdas_of_silent same, accepted] at accepted'
    cases accepted'
    have opened := silent_congr (fun s => s.lambdaNamed.opened (.lambda (lambdaAlias
      (s.lambdas + 1))) 0 (frameOf (Routine.ofLambda params body) formals)) (fun _ => rfl) same
    have after := (inner.unique opened inner').2
    rw [frames_of_silent same] at outer'
    exact outer'.completes_expr (silent_congr (fun t => t.closed s.frames 0) (fun _ => rfl) after)
      earlier rest

theorem Evaluates.completes {st : Stmt} {e : Expr} (evaluates : Evaluates st e)
    (same : s'.silent = s.silent) (h : Lowered host names (.statement st) s' ns' t')
    (rest : Precedes t' final) : Completes host names (.expr e) s final := by
  cases evaluates with
  | ret =>
    cases h with
    | retValue value => exact ⟨_, _, _, same, value, rest⟩
  | assign plain =>
    cases h with
    | assign value => exact ⟨_, _, _, same, value, ⟨rest.entries, rest.aliases⟩⟩
    | assignLambda => cases plain
  | annotated plain =>
    cases h with
    | annotated assignment =>
      cases assignment with
      | assign value => exact ⟨_, _, _, same, value, ⟨rest.entries, rest.aliases⟩⟩
      | assignLambda => cases plain
  | augAssign =>
    cases h with
    | augAssign _ value => exact ⟨_, _, _, same, value, ⟨rest.entries, rest.aliases⟩⟩
  | expression plain =>
    cases h with
    | dropped => cases plain
    | expression value => exact ⟨_, _, _, same, value, rest⟩
  | test =>
    cases h with
    | branch condition positive =>
      exact ⟨_, _, _, same, condition, positive.precedes.trans rest⟩
    | branchElse condition positive negative =>
      exact ⟨_, _, _, same, condition, positive.precedes.trans (negative.precedes.trans rest)⟩

theorem Nested.completes {st part : Stmt} (nested : Nested host names st s part t)
    (same : s'.silent = s.silent) (h : Lowered host names (.statement st) s' ns' t')
    (rest : Precedes t' final) : Completes host names (.statement part) t final := by
  cases nested with
  | body condition earlier =>
    cases h with
    | branch condition' positive' =>
      exact positive'.completes_statement (condition.unique same condition').2 earlier rest
    | branchElse condition' positive' negative' =>
      exact positive'.completes_statement (condition.unique same condition').2 earlier
        (negative'.precedes.trans rest)
  | @orelse test body before _ after _ _ _ _ _ _ _ condition positive earlier =>
    generalize others : before ++ part :: after = orelse at h
    cases h with
    | branch => simp at others
    | branchElse condition' positive' negative' =>
      have tested := (condition.unique same condition').2
      rw [← others] at negative'
      exact negative'.completes_statement (positive.unique tested positive').2 earlier rest
  | @loop id _ _ _ _ _ _ _ _ _ _ header earlier =>
    cases h with
    | loop header' inner' =>
      have after := (header.unique same header').2
      exact inner'.completes_statement
        (silent_congr (fun t => t.withFrames (t.frames.bind id)) (fun _ => rfl) after) earlier rest

/-- A part that a task comes to is finished before the task is. -/
theorem Enters.completes {task part : Task} (entered : Enters host names task s part t)
    (h : Completes host names task.job s final) :
    Completes host (task.inner host names) part.job t final := by
  obtain ⟨s', ns', t', same, h, rest⟩ := h
  cases entered with
  | operand operand => exact operand.completes same h rest
  | @lambda params body args formals _ plain accepted =>
    obtain ⟨_, _, _, _, accepted', inner', outer', _⟩ := Lowered.lambda_inv h
    rw [lambdas_of_silent same, accepted] at accepted'
    cases accepted'
    have more : Precedes _ t' := outer'.precedes
    exact ⟨_, _, _, silent_congr (fun s => s.lambdaNamed.opened (.lambda (lambdaAlias
      (s.lambdas + 1))) 0 (frameOf (Routine.ofLambda params body) formals)) (fun _ => rfl) same,
      inner', Precedes.trans ⟨more.entries, more.aliases⟩ rest⟩
  | @closure id _ _ place routine formals _ _ u _ owned outer pending _ accepted =>
    rw [← frames_of_silent same] at owned
    obtain ⟨_, u', outer', ending'⟩ := Lowered.closure_inv h owned
    -- The operands have one outcome, so the closure is pending in the derivation at hand as well.
    have after := (outer.unique same outer').2
    rw [← frames_of_silent after] at pending
    rcases ending' with ⟨started', _⟩ | ⟨_, _, _, _, pending', accepted', inner', _, rfl⟩
    · exact absurd pending (started' _)
    · rw [pending] at pending'
      cases pending'
      cases accepted.symm.trans accepted'
      exact ⟨_, _, _, silent_congr (fun t => (t.withStatus place id .active).opened (.closure id)
        place (frameOf routine formals)) (fun _ => rfl) after, inner',
        ⟨rest.entries, rest.aliases⟩⟩
  | function _ unnamed unowned called outer unrecorded =>
    rw [← frames_of_silent same] at unnamed unowned called
    obtain ⟨_, _, outer', ending'⟩ := Lowered.function_call_inv h unnamed unowned called
    have after := (outer.unique same outer').2
    rcases ending' with ⟨_, recorded', _⟩ | ⟨_, _, _, _, definition', _⟩
    · rw [aliases_of_silent after, unrecorded] at recorded'
      cases recorded'
    · exact ⟨_, _, _, after, definition', rest⟩
  | value evaluates => exact evaluates.completes same h rest
  | display shape split earlier =>
    cases h with
    | loop header inner =>
      cases header with
      | range static => rcases shape with rfl | rfl <;> cases static
      | display shape' values' =>
        cases elements_unique shape shape'
        rw [split] at values'
        have more : Precedes _ t' := inner.precedes
        exact values'.completes_expr same earlier
          (Precedes.trans ⟨more.entries, more.aliases⟩ rest)
      | constants => rcases shape with shape | shape <;> cases shape
  | nested nested => exact nested.completes same h rest
  | body earlier => exact Lowered.completes_statement h same earlier rest
  | @begun id requested located formals _ _ _ _ _ _ found accepted split earlier =>
    cases h with
    | function _ found' accepted' inner' =>
      cases found.symm.trans found'
      rw [aliasFor_of_silent same, accepted] at accepted'
      cases accepted'
      rw [split] at inner'
      exact inner'.completes_statement (silent_congr (fun s => s.begun id requested
        (host.world.function id).qualname (frameOf located.routine formals)) (fun _ => rfl) same)
        earlier ⟨rest.entries, rest.aliases⟩

end Parts

section Reaches

variable {host : Host} {e : EntryPoint} {d : Definition} {final : State}
  {active : List Activation} {names : Namespace} {task : Task} {s : State}

/-- Everything that the successful lowering of an entry point comes to is finished before its
end. -/
theorem Reaches.completes (run : host.run e = .ok d final)
    (h : Reaches host e active names task s) : Completes host names task.job s final := by
  induction h with
  | entry => exact ⟨_, _, _, rfl, Host.run_sound run, .refl final⟩
  | @within _ _ task _ _ _ _ entered _ begun ih =>
    have part := entered.completes ih
    cases task with
    | function id requested => exact absurd rfl (begun id requested)
    | _ => exact part
  | lambda _ plain accepted ih => exact (Enters.lambda plain accepted).completes ih
  | closure _ plain owned outer pending undecorated accepted ih =>
    exact (Enters.closure plain owned outer pending undecorated accepted).completes ih
  | function _ found accepted split earlier ih =>
    exact (@Enters.begun _ _ _ _ _ _ _ _ _ _ _ _ found accepted split earlier).completes ih

theorem Reaches.precedes (run : host.run e = .ok d final)
    (h : Reaches host e active names task s) : Precedes s final := by
  obtain ⟨s', _, _, same, lowered, rest⟩ := h.completes run
  have whole := lowered.precedes.trans rest
  exact ⟨entries_of_silent same ▸ whole.entries, aliases_of_silent same ▸ whole.aliases⟩

/-- Everything that the successful lowering of an entry point comes to succeeds. -/
theorem Reaches.succeeds (run : host.run e = .ok d final)
    (h : Reaches host e active names task s) : Succeeds host names task.job s := by
  obtain ⟨s', ns, t, same, lowered, _⟩ := h.completes run
  exact ⟨s', ns, t, same, lowered⟩

end Reaches

end Cascade.Lowering
