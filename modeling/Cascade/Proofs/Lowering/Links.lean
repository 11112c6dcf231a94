import Cascade.Proofs.Lowering.Entries
import Cascade.Proofs.Lowering.Frames

set_option autoImplicit false

namespace Cascade.Lowering

open Source

/-- Every name that a call without definition could refer to is among the known ones. -/
structure Covered (known : List String) (s : State) : Prop where
  aliases : ∀ {id name}, s.aliases.get? id = some name → name ∈ known
  closures : ∀ {name}, s.frames.Started name → name ∈ known

/-- An operand of a lambda expression called where it stands refers to a definition inside it. -/
def LambdaAhead (sites : List Site) (name : String) : Prop :=
  ∃ site ∈ sites, (∃ n, site.callee = lambdaAlias n) ∧ site.RefersAhead name

def Resolves (known : List String) (ms : List Mark) (sites : List Site) : Prop :=
  ∀ name ∈ ahead ms, name ∈ known ∨ LambdaAhead sites name

structure Linked (known : List String) (ms : List Mark) (sites : List Site) (t : State) :
    Prop where
  covered : Covered (definedNames ms ++ known) t
  resolves : Resolves known ms sites

variable {known more : List String} {s t : State} {xs ys : List Mark} {ps qs : List Site}

namespace Covered

theorem mono (h : Covered known s) (sub : known ⊆ more) : Covered more s :=
  ⟨fun found => sub (h.aliases found), fun started => sub (h.closures started)⟩

theorem of_frames {fs : Frames} (h : Covered known s)
    (frames : ∀ {name}, fs.Started name → name ∈ known) : Covered known (s.withFrames fs) :=
  ⟨h.aliases, frames⟩

theorem bind {id : String} (h : Covered known s) :
    Covered known (s.withFrames (s.frames.bind id)) :=
  h.of_frames fun started => h.closures started.of_bind

theorem bindClosure {id : String} {routine : Routine} (h : Covered known s) :
    Covered known (s.withFrames (s.frames.bindClosure id routine)) :=
  h.of_frames fun started => h.closures started.of_bindClosure

theorem withStatus (h : Covered known s) {id : String} (named : id ∈ known) {place : Nat}
    {status : ClosureStatus} : Covered known (s.withStatus place id status) := by
  refine h.of_frames fun started => ?_
  rcases started.of_setStatus with rfl | started
  · exact named
  · exact h.closures started

theorem lambdaNamed (h : Covered known s) : Covered known s.lambdaNamed :=
  ⟨h.aliases, h.closures⟩

theorem recorded {event : Event} (h : Covered known s) : Covered known (s.recorded event) :=
  ⟨h.aliases, h.closures⟩

theorem opened (h : Covered known s) {entry : Entry} {place : Nat} {routine : Routine}
    {formals : List String} : Covered known (s.opened entry place (frameOf routine formals)) := by
  refine ⟨h.aliases, ?_⟩
  rintro name ⟨f, member, c, held, status⟩
  rcases List.mem_cons.1 member with rfl | member
  · cases held
  · exact h.closures ⟨f, List.mem_of_mem_drop member, c, held, status⟩

theorem begun {id : FunctionId} {requested qualname : String} {routine : Routine}
    {formals : List String} (h : Covered known s) :
    Covered (s.aliasFor id requested :: known)
      (s.begun id requested qualname (frameOf routine formals)) := by
  constructor
  · intro other name found
    change Table.get? (Table.set s.aliases id (s.aliasFor id requested)) other = some name at found
    rw [Table.get?_set] at found
    split at found
    · cases found
      exact List.mem_cons_self
    · exact List.mem_cons_of_mem _ (h.aliases found)
  · rintro name ⟨f, member, c, held, status⟩
    cases List.mem_singleton.1 member
    cases held

theorem closed {before : Frames} (h : Covered known t)
    (outer : ∀ {name}, before.Started name → name ∈ known) {place : Nat} :
    Covered known (t.closed before place) := by
  refine h.of_frames fun started => ?_
  rcases Frames.started_append.1 started with started | started
  · exact outer (started.mono fun _ member => List.mem_of_mem_take member)
  · exact h.closures (started.mono fun _ member => List.mem_of_mem_tail member)

end Covered

theorem LambdaAhead.mono {name : String} (h : LambdaAhead ps name) (sub : ps ⊆ qs) :
    LambdaAhead qs name := by
  obtain ⟨site, member, rest⟩ := h
  exact ⟨site, sub member, rest⟩

theorem LambdaAhead.after {name : String} (h : LambdaAhead ps name)
    (fresh : name ∉ definedNames xs) : LambdaAhead (ps.map (Site.after xs)) name := by
  obtain ⟨site, member, callee, refers⟩ := h
  exact ⟨site.after xs, List.mem_map_of_mem member, callee, Site.refersAhead_after fresh refers⟩

namespace Resolves

theorem mono_sites (h : Resolves known xs ps) (sub : ps ⊆ qs) : Resolves known xs qs := by
  intro name later
  rcases h name later with found | exception
  · exact .inl found
  · exact .inr (exception.mono sub)

/-- What is read first is known to what is read after it. -/
theorem append (first : Resolves known xs ps) (second : Resolves (definedNames xs ++ known) ys qs) :
    Resolves known (xs ++ ys) (ps ++ qs.map (Site.after xs)) := by
  intro name later
  rcases mem_ahead_append.1 later with later | ⟨fresh, later⟩
  · rcases first name later with found | exception
    · exact .inl found
    · exact .inr (exception.mono (List.subset_append_left _ _))
  · rcases second name later with found | exception
    · rcases List.mem_append.1 found with defined | found
      · exact absurd defined fresh
      · exact .inl found
    · exact .inr ((exception.after fresh).mono (List.subset_append_right _ _))

end Resolves

namespace Linked

theorem nil (h : Covered known s) : Linked known [] [] s :=
  ⟨h, fun _ later => absurd later List.not_mem_nil⟩

theorem append (first : Resolves known xs ps)
    (second : Linked (definedNames xs ++ known) ys qs t) :
    Linked known (xs ++ ys) (ps ++ qs.map (Site.after xs)) t := by
  refine ⟨second.covered.mono ?_, first.append second.resolves⟩
  intro name member
  simp only [definedNames_append, List.mem_append] at member ⊢
  tauto

/-- A definition is known from its beginning on. -/
theorem definition {name : String} (body : Linked (name :: known) ys qs t) :
    Linked known (.definition name :: ys) (qs.map (Site.after [.definition name])) t := by
  have nothing : Resolves known [.definition name] [] :=
    fun _ later => absurd later List.not_mem_nil
  exact append nothing body

theorem state (h : Linked known xs ps s)
    (kept : ∀ {names}, Covered names s → Covered names t) : Linked known xs ps t :=
  ⟨kept h.covered, h.resolves⟩

theorem call {callee : String} {operands : List Node} {definition : Node}
    (outer : Resolves known (Node.marksList operands) (Node.sitesList operands))
    (inner : Linked (definedNames (Node.marksList operands) ++ known) definition.marks
      definition.sites t) :
    Linked known (Node.call callee operands (some definition)).marks
      (Node.call callee operands (some definition)).sites t := by
  have both := append outer inner
  exact ⟨both.covered, both.resolves.mono_sites (List.subset_cons_self _ _)⟩

/-- A lambda expression is lowered before its operands, but read after them. -/
theorem lambda {n : Nat} {formals : Formals} {operands steps : List Node}
    (inner : Resolves known (Node.marksList steps) (Node.sitesList steps))
    (outer : Linked (definedNames (Node.marksList steps) ++ known) (Node.marksList operands)
      (Node.sitesList operands) t) :
    Linked known
      (Node.call (lambdaAlias n) operands (some (.function (lambdaAlias n) formals steps))).marks
      (Node.call (lambdaAlias n) operands (some (.function (lambdaAlias n) formals steps))).sites
      t := by
  constructor
  · refine outer.covered.mono fun name member => ?_
    simp only [Node.marks, Node.callMarks, definedNames_append, definedNames_definition,
      List.mem_append, List.mem_cons] at member ⊢
    tauto
  · intro name later
    rcases mem_ahead_append.1 later with early | ⟨fresh, late⟩
    · rcases outer.resolves name early with found | exception
      · rcases List.mem_append.1 found with defined | found
        · exact .inr ⟨_, List.mem_cons_self, ⟨n, rfl⟩, List.not_mem_nil, early,
            List.mem_cons_of_mem _ defined⟩
        · exact .inl found
      · refine .inr (exception.mono ?_)
        exact List.subset_cons_of_subset _ (List.subset_append_left _ _)
    · obtain ⟨late, other⟩ := List.mem_filter.1 late
      rcases inner name late with found | exception
      · exact .inl found
      · have distinct : name ∉ definedNames [.definition (lambdaAlias n)] := by simpa using other
        refine .inr (((exception.after distinct).after fresh).mono ?_)
        exact List.subset_cons_of_subset _ (List.subset_append_right _ _)

theorem nodes {ns ms : List Node} (first : Linked known (Node.marksList ns) (Node.sitesList ns) s)
    (second : Linked (definedNames (Node.marksList ns) ++ known) (Node.marksList ms)
      (Node.sitesList ms) t) :
    Linked known (Node.marksList (ns ++ ms)) (Node.sitesList (ns ++ ms)) t := by
  rw [Node.marksList_append, Node.sitesList_append]
  exact append first.resolves second

theorem reference {callee : String} {operands : List Node}
    (outer : Linked known (Node.marksList operands) (Node.sitesList operands) t)
    (found : callee ∈ definedNames (Node.marksList operands) ++ known) :
    Linked known (Node.call callee operands none).marks (Node.call callee operands none).sites
      t := by
  have last : Linked (definedNames (Node.marksList operands) ++ known) [.reference callee] [] t := by
    refine ⟨outer.covered, fun name later => .inl ?_⟩
    rw [List.mem_singleton.1 later]
    exact found
  simpa [Node.marks, Node.callMarks, Node.sites, Node.callSites] using append outer.resolves last

end Linked

theorem Lowered.linked {host : Host} {names : Namespace} {job : Job} {ns : List Node}
    (h : Lowered host names job s ns t) (covered : Covered known s) :
    Linked known (Node.marksList ns) (Node.sitesList ns) t := by
  -- The known names grow from left to right: a part knows what the parts read before it define.
  induction h generalizing known with
  | name found =>
    rcases nameNode?_eq_ok found with rfl | ⟨value, rfl⟩ <;> exact .nil covered
  | constant found =>
    rw [constantNode?_eq_ok found]
    exact .nil covered
  | negative _ found =>
    rw [Node.literal?_eq_ok found]
    exact .nil covered
  | constants _ found =>
    rw [literals?_eq_ok found]
    simpa [Node.marks, Node.sites, marksList_literals, sitesList_literals] using Linked.nil covered
  | nil | chainNil | range | ret | declaration | pass | blockNil => exact .nil covered
  | assignLambda | nested => exact .nil covered.bindClosure.recorded
  | dropped => exact .nil covered.recorded
  | plus _ ih | minus _ _ ih | negation _ _ ih | operator _ _ _ _ ih | display _ _ _ ih
  | retValue _ ih | compare _ ih | annotated _ ih | expression _ ih =>
    simpa [Node.marks, Node.sites, Node.marksList, Node.sitesList, Node.valueMarks,
      Node.valueSites] using ih covered
  | augAssign _ _ ih | assign _ ih =>
    have value := ih covered
    simp only [Node.marksList_singleton, Node.sitesList_singleton] at value
    simp only [Node.marks, Node.sites, Node.marksList, Node.sitesList, List.append_nil,
      List.nil_append, List.map_nil, List.map_id, Site.after_nil]
    exact value.state .bind
  | closureReference _ owned outer started ih =>
    have operands := ih covered
    obtain ⟨⟨routine, status⟩, held⟩ := outer.owner_keeps owned
    have begun : status ≠ .pending := by
      rintro rfl
      exact started routine held
    rw [Node.marksList_singleton, Node.sitesList_singleton]
    exact operands.reference (operands.covered.closures (Frames.started_of_closure? held begun))
  | functionReference _ _ _ _ _ recorded ih =>
    have operands := ih covered
    rw [Node.marksList_singleton, Node.sitesList_singleton]
    exact (operands.reference (operands.covered.aliases recorded)).state .recorded
  | binary _ _ _ ih₁ ih₂ | junction _ _ ih₁ ih₂ | cons _ _ ih₁ ih₂ | blockCons _ _ ih₁ ih₂
  | branch _ _ ih₁ ih₂ =>
    have first := ih₁ covered
    have both := first.nodes (ih₂ first.covered)
    simpa [Node.marks, Node.marksList, Node.elseMarks, Node.sites, Node.sitesList,
      Node.elseSites] using both
  | loop _ _ ih₁ ih₂ =>
    have first := ih₁ covered
    have both := first.nodes (ih₂ first.covered.bind)
    simpa [Node.marks, Node.marksList, Node.sites, Node.sitesList] using both
  | chainCons _ _ _ _ ih₁ ih₂ ih₃ | branchElse _ _ _ ih₁ ih₂ ih₃ =>
    have first := ih₁ covered
    have both := first.nodes (ih₂ first.covered)
    have all := both.nodes (ih₃ both.covered)
    simpa [Node.marks, Node.marksList, Node.elseMarks, Node.sites, Node.sitesList, Node.elseSites,
      Site.after_after, Function.comp_def] using all
  | lambda _ _ _ _ ih₁ ih₂ =>
    -- Lowered first, the body is known to the operands, although they are read before it.
    have body := ih₁ covered.lambdaNamed.opened
    have operands := ih₂ (body.covered.closed fun started =>
      List.mem_append_right _ (covered.closures started))
    rw [Node.marksList_singleton, Node.sitesList_singleton]
    exact .lambda body.resolves operands
  | functionDefinition _ _ _ _ _ _ _ ih₁ ih₂ =>
    have operands := ih₁ covered
    have definition := ih₂ operands.covered
    rw [Node.marksList_singleton, Node.sitesList_singleton] at definition ⊢
    exact .call operands.resolves definition
  | @closureDefinition _ id _ _ place _ _ _ operands t _ _ _ _ _ _ _ _ _ ih₁ ih₂ =>
    have before := ih₁ covered
    have active : Covered (id :: (definedNames (Node.marksList operands) ++ known))
        (t.withStatus place id .active) :=
      Covered.withStatus (before.covered.mono (List.subset_cons_self _ _)) List.mem_cons_self
    have body := (ih₂ active.opened).definition
    rw [Node.marksList_singleton, Node.sitesList_singleton]
    refine .call before.resolves ⟨Covered.withStatus (body.covered.closed fun started => ?_) ?_,
      body.resolves⟩
    · have found := active.closures started
      simp only [definedNames_definition, List.cons_append, List.mem_cons, List.mem_append]
        at found ⊢
      tauto
    · exact List.mem_cons_self
  | function _ _ _ _ ih =>
    have definition := (ih covered.begun).definition
    rw [Node.marksList_singleton, Node.sitesList_singleton]
    refine ⟨definition.covered.of_frames fun started => ?_, definition.resolves⟩
    exact List.mem_append_right _ (covered.closures started)

end Cascade.Lowering

namespace Cascade.Host

open Lowering Source

variable {h : Host} {e : EntryPoint} {d : Definition} {s : State} {value : Value}
  {name : Option String} {maxDepth : Option Int}

theorem run_resolves (run : h.run e = .ok d s) : Resolves [] d.node.marks d.node.sites := by
  have empty : Covered [] (.start []) := by
    constructor
    · intro id name found
      cases found
    · rintro name ⟨f, member, _⟩
      cases member
  have linked := (run_sound run).linked empty
  rw [Node.marksList_singleton, Node.sitesList_singleton] at linked
  exact linked.resolves

theorem references_subset (run : h.run e = .ok d s) : d.node.references ⊆ d.node.definitions := by
  intro name member
  rcases mem_referredNames_of_ahead member with defined | later
  · exact defined
  · rcases run_resolves run name later with found | ⟨site, inside, _, refers⟩
    · cases found
    · exact (Node.sites_in d.node site inside).mem_definedNames refers.2.2

theorem functionIds_nodup (run : h.run e = .ok d s) : (s.functionRuns.map (·.1)).Nodup := by
  have consistent := run_consistent run
  rw [← List.nodup_reverse, ← List.map_reverse, consistent.runs]
  exact consistent.ids

/-- Each function is lowered once.  There are as many definitions as there were functions, closures
and lambda expressions to lower, and every call without definition has one of them. -/
theorem definitions_complete (lowered : h.lower value name maxDepth = .ok d) :
    ∃ e s, h.entry? value name maxDepth = .ok e ∧ h.run e = .ok d s ∧
      (s.functionRuns.map (·.1)).Nodup ∧
      d.node.definitions.length =
        s.functionRuns.length + (s.closureNames.length + s.lambdaNames.length) ∧
      d.node.references ⊆ d.node.definitions := by
  obtain ⟨e, s, entry, run⟩ := lower_eq_ok.1 lowered
  refine ⟨e, s, entry, run, functionIds_nodup run, ?_, references_subset run⟩
  have count := ((definitions_perm run).trans s.entryNames_perm).length_eq
  rw [List.length_append, List.length_append, State.functionNames, List.length_map] at count
  exact count

/-- Two functions that call each other, one of them through a closure that calls itself. -/
def alternating : Host :=
  let n : Expr := .name "n" .load
  let call (callee : String) (arg : Expr) : Expr := .call (.name callee .load) [arg] []
  ofFunctions []
    [("even", ["n"], [.ret (some (.binary .add (call "odd" n) (call "odd" n)))]),
    ("odd", ["n"],
      [.function "step" [⟨.positional, "n", none, none⟩]
        [.ret (some (call "step" (call "even" n)))] [] none,
      .ret (some (call "step" (call "odd" n)))])]

theorem alternating_definitions_complete :
    ∃ d, alternating.lower (.function "even") none none = .ok d ∧
      d.node.definitions = ["even", "odd", "step"] ∧
      ∃ e s, alternating.entry? (.function "even") none none = .ok e ∧ alternating.run e = .ok d s ∧
        (s.functionRuns.map (·.1)).Nodup ∧
        d.node.definitions.length =
          s.functionRuns.length + (s.closureNames.length + s.lambdaNames.length) ∧
        d.node.references ⊆ d.node.definitions := by
  obtain ⟨d, lowered, definitions⟩ := exists_of_toOption
    (show (alternating.lower (.function "even") none none).toOption.map (·.node.definitions) =
      some ["even", "odd", "step"] by decide +kernel)
  exact ⟨d, lowered, definitions, definitions_complete lowered⟩

/-- Every call without definition is read after the beginning of a definition of that name, exactly
if no operand of a lambda expression called where it stands refers to a function that is first
defined inside the lambda expression. -/
theorem definitions_precede_references_iff (lowered : h.lower value name maxDepth = .ok d) :
    (∀ pre callee post, d.node.marks = pre ++ .reference callee :: post →
      .definition callee ∈ pre) ↔ ∀ callee, ¬ LambdaAhead d.node.sites callee := by
  obtain ⟨e, s, _, run⟩ := lower_eq_ok.1 lowered
  constructor
  · rintro ordered callee ⟨site, inside, _, refers⟩
    have later := (Node.sites_in d.node site inside).mem_ahead refers
    obtain ⟨pre, post, split, undefined⟩ := mem_ahead_iff.1 later
    exact undefined (ordered pre callee post split)
  · intro none pre callee post split
    by_contra undefined
    have later := mem_ahead_iff.2 ⟨pre, post, split, undefined⟩
    rcases run_resolves run callee later with found | exception
    · cases found
    · exact none callee exception

/-- A function `g` that a lambda expression calls in its body and in its operand. -/
def shared : Host :=
  let call (callee : Expr) (arg : Expr) : Expr := .call callee [arg] []
  let g : Expr := .name "g" .load
  ofFunctions []
    [("g", ["y"], [.ret (some (.name "y" .load))]),
    ("f", ["x"], [.ret (some (call (.lambda [⟨.positional, "y", none, none⟩]
      (call g (.name "y" .load))) (call g (.name "x" .load))))])]

theorem shared_marks : ∃ d, shared.lower (.function "f") none none = .ok d ∧
    d.node.marks =
      [.definition "f", .reference "g", .definition "lambda_1", .definition "g"] :=
  exists_of_toOption (by decide +kernel)

theorem shared_definitions_precede_references_iff :
    ∃ d, shared.lower (.function "f") none none = .ok d ∧
      ((∀ pre callee post, d.node.marks = pre ++ .reference callee :: post →
        .definition callee ∈ pre) ↔ ∀ callee, ¬ LambdaAhead d.node.sites callee) := by
  obtain ⟨d, lowered, _⟩ := shared_marks
  exact ⟨d, lowered, definitions_precede_references_iff lowered⟩

/-- The operand refers to `g`, whose definition follows in the lambda expression. -/
theorem shared_reference_precedes_definition :
    ∃ d, shared.lower (.function "f") none none = .ok d ∧
      ∃ pre callee post, d.node.marks = pre ++ .reference callee :: post ∧
        .definition callee ∉ pre := by
  obtain ⟨d, lowered, marks⟩ := shared_marks
  refine ⟨d, lowered, [.definition "f"], "g", [.definition "lambda_1", .definition "g"], marks, ?_⟩
  decide

end Cascade.Host
