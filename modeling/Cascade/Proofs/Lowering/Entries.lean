import Cascade.Proofs.Aliases
import Cascade.Proofs.Lowering.Parts
import Cascade.Proofs.Lowering.Soundness
import Mathlib.Data.List.Perm.Basic

set_option autoImplicit false

namespace Cascade.Lowering

open Source

namespace Entry

def function? : Entry → Option (FunctionId × String)
  | function id name => some (id, name)
  | closure _ | lambda _ => none

def closure? : Entry → Option String
  | closure name => some name
  | function .. | lambda _ => none

def lambda? : Entry → Option String
  | lambda name => some name
  | function .. | closure _ => none

end Entry

namespace State

def functionRuns (s : State) : List (FunctionId × String) :=
  s.entries.filterMap Entry.function?

def functionNames (s : State) : List String :=
  s.functionRuns.map (·.2)

def closureNames (s : State) : List String :=
  s.entries.filterMap Entry.closure?

def lambdaNames (s : State) : List String :=
  s.entries.filterMap Entry.lambda?

def entryNames (s : State) : List String :=
  s.entries.map Entry.name

theorem entryNames_perm (s : State) :
    s.entryNames.Perm (s.functionNames ++ (s.closureNames ++ s.lambdaNames)) := by
  unfold entryNames functionNames functionRuns closureNames lambdaNames
  induction s.entries with
  | nil => rfl
  | cons entry entries ih =>
    cases entry with
    | function id name => exact ih.cons name
    | closure name => exact (ih.cons name).trans List.perm_middle.symm
    | lambda name =>
      refine (ih.cons name).trans ?_
      rw [← List.append_assoc, ← List.append_assoc]
      exact List.perm_middle.symm

end State

structure Stable (I : State → Prop) : Prop where
  frames : ∀ {s fs}, I s → I (s.withFrames fs)
  event : ∀ {s event}, I s → I (s.recorded event)
  function : ∀ {s id requested}, s.aliases.get? id = none → I s →
    I ((s.marked id requested).registered (.function id (s.aliasFor id requested)))
  closure : ∀ {s name}, I s → I (s.registered (.closure name))
  lambda : ∀ {s}, I s → I (s.lambdaNamed.registered (.lambda (lambdaAlias (s.lambdas + 1))))

variable {host : Host} {names : Namespace} {job : Job} {s t : State} {ns : List Node}

theorem Lowered.preserves {I : State → Prop} (stable : Stable I)
    (h : Lowered host names job s ns t) (holds : I s) : I t := by
  induction h with
  | name | constant | negative | nil | chainNil | range | constants | ret | declaration | pass
  | blockNil => exact holds
  | plus _ ih | minus _ _ ih | negation _ _ ih | compare _ ih | operator _ _ _ _ ih
  | closureReference _ _ _ _ ih | display _ _ _ ih | annotated _ ih | retValue _ ih
  | expression _ ih => exact ih holds
  | binary _ _ _ ih₁ ih₂ | junction _ _ ih₁ ih₂ | cons _ _ ih₁ ih₂ | blockCons _ _ ih₁ ih₂
  | branch _ _ ih₁ ih₂ | functionDefinition _ _ _ _ _ _ _ ih₁ ih₂ => exact ih₂ (ih₁ holds)
  | chainCons _ _ _ _ ih₁ ih₂ ih₃ | branchElse _ _ _ ih₁ ih₂ ih₃ => exact ih₃ (ih₂ (ih₁ holds))
  | lambda _ _ _ _ ih₁ ih₂ =>
    exact ih₂ (stable.frames (ih₁ (stable.frames (stable.lambda holds))))
  | closureDefinition _ _ _ _ _ _ _ ih₁ ih₂ =>
    exact stable.frames (stable.frames (ih₂ (stable.frames (stable.closure
      (stable.frames (ih₁ holds))))))
  | functionReference _ _ _ _ _ _ ih => exact stable.event (ih holds)
  | loop _ _ ih₁ ih₂ => exact ih₂ (stable.frames (ih₁ holds))
  | augAssign _ _ ih | assign _ ih => exact stable.frames (ih holds)
  | assignLambda | nested => exact stable.event (stable.frames holds)
  | dropped => exact stable.event holds
  | function new _ _ _ ih =>
    exact stable.frames (ih (stable.frames (stable.event (stable.function new holds))))

/-- The log agrees with the aliases in force, which are distinct, and numbers the lambda
expressions. -/
structure Consistent (s : State) : Prop where
  runs : s.functionRuns.reverse = s.aliases
  ids : (s.aliases.map (·.1)).Nodup
  aliases : (s.aliases.map (·.2)).Nodup
  lambdas : s.lambdaNames.reverse = (List.range s.lambdas).map fun n => lambdaAlias (n + 1)

theorem Consistent.distinct (h : Consistent s) : s.aliases.Distinct :=
  ⟨h.ids, h.aliases⟩

theorem consistent_start : Consistent (.start []) :=
  ⟨rfl, .nil, .nil, rfl⟩

theorem State.functionRuns_marked {id : FunctionId} (new : s.aliases.get? id = none)
    (requested : String) (agree : s.functionRuns.reverse = s.aliases) :
    ((s.marked id requested).registered
      (.function id (s.aliasFor id requested))).functionRuns.reverse =
        (s.marked id requested).aliases := by
  change ((id, s.aliasFor id requested) :: s.functionRuns).reverse = _
  rw [List.reverse_cons, agree]
  exact (Aliases.mark_eq_append new requested).symm

theorem lambdaAlias_injective : Function.Injective lambdaAlias :=
  fun _ _ h => Aliases.eq_of_append_toString_eq "lambda_" h

theorem stable_consistent : Stable Consistent where
  frames h := ⟨h.runs, h.ids, h.aliases, h.lambdas⟩
  event h := ⟨h.runs, h.ids, h.aliases, h.lambdas⟩
  closure h := ⟨h.runs, h.ids, h.aliases, h.lambdas⟩
  lambda {s} h := by
    refine ⟨h.runs, h.ids, h.aliases, ?_⟩
    change (lambdaAlias (s.lambdas + 1) :: s.lambdaNames).reverse = _
    rw [List.reverse_cons, h.lambdas]
    simp [List.range_succ]
  function {s id requested} new h := by
    have distinct : (s.aliases.mark id requested).2.Distinct := h.distinct.mark new
    exact ⟨State.functionRuns_marked new requested h.runs, distinct.ids, distinct.names, h.lambdas⟩

/-- Each definition begun is written once. -/
theorem Lowered.count_entryNames (h : Lowered host names job s ns t) (name : String) :
    t.entryNames.count name =
      s.entryNames.count name + (definedNames (Node.marksList ns)).count name := by
  unfold State.entryNames
  induction h with
  | name found => simp [marks_name found]
  | constant found => simp [constantNode?_eq_ok found, Node.marks]
  | negative _ found => simp [Node.literal?_eq_ok found, Node.marks]
  | constants _ found => simp [literals?_eq_ok found, Node.marks, marksList_literals]
  | nil | chainNil | range | ret | declaration | pass | blockNil | assignLambda | nested
  | dropped => simp [Node.marksList, Node.marks, Node.valueMarks]
  | plus _ ih | annotated _ ih | expression _ ih => exact ih
  | minus _ _ ih | negation _ _ ih | operator _ _ _ _ ih | display _ _ _ ih | retValue _ ih
  | compare _ ih | augAssign _ _ ih | assign _ ih | closureReference _ _ _ _ ih
  | functionReference _ _ _ _ _ _ ih =>
    simpa [Node.marks, Node.marksList, Node.valueMarks, Node.callMarks] using ih
  | binary _ _ _ ih₁ ih₂ | junction _ _ ih₁ ih₂ | cons _ _ ih₁ ih₂ | blockCons _ _ ih₁ ih₂
  | branch _ _ ih₁ ih₂ | loop _ _ ih₁ ih₂ | functionDefinition _ _ _ _ _ _ _ ih₁ ih₂ =>
    simp only [Node.marks, Node.marksList, Node.marksList_append, Node.elseMarks, Node.callMarks,
      marks_joined, State.withFrames_entries, definedNames_definition, definedNames_append,
      List.append_nil, List.count_append] at ih₁ ih₂ ⊢
    omega
  | chainCons _ _ _ _ ih₁ ih₂ ih₃ | branchElse _ _ _ ih₁ ih₂ ih₃ =>
    simp only [Node.marks, Node.marksList, Node.elseMarks, definedNames_append, List.append_nil,
      List.count_append] at ih₁ ih₂ ih₃ ⊢
    omega
  | lambda _ _ _ _ ih₁ ih₂ | closureDefinition _ _ _ _ _ _ _ ih₁ ih₂ =>
    simp only [Node.marks, Node.marksList, Node.callMarks, State.lambdaNamed_entries,
      State.opened_entries, State.withStatus_entries, State.closed_entries, Entry.name,
      definedNames_definition, definedNames_append, List.map_cons, List.count_cons, List.append_nil,
      List.count_append] at ih₁ ih₂ ⊢
    omega
  | function _ _ _ _ ih =>
    simp only [Node.marksList_singleton, Node.marks, State.begun_entries, State.withFrames_entries,
      Entry.name, definedNames_definition, List.map_cons, List.count_cons] at ih ⊢
    omega

end Cascade.Lowering

namespace Cascade.Host

open Lowering Source

variable {h : Host} {e : EntryPoint} {d : Definition} {s : State}

theorem run_consistent (run : h.run e = .ok d s) : Consistent s :=
  (run_sound run).preserves stable_consistent consistent_start

/-- The definitions of a program are the ones its lowering began. -/
theorem definitions_perm (run : h.run e = .ok d s) : d.node.definitions.Perm s.entryNames := by
  rw [List.perm_iff_count]
  intro name
  have count := (run_sound run).count_entryNames name
  rw [Node.marksList_singleton] at count
  rw [count]
  exact (Nat.zero_add _).symm

theorem functionNames_nodup (run : h.run e = .ok d s) : s.functionNames.Nodup := by
  have consistent := run_consistent run
  unfold State.functionNames
  rw [← List.nodup_reverse, ← List.map_reverse, consistent.runs]
  exact consistent.aliases

theorem lambdaNames_nodup (run : h.run e = .ok d s) : s.lambdaNames.Nodup := by
  rw [← List.nodup_reverse, (run_consistent run).lambdas]
  refine List.Nodup.map (fun m n same => ?_) List.nodup_range
  exact Nat.succ.inj (lambdaAlias_injective same)

def ofFunctions (constants : Namespace) (functions : List (String × List String × List Stmt)) :
    Host where
  world :=
    { modules := [("m", ⟨.user, constants ++ functions.map fun f => (f.1, .function f.1)⟩)]
      functions := functions.map fun (name, formals, body) =>
        (name, ⟨"m", some "m", name, name, [], [], .body [.function name
          (formals.map fun formal => ⟨.positional, formal, none, none⟩) body [] none]⟩) }
  settings := ⟨[]⟩

theorem exists_of_toOption {α β ε : Type} {r : Except ε α} {f : α → β} {b : β}
    (h : r.toOption.map f = some b) : ∃ a, r = .ok a ∧ f a = b := by
  cases r with
  | error cause => cases h
  | ok a => exact ⟨a, rfl, Option.some.inj h⟩

def error? {α ε : Type} : Except ε α → Option ε
  | .error cause => some cause
  | .ok _ => none

theorem eq_error_of_error? {α ε : Type} {r : Except ε α} {cause : ε} (h : error? r = some cause) :
    r = .error cause := by
  cases r with
  | error other => rw [Option.some.inj h]
  | ok a => cases h

/-- The definitions of a program have different names exactly if no closure has the name of another
closure, of a function or of a lambda expression, and no function that of a lambda expression.  Two
functions never share a name, nor do two lambda expressions. -/
theorem definitions_nodup_iff {value : Value} {name : Option String} {maxDepth : Option Int}
    (lowered : h.lower value name maxDepth = .ok d) :
    ∃ e s, h.entry? value name maxDepth = .ok e ∧ h.run e = .ok d s ∧
      d.node.definitions.Perm s.entryNames ∧ s.functionNames.Nodup ∧ s.lambdaNames.Nodup ∧
      (d.node.definitions.Nodup ↔
        s.closureNames.Nodup ∧ s.closureNames.Disjoint s.functionNames ∧
          s.closureNames.Disjoint s.lambdaNames ∧ s.functionNames.Disjoint s.lambdaNames) := by
  obtain ⟨e, s, entry, run⟩ := lower_eq_ok.1 lowered
  have written := definitions_perm run
  have functions := functionNames_nodup run
  have lambdas := lambdaNames_nodup run
  refine ⟨e, s, entry, run, written, functions, lambdas, ?_⟩
  rw [(written.trans s.entryNames_perm).nodup_iff, List.nodup_append', List.nodup_append',
    List.disjoint_append_right]
  constructor
  · rintro ⟨_, ⟨closures, _, closureLambda⟩, functionClosure, functionLambda⟩
    exact ⟨closures, List.disjoint_symm functionClosure, closureLambda, functionLambda⟩
  · rintro ⟨closures, closureFunction, closureLambda, functionLambda⟩
    exact ⟨functions, ⟨closures, lambdas, closureLambda⟩, List.disjoint_symm closureFunction,
      functionLambda⟩

/-- Two functions, each with a closure `g` of its own. -/
def namesakes : Host :=
  let g (body : Expr) : Stmt := .function "g" [⟨.positional, "y", none, none⟩] [.ret (some body)]
    [] none
  let call (callee : String) : Expr := .call (.name callee .load) [.name "x" .load] []
  ofFunctions []
    [("helper", ["x"], [g (.binary .add (.name "y" .load) (.constant (.int 1))),
      .ret (some (call "g"))]),
    ("f", ["x"], [g (.binary .mult (.name "y" .load) (.constant (.int 2))),
      .ret (some (.binary .add (.binary .add (call "g") (call "helper")) (call "g")))])]

theorem namesakes_definitions : ∃ d, namesakes.lower (.function "f") none none = .ok d ∧
    d.node.definitions = ["f", "g", "helper", "g"] :=
  exists_of_toOption (by decide +kernel)

theorem namesakes_definitions_nodup_iff : ∃ d, namesakes.lower (.function "f") none none = .ok d ∧
    ∃ e s, namesakes.entry? (.function "f") none none = .ok e ∧ namesakes.run e = .ok d s ∧
      d.node.definitions.Perm s.entryNames ∧ s.functionNames.Nodup ∧ s.lambdaNames.Nodup ∧
      (d.node.definitions.Nodup ↔
        s.closureNames.Nodup ∧ s.closureNames.Disjoint s.functionNames ∧
          s.closureNames.Disjoint s.lambdaNames ∧ s.functionNames.Disjoint s.lambdaNames) := by
  obtain ⟨d, lowered, _⟩ := namesakes_definitions
  exact ⟨d, lowered, definitions_nodup_iff lowered⟩

/-- Both closures are defined under the name `g`. -/
theorem namesakes_definitions_not_nodup :
    ∃ d, namesakes.lower (.function "f") none none = .ok d ∧ ¬ d.node.definitions.Nodup := by
  obtain ⟨d, lowered, definitions⟩ := namesakes_definitions
  refine ⟨d, lowered, ?_⟩
  rw [definitions]
  decide

end Cascade.Host
