import Cascade.Proofs.Lowering.Abreast
import Cascade.Proofs.Lowering.Completion
import Cascade.Proofs.Lowering.Need

set_option autoImplicit false

/-!
# The aliases that a run allots

However a run ends, the aliases it leaves come of one sequence of requests: the entry point asks
first, and then each function that is called and has no alias yet.  A call looks the function up
after its operands are lowered, since these may begin the same function.  So every request is for a
new function, and a call is lowered to one that carries the alias of its function.
-/
namespace Cascade.Lowering

open Source State

structure Steady (host : Host) (below : Descent) : Prop where
  expr : ∀ names e s, Advances host s (Ending.state (below.expr names e s))
  statement : ∀ names st s, Advances host s (Ending.state (below.statement names st s))
  body : ∀ names ss s, Advances host s (Ending.state (below.body names ss s))
  function : ∀ id requested s, s.aliases.get? id = none → Asked host (id, requested) →
    Advances host s (Ending.state (below.function id requested s))

theorem Level.refl (s : State) : Level (fun _ => False) s s :=
  ⟨rfl, fun _ none => none.elim⟩

theorem steady_descent (host : Host) (limit : Int) (levels : Nat) :
    Steady host (descent host limit levels) := by
  have tandem := tandem_descent (Variant.refl host) limit levels
  exact
    { expr := fun names e s => (tandem.expr names e (.refl s)).advances
      statement := fun names st s => (tandem.statement names st (.refl s)).advances
      body := fun names ss s => (tandem.body names ss (.refl s)).advances
      function := fun id requested s new asked =>
        (tandem.function id requested (.refl s) new asked).advances }

structure Allocated (host : Host) (e : EntryPoint) (requests : List (FunctionId × String))
    (final : State) : Prop where
  asked : ∀ request ∈ requests, Asked host request
  marks : Aliases.Marks [] ((e.id, e.name) :: requests) final.aliases
  once : (((e.id, e.name) :: requests).map (·.1)).Nodup
  distinct : final.aliases.Distinct
  begun : final.functionRuns.reverse = final.aliases
  granted : ∀ {before id requested after},
    (e.id, e.name) :: requests = before ++ (id, requested) :: after →
    ∃ t name, Aliases.Marks [] before t ∧ t.get? id = none ∧
      Aliases.Allotted (t.map (·.2)) requested name ∧
      Aliases.Marks (t ++ [(id, name)]) after final.aliases ∧ final.aliases.Owns id name

theorem Allocated.of_marks {host : Host} {e : EntryPoint} {requests : List (FunctionId × String)}
    {final : State} (asked : ∀ request ∈ requests, Asked host request)
    (marks : Aliases.Marks [] ((e.id, e.name) :: requests) final.aliases)
    (begun : final.functionRuns.reverse = final.aliases) :
    Allocated host e requests final := by
  have distinct : final.aliases.Distinct := marks.distinct ⟨.nil, .nil⟩
  refine ⟨asked, marks, ?_, distinct, begun, fun split => ?_⟩
  · have ids := marks.ids
    rw [List.map_nil, List.nil_append] at ids
    exact ids ▸ distinct.ids
  · rw [split] at marks
    obtain ⟨t, name, earlier, new, allotted, later, recorded⟩ := marks.granted
    exact ⟨t, name, earlier, new, allotted, later, distinct.owns recorded⟩

theorem exists_allocated (host : Host) (e : EntryPoint) :
    ∃ requests, Allocated host e requests (Ending.state (host.run e)) := by
  -- The entry point is recorded before anything can fail, so its request is always met.
  let first := ((start []).marked e.id e.name).registered
    (.function e.id ((start []).aliasFor e.id e.name))
  have ahead : Advances host first (Ending.state (host.run e)) :=
    (shared_function_abreast (Variant.refl host) (tandem_descent (Variant.refl host) e.limit _)
      (.refl (start [])) rfl).advances
  obtain ⟨requests, asked, marks⟩ := ahead.marks
  exact ⟨requests, .of_marks asked (.cons rfl marks) (ahead.runs (functionRuns_marked rfl _ rfl))⟩

section Preserves

variable {host : Host} {e : EntryPoint} {active : List Activation} {names : Namespace}
  {s t : State} {I : State → Prop}

theorem Operand.preserves {x a : Expr} (h : Operand host names x s a t) (stable : Stable I)
    (holds : I s) : I t := by
  cases h with
  | unary | left => exact holds
  | right _ earlier | junction _ earlier | compareLeft _ _ earlier | argument _ _ earlier =>
    exact earlier.preserves stable holds
  | compareRight _ _ earlier first =>
    exact first.preserves stable (earlier.preserves stable holds)
  | lambdaArgument _ _ inner earlier =>
    have opened := inner.preserves stable (stable.frames (stable.lambda holds))
    exact earlier.preserves stable (stable.frames opened)

theorem Nested.preserves {st part : Stmt} (h : Nested host names st s part t) (stable : Stable I)
    (holds : I s) : I t := by
  cases h with
  | body condition earlier =>
    exact earlier.preserves stable (condition.preserves stable holds)
  | orelse condition positive earlier =>
    have tested := condition.preserves stable holds
    exact earlier.preserves stable (positive.preserves stable tested)
  | loop header earlier =>
    exact earlier.preserves stable (stable.frames (header.preserves stable holds))

theorem Enters.preserves {task part : Task} (h : Enters host names task s part t)
    (stable : Stable I) (ready : task.Ready s) (holds : I s) : I t := by
  cases h with
  | operand operand => exact operand.preserves stable holds
  | nested nested => exact nested.preserves stable holds
  | value => exact holds
  | function _ _ _ _ earlier | display _ _ earlier | body earlier =>
    exact earlier.preserves stable holds
  | lambda => exact stable.frames (stable.lambda holds)
  | closure _ _ outer =>
    have called := outer.preserves stable holds
    exact stable.frames (stable.closure (stable.frames called))
  | begun _ _ _ earlier =>
    exact earlier.preserves stable (stable.frames (stable.event (stable.function ready holds)))

theorem Reaches.ready {task : Task} (h : Reaches host e active names task s) : task.Ready s := by
  cases h with
  | entry => rfl
  | within _ entered => exact entered.ready
  | lambda | closure | function => trivial

/-- What no rule breaks holds wherever a run comes to, also if the run fails in the end. -/
theorem Reaches.preserves {task : Task} (h : Reaches host e active names task s)
    (stable : Stable I) (holds : I (.start [])) : I s := by
  induction h with
  | entry => exact holds
  | within before entered _ _ ih => exact entered.preserves stable before.ready ih
  | lambda before plain accepted ih =>
    have entered : Enters host [] _ _ _ _ := .lambda plain accepted
    exact entered.preserves stable before.ready ih
  | closure before plain owned outer pending undecorated accepted ih =>
    exact (Enters.closure plain owned outer pending undecorated accepted).preserves stable
      before.ready ih
  | function called found accepted split earlier ih =>
    have entered : Enters host [] _ _ _ _ := .begun found accepted split earlier
    exact entered.preserves stable called.ready ih

end Preserves

/-- The callee stands for a function of user code: it names no operator and no closure. -/
structure Calls (host : Host) (names : Namespace) (s : State) (callee : Expr) (id : FunctionId) :
    Prop where
  unnamed : (calleeToken? s.frames names callee).filter Operator.isKnown = none
  unowned : ∀ word use, callee = .name word use → s.frames.owner? word = none
  called : ∃ requested, calledBy? host s.frames names callee = some (id, requested)

def CarriesAlias (id : FunctionId) (ns : List Node) (aliases : Aliases) : Prop :=
  ∃ name operands definition, ns = [.call name operands definition] ∧ aliases.Owns id name ∧
    ∀ d ∈ definition, ∃ formals body, d = .function name formals body

section Calls

variable {host : Host} {e : EntryPoint} {active : List Activation} {names : Namespace}
  {callee : Expr} {args : List Expr} {id : FunctionId} {s s' t : State} {ns : List Node}

theorem Calls.of_silent (h : Calls host names s callee id) (same : s'.silent = s.silent) :
    Calls host names s' callee id := by
  obtain ⟨unnamed, unowned, called⟩ := h
  rw [← frames_of_silent same] at unnamed unowned called
  exact ⟨unnamed, unowned, called⟩

theorem Lowered.get?_function {requested name : String} {formals : Formals} {body : List Node}
    (h : Lowered host names (.function id requested) s [.function name formals body] t) :
    t.aliases.get? id = some name := by
  cases h with
  | function _ _ _ inner =>
    refine inner.precedes.get?_eq ?_
    change (s.aliases.mark id requested).2.get? id = _
    rw [Aliases.get?_mark, if_pos rfl]
    rfl

theorem Lowered.carriesAlias (h : Lowered host names (.expr (.call callee args [])) s ns t)
    (calls : Calls host names s callee id) {final : State} (rest : Precedes t final)
    (distinct : final.aliases.Distinct) : CarriesAlias id ns final.aliases := by
  obtain ⟨requested, called⟩ := calls.called
  obtain ⟨operands, u, _, ending⟩ := h.function_call_inv calls.unnamed calls.unowned called
  -- The look-up is made after the operands, which may have recorded the function.
  rcases ending with ⟨name, recorded, rfl, rfl⟩ | ⟨name, formals, body, _, definition, rfl⟩
  · exact ⟨name, operands, none, rfl, distinct.owns (rest.get?_eq recorded), nofun⟩
  · refine ⟨name, operands, _, rfl, distinct.owns (rest.get?_eq definition.get?_function), ?_⟩
    rintro _ ⟨⟩
    exact ⟨formals, body, rfl⟩

theorem Reaches.carriesAlias
    (reached : Reaches host e active names (.expr (.call callee args [])) s)
    (calls : Calls host names s callee id)
    (h : Lowered host names (.expr (.call callee args [])) s ns t) :
    CarriesAlias id ns t.aliases := by
  have before : Consistent s := reached.preserves stable_consistent consistent_start
  exact h.carriesAlias calls (.refl t) (h.preserves stable_consistent before).distinct

theorem Reaches.completes_call {d : Definition} {final : State}
    (reached : Reaches host e active names (.expr (.call callee args [])) s)
    (calls : Calls host names s callee id) (run : host.run e = .ok d final) :
    ∃ s' ns t, s'.silent = s.silent ∧
      Lowered host names (.expr (.call callee args [])) s' ns t ∧
      CarriesAlias id ns final.aliases := by
  obtain ⟨s', ns, t, same, lowered, rest⟩ := reached.completes run
  exact ⟨s', ns, t, same, lowered, Lowered.carriesAlias lowered (calls.of_silent same) rest
    (Host.run_consistent run).distinct⟩

end Calls

/-- However a run ends, its aliases are allotted to distinct functions, are distinct and stay, and a
call of a function of user code carries the one that only this function has. -/
theorem aliases_injective_stable (host : Host) (e : EntryPoint) :
    (∃ requests, Allocated host e requests (Ending.state (host.run e))) ∧
      (∀ levels, Steady host (descent host e.limit levels)) ∧
      ∀ {active names callee args id s},
        Reaches host e active names (.expr (.call callee args [])) s →
        Calls host names s callee id →
        (∀ {ns t}, Lowered host names (.expr (.call callee args [])) s ns t →
          CarriesAlias id ns t.aliases) ∧
        ∀ {d final}, host.run e = .ok d final →
          ∃ s' ns t, s'.silent = s.silent ∧
            Lowered host names (.expr (.call callee args [])) s' ns t ∧
            CarriesAlias id ns final.aliases := by
  refine ⟨exists_allocated host e, steady_descent host e.limit, fun reached calls => ⟨?_, ?_⟩⟩
  · exact reached.carriesAlias calls
  · exact reached.completes_call calls

/-- The function `def f(x): return third(first(x), second(x))`, where `first` is a function with the
name `scale_2` and both `second` and `third` have the name `scale`. -/
def scaled : Host where
  world :=
    { modules := [("m", ⟨.user, [("f", .function "f"), ("first", .function "first"),
        ("second", .function "second"), ("third", .function "third")]⟩)]
      functions := [
        ("f", written "f" ["x"] (.call (.name "third" .load)
          [.call (.name "first" .load) [.name "x" .load] [],
            .call (.name "second" .load) [.name "x" .load] []] [])),
        ("first", written "scale_2" ["x"] (.name "x" .load)),
        ("second", written "scale" ["x"] (.name "x" .load)),
        ("third", written "scale" ["x", "y"] (.name "y" .load))] }
  settings := ⟨[]⟩
where
  written (name : String) (formals : List String) (result : Expr) : Function :=
    ⟨"m", some "m", name, name, [], [], .body [.function name
      (formals.map fun formal => ⟨.positional, formal, none, none⟩) [.ret (some result)] [] none]⟩

/-- The name that `first` has is not given to `third`, which is called with the next one. -/
theorem scaled_allocated :
    ∃ d final requests, scaled.run ⟨"f", "f", 100⟩ = .ok d final ∧
      Allocated scaled ⟨"f", "f", 100⟩ requests final ∧
      final.aliases =
        [("f", "f"), ("first", "scale_2"), ("second", "scale"), ("third", "scale_3")] ∧
      ∃ names args s operands definition t,
        Lowered scaled names (.expr (.call (.name "third" .load) args [])) s
          [.call "scale_3" operands definition] t := by
  obtain ⟨d, lowered, _⟩ := Host.exists_of_toOption
    (show (scaled.lower (.function "f") none (some 100)).toOption.map (fun d => d.name) =
      some "f" by decide +kernel)
  obtain ⟨e, final, entry, run⟩ := Host.lower_eq_ok.1 lowered
  have start : scaled.entry? (.function "f") none (some 100) = .ok ⟨"f", "f", 100⟩ := by
    decide +kernel
  cases start.symm.trans entry
  obtain ⟨⟨requests, allocated⟩, _, calls⟩ := aliases_injective_stable scaled ⟨"f", "f", 100⟩
  have aliases : (Ending.state (scaled.run ⟨"f", "f", 100⟩)).aliases =
      [("f", "f"), ("first", "scale_2"), ("second", "scale"), ("third", "scale_3")] := by
    decide +kernel
  rw [run] at allocated aliases
  have body := @Reaches.function scaled ⟨"f", "f", 100⟩ _ _ _ _ _ _ [] _ [] _ _ _ .entry rfl rfl
    rfl .blockNil
  have reached := body.within (.value .ret) rfl nofun
  have third := @calls _ _ _ _ "third" _ reached
    ⟨by decide +kernel, fun word use same => by cases same; decide +kernel, "scale",
      by decide +kernel⟩
  obtain ⟨s, ns, t, _, call, name, operands, definition, rfl, owns, _⟩ := third.2 run
  have recorded := owns.recorded
  rw [show final.aliases = _ from aliases] at recorded
  cases Option.some.inj recorded
  exact ⟨d, final, requests, run, allocated, aliases, _, _, s, operands, definition, t, call⟩

end Cascade.Lowering
