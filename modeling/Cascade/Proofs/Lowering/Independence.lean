import Cascade.Proofs.Lowering.Agreement
import Cascade.Proofs.Lowering.Depth

set_option autoImplicit false

namespace Cascade.Host

open Lowering Source

variable {h : Host} {e : EntryPoint} {d : Definition} {s : State}

theorem run_recorded (p : Plan) (id : FunctionId) (name : String) {limit : Int}
    (within : limit.toNat ≤ p.levels) :
    p.Recorded id (.start []) (p.host.run ⟨id, name, limit⟩) := by
  unfold run fromLimit
  rw [remaining_start]
  exact Plan.function_recorded (Plan.kindred_descent p limit within within) id name rfl

theorem run_name (run : h.run e = .ok d s) : d.name = e.name := by
  obtain ⟨_, _, _, _, same, _⟩ := (run_sound run).function_inv
  simp only [Definition.node, List.cons.injEq, Node.function.injEq] at same
  exact same.1.1

theorem run_of_limit_le {id : FunctionId} {name : String} {limit limit' : Int}
    (le : limit ≤ limit') (run : h.run ⟨id, name, limit⟩ = .ok d s) :
    h.run ⟨id, name, limit'⟩ = .ok d s := by
  have levels : (Depth.start limit').remaining = (Depth.start limit).remaining +
      ((Depth.start limit').remaining - (Depth.start limit).remaining) := by
    rw [remaining_start, remaining_start]
    omega
  have follows := run_follows (e := ⟨id, name, limit⟩) (lockstep_guarded h limit limit' _) levels
    rfl
  rcases follows with ⟨_, _, cut, _⟩ | ⟨same, _⟩
  · rw [run] at cut
    cases cut
  · exact same.trans run

theorem run_ne_depthExceeded (h : Host) (id : FunctionId) (name : String) (reported : Int)
    (s : State) : h.run ⟨id, name, h.world.load []⟩ ≠ .error (.depthExceeded reported) s := by
  intro cut
  have need : 1 + (h.world.load [] + 0) ≤ (Depth.start (h.world.load [])).remaining + 1 := by
    rw [remaining_start]
    omega
  have follows := run_follows (e := ⟨id, name, h.world.load []⟩) (lockstep_total h _) rfl
    ⟨rfl, rfl, need⟩
  rcases follows with ⟨_, _, _, ⟨⟩⟩ | ⟨_, good⟩
  exact good _ s cut reported rfl

/-- What a run records is written in its program, if only known functions are recorded. -/
theorem run_renders {p : Plan} (run : p.host.run e = .ok d s) (enough : e.limit.toNat ≤ p.levels)
    (within : p.Within s.aliases) {id : FunctionId} {name : String}
    (found : s.aliases.get? id = some name) :
    ∃ n ∈ d.node.functions, p.Renders s.aliases id n := by
  have recorded : p.Recorded e.id (.start []) (p.host.run e) := run_recorded p e.id e.name enough
  rw [run] at recorded
  cases recorded with
  | ok _ _ _ _ accounts =>
    rcases accounts within id name found with ⟨⟨⟩⟩ | written
    exact written

/-- A function with an outline can be lowered afresh, if all known functions have outlines. -/
theorem run_of_outline {p : Plan} (closed : p.Closed) (enough : p.host.world.load [] ≤ p.levels)
    {id : FunctionId} (known : id ∈ p.known) {o : Definition} (made : p.outline? id = some o)
    (name : String) {limit : Int} (le : p.host.world.load [] ≤ limit) :
    ∃ d s, p.host.run ⟨id, name, limit⟩ = .ok d s ∧ d.name = name ∧ Outlines s.aliases o d := by
  have recorded : p.Recorded id (.start []) (p.host.run ⟨id, name, p.host.world.load []⟩) :=
    run_recorded p id name enough
  generalize ran : p.host.run ⟨id, name, p.host.world.load []⟩ = r at recorded
  cases recorded with
  | ok _ _ _ outlined _ => exact ⟨_, _, run_of_limit_le le ran, run_name ran, outlined made⟩
  | error cause =>
    rcases cause known with ⟨reported, rfl⟩ | unclosed
    · exact absurd ran (run_ne_depthExceeded p.host id name reported _)
    · exact absurd closed unclosed

/-- A function's alias is the name of one definition only, unless a closure or a lambda expression
has it too. -/
theorem functions_unique (run : h.run e = .ok d s) {name : String}
    (closures : name ∉ s.closureNames) (lambdas : name ∉ s.lambdaNames) {n m : Definition}
    (first : n ∈ d.node.functions) (second : m ∈ d.node.functions) (named : n.name = name)
    (named' : m.name = name) : m = n := by
  have count : d.node.definitions.count name ≤ 1 := by
    have functions := List.nodup_iff_count_le_one.1 (functionNames_nodup run) name
    rw [((definitions_perm run).trans s.entryNames_perm).count_eq, List.count_append,
      List.count_append, List.count_eq_zero_of_not_mem closures,
      List.count_eq_zero_of_not_mem lambdas]
    exact functions
  rw [← Node.functions_name, List.count, List.countP_map, List.countP_eq_length_filter] at count
  have member {k : Definition} (inside : k ∈ d.node.functions) (named : k.name = name) :
      k ∈ d.node.functions.filter ((· == name) ∘ (·.name)) :=
    List.mem_filter.2 ⟨inside, by simp [named]⟩
  have first := member first named
  have second := member second named'
  generalize d.node.functions.filter _ = ks at count first second
  rcases ks with _ | ⟨k, _ | ⟨k', rest⟩⟩
  · cases first
  · exact (List.mem_singleton.1 second).trans (List.mem_singleton.1 first).symm
  · simp at count

/-- Each function is lowered the same wherever it is reached.  Whatever a program records has an
outline.  Its definition in the program, the only one of that name unless a closure or a lambda
expression has the name too, is spelled by the outline; and under every limit that is large enough a
fresh lowering under the same alias succeeds, with a definition that is spelled by it too. -/
theorem lowered_alike_everywhere {value : Value} {name : Option String} {maxDepth : Option Int}
    (lowered : h.lower value name maxDepth = .ok d) :
    ∃ e s, h.entry? value name maxDepth = .ok e ∧ h.run e = .ok d s ∧
      ∃ levels, ∃ bound : Int, ∀ id name, s.aliases.get? id = some name →
        ∃ o, outline? h s.aliases.keys levels id = some o ∧
          (∃ n ∈ d.node.functions, n.name = name ∧ Outlines s.aliases o n ∧
            (name ∉ s.closureNames → name ∉ s.lambdaNames →
              ∀ m ∈ d.node.functions, m.name = name → m = n)) ∧
          ∀ limit, bound ≤ limit → ∃ d' s', h.run ⟨id, name, limit⟩ = .ok d' s' ∧
            d'.name = name ∧ Outlines s'.aliases o d' := by
  obtain ⟨e, s, entry, run⟩ := lower_eq_ok.1 lowered
  let p : Plan := ⟨h, s.aliases.keys, max e.limit.toNat (h.world.load [])⟩
  have within : p.Within s.aliases := by
    intro id name found
    by_contra missing
    rw [Table.get?_eq_none_iff.2 missing] at found
    cases found
  have written {id : FunctionId} {name : String} (found : s.aliases.get? id = some name) :
      ∃ n ∈ d.node.functions, p.Renders s.aliases id n :=
    run_renders run (Nat.le_max_left _ _) within found
  -- The known functions are those recorded, and each of them is written in the program.
  have closed : p.Closed := by
    intro id member
    cases found : s.aliases.get? id with
    | none => exact absurd member (Table.get?_eq_none_iff.1 found)
    | some name =>
      obtain ⟨_, _, _, o, made, _⟩ := written found
      exact ⟨o, made⟩
  refine ⟨e, s, entry, run, p.levels, h.world.load [], fun id name found => ?_⟩
  obtain ⟨n, member, named, o, made, spelled⟩ := written found
  rw [found] at named
  have named := (Option.some.inj named).symm
  refine ⟨o, made, ⟨n, member, named, spelled, fun closures lambdas m other named' => ?_⟩,
    fun limit le => ?_⟩
  · exact functions_unique run closures lambdas member other named named'
  · exact run_of_outline closed (Nat.le_max_right _ _) (within id name found) made name le

/-- A function `g` with a closure that has the name of another function, and a lambda expression
that is not the first of the program. -/
def detached : Host :=
  let call (callee arg : Expr) : Expr := .call callee [arg] []
  let helper : Expr := .name "helper" .load
  let x : Expr := .name "x" .load
  let same : Expr := .lambda [⟨.positional, "x", none, none⟩] x
  ofFunctions []
    [("helper", ["x"], [.ret (some x)]),
    ("g", ["x"],
      [.function "helper" [⟨.positional, "x", none, none⟩] [.ret (some (call same x))] [] none,
      .ret (some (.binary .add (call helper x) (call (.name "f" .load) x)))]),
    ("f", ["x"],
      [.ret (some (.binary .add (call same (call helper x)) (call (.name "g" .load) x)))])]

theorem detached_alike_everywhere :
    ∃ d s, detached.lower (.function "f") none (some 40) = .ok d ∧
      detached.run ⟨"f", "f", 40⟩ = .ok d s ∧
      d.node.definitions = ["f", "helper", "lambda_1", "g", "helper", "lambda_2"] ∧
      s.aliases = [("f", "f"), ("helper", "helper"), ("g", "g")] ∧
      ∃ levels, ∃ bound : Int, ∃ o, outline? detached s.aliases.keys levels "g" = some o ∧
        (∃ n ∈ d.node.functions, n.name = "g" ∧ Outlines s.aliases o n ∧
          ∀ m ∈ d.node.functions, m.name = "g" → m = n) ∧
        ∀ limit, bound ≤ limit → ∃ d' s', detached.run ⟨"g", "g", limit⟩ = .ok d' s' ∧
          d'.name = "g" ∧ Outlines s'.aliases o d' := by
  obtain ⟨d, lowered, definitions⟩ := exists_of_toOption
    (show (detached.lower (.function "f") none (some 40)).toOption.map (·.node.definitions) =
      some ["f", "helper", "lambda_1", "g", "helper", "lambda_2"] by decide +kernel)
  obtain ⟨e, s, entry, run, levels, bound, alike⟩ := lowered_alike_everywhere lowered
  have start : detached.entry? (.function "f") none (some 40) = .ok ⟨"f", "f", 40⟩ := by
    decide +kernel
  rw [start] at entry
  cases entry
  have ended : (Ending.state (detached.run ⟨"f", "f", 40⟩)).aliases =
      [("f", "f"), ("helper", "helper"), ("g", "g")] ∧
        "g" ∉ (Ending.state (detached.run ⟨"f", "f", 40⟩)).closureNames ∧
        "g" ∉ (Ending.state (detached.run ⟨"f", "f", 40⟩)).lambdaNames := by
    decide +kernel
  rw [run] at ended
  obtain ⟨recorded, closures, lambdas⟩ := ended
  have found : s.aliases.get? "g" = some "g" := by
    rw [show s.aliases = _ from recorded]
    rfl
  obtain ⟨o, made, ⟨n, member, named, spelled, unique⟩, fresh⟩ := alike "g" "g" found
  exact ⟨d, s, lowered, run, definitions, recorded, levels, bound, o, made,
    ⟨n, member, named, spelled, unique closures lambdas⟩, fresh⟩

end Cascade.Host
