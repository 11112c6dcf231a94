import Cascade.Proofs.Lowering.Abreast
import Cascade.Proofs.Lowering.Depth
import Cascade.Proofs.World.Replacement

set_option autoImplicit false

namespace Cascade

open Source

namespace Lowering

open State

inductive SameEnding {α : Type} : Ending α → Ending α → Prop where
  | ok {a t t'} (silent : t'.silent = t.silent) : SameEnding (.ok a t) (.ok a t')
  | error {fault t t'} (silent : t'.silent = t.silent) :
      SameEnding (.error fault t) (.error fault t')

theorem Abreast.sameEnding {α : Type} {differs : FunctionId → Prop} {host : Host} {s : State}
    {r r' : Ending α} (h : Abreast differs host s r r') : SameEnding r r' := by
  cases h with
  | ok _ level => exact .ok level.silent
  | error _ silent => exact .error silent

theorem SameEnding.outcome_eq {r r' : Ending Definition} (h : SameEnding r r') :
    Host.outcome r' = Host.outcome r := by
  cases h <;> rfl

/-- A record for a function at the same place of the program, with the second routine in its source
where the function has the first one. -/
structure Rewritten (h : Host) (id : FunctionId) (f : Function) (r r' : Routine) : Prop where
  place : (h.world.function id).SamePlace f
  found : ∃ name, (h.world.function id).locate? = .ok ⟨name, r⟩
  found' : ∃ name, f.locate? = .ok ⟨name, r'⟩

/-- The second routine may take the place of the first one: as a closure or lambda expression in any
state, as a function of user code in any state, as an entry point under any alias, and in a
whole program if the function keeps its name. -/
structure LowersAlike (r r' : Routine) : Prop where
  closure : ∀ below names entry place s,
    closure below names entry r' place s = closure below names entry r place s
  function : ∀ {h id f}, Rewritten h id f r r' → ∀ limit levels requested s,
    SameEnding (function h (descent h limit levels) id requested s)
      (function (h.withFunction id f) (descent (h.withFunction id f) limit levels) id requested s)
  entry : ∀ {h id f}, Rewritten h id f r r' → h.isUserDefined (.function id) = true →
    ∀ name, name ≠ "" → ∀ maxDepth,
      (h.withFunction id f).lower (.function id) (some name) maxDepth =
        h.lower (.function id) (some name) maxDepth
  program : ∀ {h id f}, Rewritten h id f r r' → f.name = (h.world.function id).name →
    f.qualname = (h.world.function id).qualname → ∀ value name maxDepth,
      (h.withFunction id f).lower value name maxDepth = h.lower value name maxDepth

section Rewritten

variable {h : Host} {id : FunctionId} {f : Function} {r r' : Routine}

theorem Rewritten.resembles (rewritten : Rewritten h id f r r') (alike : r.Alike r') :
    Resembles h (h.withFunction id f) id := by
  obtain ⟨name, found⟩ := rewritten.found
  obtain ⟨name', found'⟩ := rewritten.found'
  constructor
  · rw [Host.function_withFunction_self]
    exact rewritten.place.namespaceOf h.world
  · rw [Host.function_withFunction_self, found, found']
    exact .found alike

theorem resembles_of_ne {other : FunctionId} (ne : other ≠ id) :
    Resembles h (h.withFunction id f) other := by
  constructor
  · rw [Host.function_withFunction_of_ne ne]
    rfl
  · rw [Host.function_withFunction_of_ne ne]
    exact .refl _

/-- The function itself may be known under another name. -/
theorem variant_withFunction (place : (h.world.function id).SamePlace f) :
    Variant (· = id) h (h.withFunction id f) where
  function other ne := resembles_of_ne ne
  calledBy? fs names callee := by
    rcases Host.calledBy?_withFunction place fs names callee with same | ⟨_, _, called, called'⟩
    · exact .inl same
    · exact .inr ⟨id, _, _, rfl, called, called'⟩

theorem Rewritten.variant (rewritten : Rewritten h id f r r') (alike : r.Alike r')
    (named : f.name = (h.world.function id).name) :
    Variant (fun _ => False) h (h.withFunction id f) where
  function other _ := by
    by_cases same : other = id
    · rw [same]
      exact rewritten.resembles alike
    · exact resembles_of_ne same
  calledBy? fs names callee := .inl (Host.calledBy?_of_name rewritten.place named fs names callee)

theorem Rewritten.sameEnding (rewritten : Rewritten h id f r r') (alike : r.Alike r') (limit : Int)
    (levels : Nat) (requested : String) (s : State) :
    SameEnding (function h (descent h limit levels) id requested s)
      (function (h.withFunction id f) (descent (h.withFunction id f) limit levels) id requested
        s) := by
  -- From the first step on the function is recorded, so nothing more is asked about it.
  have level : Level (· = id) (s.marked id requested) (s.marked id requested) := by
    refine ⟨rfl, ?_⟩
    rintro _ rfl
    exact ⟨_, (Aliases.get?_mark _).trans (if_pos rfl)⟩
  exact (function_abreast (tandem_descent (variant_withFunction rewritten.place) limit levels)
    (rewritten.resembles alike) level rfl).sameEnding

theorem Rewritten.lower_eq (rewritten : Rewritten h id f r r') (alike : r.Alike r')
    (named : f.name = (h.world.function id).name)
    (qualified : f.qualname = (h.world.function id).qualname) (value : Value)
    (name : Option String) (maxDepth : Option Int) :
    (h.withFunction id f).lower value name maxDepth = h.lower value name maxDepth := by
  have same := Host.entry?_of_name rewritten.place named qualified value name maxDepth
  cases entry : h.entry? value name maxDepth with
  | error cause =>
    unfold Host.lower Host.lowerTraced
    rw [same, entry]
  | ok e =>
    rw [Host.lower_of_entry entry, Host.lower_of_entry (same.trans entry)]
    have variant := rewritten.variant alike named
    have level : Level (fun _ => False) (.start []) (.start []) := ⟨rfl, fun _ none => none.elim⟩
    exact (shared_function_abreast variant (tandem_descent variant e.limit _) level
      rfl).sameEnding.outcome_eq

theorem Rewritten.lower_entry_eq (rewritten : Rewritten h id f r r') (alike : r.Alike r')
    (user : h.isUserDefined (.function id) = true) {name : String} (filled : name ≠ "")
    (maxDepth : Option Int) :
    (h.withFunction id f).lower (.function id) (some name) maxDepth =
      h.lower (.function id) (some name) maxDepth := by
  have same := Host.entry?_withFunction_self rewritten.place user filled maxDepth
  cases entry : h.entry? (.function id) (some name) maxDepth with
  | error cause =>
    unfold Host.lower Host.lowerTraced
    rw [same, entry]
  | ok e =>
    rw [Host.lower_of_entry entry, Host.lower_of_entry (same.trans entry)]
    obtain rfl := Host.id_of_entryPoint entry
    exact (rewritten.sameEnding alike e.limit _ e.name (.start [])).outcome_eq

theorem closure_eq_of_alike (alike : r.Alike r') (below : Descent) (names : Namespace)
    (entry : Entry) (place : Nat) (s : State) :
    closure below names entry r' place s = closure below names entry r place s := by
  unfold closure
  rw [alike.decorated, alike.formals?_eq, alike.statements]
  simp only [alike.localNames]

theorem LowersAlike.of_alike (alike : r.Alike r') : LowersAlike r r' where
  closure := closure_eq_of_alike alike
  function rewritten := rewritten.sameEnding alike
  entry rewritten user _ filled := rewritten.lower_entry_eq alike user filled
  program rewritten named qualified := rewritten.lower_eq alike named qualified

end Rewritten

/-- An expression that is no lambda expression may end a body in place of a `return`, behind any
statements and before any empty ones, unless it is a text and stands first.  As the value of a
lambda expression it stands for a body that returns it. -/
theorem results_lower_alike {value : Expr} (plain : value.isLambda = false) :
    (∀ params body decorators count, (body = [] → (Stmt.expr value).isDocstring = false) →
      LowersAlike (.ofFunction params (body ++ [.ret (some value)]) decorators)
        (.ofFunction params (body ++ .expr value :: List.replicate count .pass) decorators)) ∧
    ∀ params, LowersAlike (.ofFunction params [.ret (some value)] []) (.ofLambda params value) :=
  ⟨fun params body decorators count title =>
    .of_alike (Routine.alike_trailing params body decorators count plain title),
    fun params => .of_alike (Routine.alike_lambda params plain)⟩

def recurring (argument : String) : Expr :=
  .binary .add (.call (.name "f" .load) [.name argument .load] []) (.name argument .load)

/-- The statements of a function, behind a text and an assignment. -/
def countdownBody (result : List Stmt) : List Stmt :=
  .expr (.constant (.str "count")) ::
    .assign [.name "y" .store] (.binary .sub (.name "x" .load) (.constant (.int 1))) :: result

def countdown : Host :=
  .ofFunctions [] [("f", ["x"], countdownBody [.ret (some (recurring "y"))])]

def shortCountdown : Host :=
  .ofFunctions [] [("f", ["x"], [.ret (some (recurring "x"))])]

def recordOf (name : String) (source : Stmt) : Function :=
  ⟨"m", some "m", name, name, ["x"], [], .body [source]⟩

/-- The same function without a `return`. -/
def implicitRecord : Function :=
  recordOf "f" (.function "f" [⟨.positional, "x", none, none⟩]
    (countdownBody [.expr (recurring "y"), .pass, .pass]) [] none)

def lambdaRecord : Function :=
  recordOf lambdaName (.assign [.name "f" .store]
    (.lambda [⟨.positional, "x", none, none⟩] (recurring "x")))

theorem countdown_lowers_alike :
    (∃ d, countdown.lower (.function "f") none (some 100) = .ok d ∧
      d.node.definitions = ["f"]) ∧
    (countdown.withFunction "f" implicitRecord).lower (.function "f") none (some 100) =
      countdown.lower (.function "f") none (some 100) ∧
    (shortCountdown.withFunction "f" lambdaRecord).lower (.function "f") (some "f") (some 100) =
      shortCountdown.lower (.function "f") (some "f") (some 100) := by
  refine ⟨Host.exists_of_toOption (by decide +kernel), ?_, ?_⟩
  · have alike := (@results_lower_alike (recurring "y") rfl).1 [⟨.positional, "x", none, none⟩]
      (countdownBody []) [] 2 nofun
    have rewritten : Rewritten countdown "f" implicitRecord _ _ :=
      ⟨⟨rfl, rfl, rfl, rfl⟩, ⟨some "f", rfl⟩, ⟨some "f", rfl⟩⟩
    exact alike.program rewritten rfl rfl _ _ _
  · have alike := (@results_lower_alike (recurring "x") rfl).2 [⟨.positional, "x", none, none⟩]
    have rewritten : Rewritten shortCountdown "f" lambdaRecord _ _ :=
      ⟨⟨rfl, rfl, rfl, by decide +kernel⟩, ⟨some "f", rfl⟩, ⟨none, rfl⟩⟩
    exact alike.entry rewritten (by decide +kernel) "f" (by decide) _

section Lambda

variable {host : Host} {names : Namespace} {s t : State} {ns steps : List Node}
  {params : List (Parameter Expr)} {value : Expr}

theorem Lowered.not_lambda {body : Expr} :
    ¬ Lowered host names (.expr (.lambda params body)) s ns t := by
  intro h
  cases h

theorem Lowered.ret_inv (h : Lowered host names (.block [.ret (some value)]) s ns t) :
    ∃ n u, ns = [.ret (some n)] ∧ Lowered host names (.expr value) s [n] u := by
  cases h with
  | blockCons head tail =>
    cases head with
    | retValue value =>
      cases tail
      exact ⟨_, _, rfl, value⟩

theorem Lowered.dropped_inv {body : Expr}
    (h : Lowered host names (.block [.expr (.lambda params body)]) s ns t) : ns = [] := by
  cases h with
  | blockCons head tail =>
    cases tail
    cases head with
    | dropped => rfl
    | expression value => exact absurd value not_lambda

def KeepsResult (value : Expr) (steps : List Node) : Prop :=
  ((∃ n, steps = [.ret (some n)]) ↔ value.isLambda = false) ∧ (value.isLambda = true → steps = [])

theorem Lowered.keepsResult
    (h : Lowered host names (.block (Routine.ofLambda params value).statements) s steps t) :
    KeepsResult value steps := by
  cases isLambda : value.isLambda with
  | false =>
    rw [(Routine.alike_lambda params isLambda).statements] at h
    obtain ⟨n, _, rfl, _⟩ := h.ret_inv
    exact ⟨iff_of_true ⟨n, rfl⟩ isLambda, fun same => absurd (isLambda.symm.trans same) nofun⟩
  | true =>
    cases value with
    | lambda inner body =>
      obtain rfl := h.dropped_inv
      exact ⟨iff_of_false (fun ⟨n, same⟩ => List.cons_ne_nil _ _ same.symm) nofun, fun _ => rfl⟩
    | _ => cases isLambda

/-- What lowering a function of user code comes to. -/
theorem function_eq_ok {below : Descent} {id : FunctionId} {requested : String} {d : Definition}
    (h : function host below id requested s = .ok d t) :
    ∃ located u v, (host.world.function id).locate? = .ok located ∧
      block below (host.world.namespaceOf (host.world.function id)) located.routine.statements u =
        .ok d.body v := by
  simp only [function, bind_eq_ok, markFunction_eq_ok, register_eq_ok, record_eq_ok,
    ofExcept_eq_ok, inFreshFrame_eq_ok, pure_eq_ok] at h
  obtain ⟨_, _, ⟨rfl, rfl⟩, _, _, rfl, _, _, rfl, located, _, ⟨found, rfl⟩, formals, _,
    ⟨accepted, rfl⟩, body, _, ⟨u, inner, rfl⟩, rfl, rfl⟩ := h
  exact ⟨located, _, u, found, inner⟩

end Lambda

/-- A lambda expression that is lowered, called where it stands, bound to a name or as a function of
user code, becomes one `return` with a value exactly if its value is no lambda expression, and then
it is lowered and rejected like a `return` of the value.  Otherwise nothing is left of the value,
although a `return` of it is always rejected. -/
theorem lambda_returns_iff (params : List (Parameter Expr)) (value : Expr) :
    (∀ host limit levels names entry place s d t,
      closure (descent host limit levels) names entry (.ofLambda params value) place s = .ok d t →
        KeepsResult value d.body) ∧
    (∀ host limit levels id name requested s d t,
      (host.world.function id).locate? = .ok ⟨name, .ofLambda params value⟩ →
        function host (descent host limit levels) id requested s = .ok d t →
          KeepsResult value d.body) ∧
    (value.isLambda = false →
      LowersAlike (.ofFunction params [.ret (some value)] []) (.ofLambda params value)) ∧
    (value.isLambda = true →
      (∀ host limit levels names entry place s d t,
        closure (descent host limit levels) names entry (.ofFunction params [.ret (some value)] [])
          place s ≠ .ok d t) ∧
      ∀ host limit levels id name requested s d t,
        (host.world.function id).locate? =
            .ok ⟨name, .ofFunction params [.ret (some value)] []⟩ →
          function host (descent host limit levels) id requested s ≠ .ok d t) := by
  have loose {host names s ns t} (isLambda : value.isLambda = true) :
      ¬ Lowered host names (.block (Routine.ofFunction params [.ret (some value)] []).statements)
        s ns t := by
    intro lowered
    obtain ⟨_, _, _, lowered⟩ := Lowered.ret_inv lowered
    cases value with
    | lambda => exact Lowered.not_lambda lowered
    | _ => cases isLambda
  refine ⟨?_, ?_, fun plain => .of_alike (Routine.alike_lambda params plain), fun isLambda =>
    ⟨?_, ?_⟩⟩
  · intro host limit levels names entry place s d t lowered
    obtain ⟨_, _, _, _, _, inner, rfl, _⟩ := closure_eq_ok.1 lowered
    exact ((descent_sound host limit levels).body inner).keepsResult
  · intro host limit levels id name requested s d t found lowered
    obtain ⟨_, _, _, found', inner⟩ := function_eq_ok lowered
    cases found.symm.trans found'
    exact (block_sound (descent_sound host limit levels) inner).keepsResult
  · intro host limit levels names entry place s d t lowered
    obtain ⟨_, _, _, _, _, inner, _⟩ := closure_eq_ok.1 lowered
    exact loose isLambda ((descent_sound host limit levels).body inner)
  · intro host limit levels id name requested s d t found lowered
    obtain ⟨_, _, _, found', inner⟩ := function_eq_ok lowered
    cases found.symm.trans found'
    exact loose isLambda (block_sound (descent_sound host limit levels) inner)

theorem countdown_returns :
    ∃ d s, (shortCountdown.withFunction "f" lambdaRecord).run ⟨"f", "f", 100⟩ = .ok d s ∧
      ∃ n, d.body = [.ret (some n)] := by
  obtain ⟨d, lowered, _⟩ := Host.exists_of_toOption
    (show ((shortCountdown.withFunction "f" lambdaRecord).lower (.function "f") (some "f")
      (some 100)).toOption.map (·.node.definitions) = some ["f"] by decide +kernel)
  obtain ⟨e, s, entry, run⟩ := Host.lower_eq_ok.1 lowered
  have start : Host.entry? (shortCountdown.withFunction "f" lambdaRecord) (.function "f")
      (some "f") (some 100) = .ok ⟨"f", "f", 100⟩ := by
    decide +kernel
  cases start.symm.trans entry
  have kept := (lambda_returns_iff [⟨.positional, "x", none, none⟩] (recurring "x")).2.1
    _ _ _ _ _ _ _ _ _ rfl run
  exact ⟨d, s, run, kept.1.2 rfl⟩

/-- The expression `lambda x: lambda y: y` with other names. -/
def twice (outer inner : String) : Expr :=
  .lambda [⟨.positional, outer, none, none⟩]
    (.lambda [⟨.positional, inner, none, none⟩] (.name inner .load))

/-- A function that is a lambda expression, and one that calls it, binds a lambda expression to a
name and calls one where it stands.  The value of each is a lambda expression. -/
def lostResults : Host :=
  let call (callee : Expr) : Expr := .call callee [.name "x" .load] []
  { world :=
      { modules := [("m", ⟨.user, [("f", .function "f"), ("g", .function "g")]⟩)]
        functions :=
          [("f", recordOf "f" (.function "f" [⟨.positional, "x", none, none⟩]
            [.assign [.name "k" .store] (twice "a" "b"),
              .ret (some (.binary .add (call (.name "g" .load)) (.binary .add
                (call (.name "k" .load)) (call (twice "c" "d")))))] [] none)),
          ("g", ⟨"m", some "m", lambdaName, lambdaName, ["p"], [], .body
            [.assign [.name "g" .store] (twice "p" "q")]⟩)] }
    settings := ⟨[]⟩ }

/-- The function `def g(p): return lambda q: q`. -/
def rejectedRecord : Function :=
  recordOf "g" (.function "g" [⟨.positional, "p", none, none⟩]
    [.ret (some (.lambda [⟨.positional, "q", none, none⟩] (.name "q" .load)))] [] none)

/-- In each of the four places the value is lost and the body is empty, while the same expression is
rejected behind a `return`. -/
theorem lostResults_lower :
    lostResults.lower (.function "g") (some "g") (some 100) = .ok ⟨"g", .names ["p"], []⟩ ∧
    (∃ d, lostResults.lower (.function "f") none (some 100) = .ok d ∧
      d.node.functions.map (fun g => (g.name, g.body.length)) =
        [("f", 1), ("g", 0), ("k", 0), ("lambda_1", 0)]) ∧
    (lostResults.withFunction "g" rejectedRecord).lower (.function "g") (some "g") (some 100) =
      .error (.fault (.unsupported (.looseLambda "lambda q: q"))) := by
  exact ⟨by rfl, Host.exists_of_toOption (by decide +kernel), by rfl⟩

end Lowering

end Cascade
