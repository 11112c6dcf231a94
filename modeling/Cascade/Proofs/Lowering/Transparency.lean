import Cascade.Proofs.Lowering.Coupling.Framed
import Cascade.Proofs.Lowering.Entries
import Cascade.Proofs.World.Marking

set_option autoImplicit false

namespace Cascade

namespace Lowering

open Source

variable {host host' : Host} {names names' : Namespace}

section Lookup

variable {w : World} (seen : Table.Related (Value.Marks w) names names')
include seen

theorem nameNode?_marks (fs : Frames) (id : String) :
    nameNode? fs names' id = nameNode? fs names id := by
  unfold nameNode?
  rw [seen.bind_get? fun _ _ marks => marks.primitive?]

theorem moduleOf?_marks (id : String) : moduleOf? names' id = moduleOf? names id := by
  unfold moduleOf?
  rcases seen.get? id with ⟨before, after⟩ | ⟨v, v', before, after, marks⟩
  · rw [before, after]
  · rw [before, after]
    cases marks <;> rfl

theorem calleeToken?_marks (fs : Frames) (callee : Expr) :
    calleeToken? fs names' callee = calleeToken? fs names callee := by
  unfold calleeToken?
  simp only [moduleOf?_marks seen]

theorem staticInt?_marks (fs : Frames) : staticInt? fs names' = staticInt? fs names := by
  funext e
  unfold staticInt?
  simp only [seen.bind_get? fun _ _ marks => marks.int?]

theorem isRange_marks (id : String) : isRange names' id = isRange names id := by
  unfold isRange
  rcases seen.get? id with ⟨before, after⟩ | ⟨v, v', before, after, marks⟩
  · rw [before, after]
  · rw [before, after]
    cases marks <;> rfl

theorem staticRange?_marks (fs : Frames) (e : Expr) :
    staticRange? fs names' e = staticRange? fs names e := by
  unfold staticRange?
  simp only [isRange_marks seen, staticInt?_marks seen]

theorem staticValues?_marks (fs : Frames) (id : String) :
    staticValues? fs names' id = staticValues? fs names id := by
  unfold staticValues?
  rw [seen.bind_get? fun _ _ marks => marks.primitives?]

end Lookup

/-- A function marked without a name asks for the alias that it asks for unmarked. -/
theorem calledFunction?_marks (marks : host.Marks host') {v v' : Value}
    (same : v.Marks host.world v') (callName : String) :
    calledFunction? host'.world callName v' = calledFunction? host.world callName v := by
  cases same with
  | same =>
    cases v with
    | function id => simp only [calledFunction?, marks.name]
    | marked id given => simp only [calledFunction?, World.markedName, marks.name]
    | _ => rfl
  | function id named => simp [calledFunction?, World.markedName, nonEmptyOr, marks.name, named]
  | list => rfl
  | tuple => rfl

theorem calleeValue?_marks (marks : host.Marks host')
    (seen : Table.Related (Value.Marks host.world) names names') (fs : Frames) (callee : Expr) :
    (calleeValue? host.world fs names callee = none ∧
      calleeValue? host'.world fs names' callee = none) ∨
    ∃ v v' callName, calleeValue? host.world fs names callee = some (v, callName) ∧
      calleeValue? host'.world fs names' callee = some (v', callName) ∧
      v.Marks host.world v' := by
  unfold calleeValue?
  split
  · split
    · exact .inl ⟨rfl, rfl⟩
    · rcases seen.get? _ with ⟨before, after⟩ | ⟨v, v', before, after, same⟩
      · rw [before, after]
        exact .inl ⟨rfl, rfl⟩
      · rw [before, after]
        exact .inr ⟨v, v', _, rfl, rfl, same⟩
  next base _ attr =>
    split
    · exact .inl ⟨rfl, rfl⟩
    · rw [moduleOf?_marks seen]
      cases moduleOf? names base with
      | none => exact .inl ⟨rfl, rfl⟩
      | some owner =>
        simp only [Option.bind_some]
        rcases marks.member? owner attr with ⟨before, after⟩ | ⟨v, v', before, after, same⟩
        · rw [before, after]
          exact .inl ⟨rfl, rfl⟩
        · rw [before, after]
          exact .inr ⟨v, v', attr, rfl, rfl, same⟩
  · exact .inl ⟨rfl, rfl⟩

theorem calledBy?_marks (marks : host.Marks host')
    (seen : Table.Related (Value.Marks host.world) names names') (fs : Frames) (callee : Expr) :
    calledBy? host' fs names' callee = calledBy? host fs names callee := by
  unfold calledBy?
  rcases calleeValue?_marks marks seen fs callee with
    ⟨before, after⟩ | ⟨v, v', callName, before, after, same⟩
  · rw [before, after]
    rfl
  · rw [before, after]
    simp only [Option.bind_some, marks.isUserDefined same, calledFunction?_marks marks same]

theorem sameLookups_marks (marks : host.Marks host')
    (seen : Table.Related (Value.Marks host.world) names names') (fs : Frames) (task : Task) :
    task.SameLookups host host' names names' fs := by
  unfold Task.SameLookups
  split
  · exact nameNode?_marks seen fs _
  · exact ⟨calleeToken?_marks seen fs _, fun _ => calledBy?_marks marks seen fs _⟩
  · exact ⟨staticRange?_marks seen fs _, fun _ _ _ => staticValues?_marks seen fs _⟩
  · exact ⟨marks.locate? _, marks.qualname _⟩
  · trivial

@[reducible]
def equal : StateCoupling where
  Alike _ := True
  Ends r r' := r' = r
  pure := rfl
  fault _ := rfl
  bind := by
    intro α β x y f g s s' first next
    cases ran : x s with
    | ok a t =>
      rw [bind_of_ok ran, bind_of_ok (first.trans ran)]
      exact next ran
    | error cause t => rw [bind_of_error ran, bind_of_error (first.trans ran)]
  reframe leave abort same := congrArg (Ending.reframe leave abort) same

theorem descent_marks (marks : host.Marks host') (limit : Int) (levels : Nat)
    (seen : Table.Related (Value.Marks host.world) names names') (task : Task) (s : State) :
    task.Couples equal.coupling (descent host limit levels) (descent host' limit levels) names
      names' () s s := by
  induction levels generalizing names names' task s with
  | zero => cases task <;> rfl
  | succ levels ih =>
    -- A function brings the names of its own module, in which values may be marked too.
    refine StateCoupling.couples (fun {part t} _ => ih ?_ part t) (fun _ => trivial)
      (sameLookups_marks marks seen s.frames task)
    cases task with
    | function id requested => exact marks.namespaceOf id
    | _ => exact seen

end Lowering

namespace Host

open Source

variable {h h' : Host}

theorem run_marks (marks : h.Marks h') (e : EntryPoint) : h'.run e = h.run e :=
  Lowering.descent_marks marks e.limit ((Depth.start e.limit).remaining + 1) .nil
    (.function e.id e.name) (.start [])

theorem entry?_marks (marks : h.Marks h') (value : Value) (name : Option String)
    (maxDepth : Option Int) : h'.entry? value name maxDepth = h.entry? value name maxDepth := by
  have behind : h'.function? value name = h.function? value name := by
    cases value with
    | marked id given => simp only [function?, World.markedName, marks.name]
    | _ => rfl
  unfold entry?
  simp only [behind, marks.isUserDefined (.same _), marks.name, marks.qualname, marks.settings]

/-- The name that a function marked without one brings along is the one it has anyway. -/
theorem entry?_marked (h : Host) (id : FunctionId) (name : Option String) (maxDepth : Option Int) :
    h.entry? (.marked id none) name maxDepth = h.entry? (.function id) name maxDepth := by
  have chosen (own : String) : nonEmptyOr (some (nonEmptyOr name own)) own = nonEmptyOr name own := by
    unfold nonEmptyOr
    grind
  have own : h.world.markedName id none = (h.world.function id).name := rfl
  unfold entry? function?
  simp only [own, chosen]

/-- Marking functions without a name, wherever the program has their values, changes no outcome and
no event on the way, and neither does marking the function to be lowered. -/
theorem lowerTraced_eq_of_marks (marks : h.Marks h') (name : Option String)
    (maxDepth : Option Int) :
    (∀ value, h'.lowerTraced value name maxDepth = h.lowerTraced value name maxDepth ∧
      h'.lower value name maxDepth = h.lower value name maxDepth) ∧
    ∀ id, h'.lowerTraced (.marked id none) name maxDepth =
        h.lowerTraced (.function id) name maxDepth ∧
      h'.lower (.marked id none) name maxDepth = h.lower (.function id) name maxDepth := by
  have traced {value value' : Value}
      (entry : h'.entry? value' name maxDepth = h.entry? value name maxDepth) :
      h'.lowerTraced value' name maxDepth = h.lowerTraced value name maxDepth ∧
        h'.lower value' name maxDepth = h.lower value name maxDepth := by
    simp only [lower, lowerTraced, entry, run_marks marks, and_self]
  refine ⟨fun value => traced (entry?_marks marks value name maxDepth), fun id => traced ?_⟩
  rw [entry?_marked]
  exact entry?_marks marks (.function id) name maxDepth

/-- A function that calls two others: one under two names of its module, the other as a member of a
module and as a variable of an enclosing function.  Each place has a value of its own. -/
def fourCalls (first second member cell item : Value) : Host :=
  let call (callee : Expr) : Expr := .call callee [.name "x" .load] []
  let sum (left right : Expr) : Expr := .binary .add left right
  let record (home name : String) (cells : Table (Option Value)) (value : Expr) : Function :=
    ⟨home, some home, name, name, [], cells, .body
      [.function name [⟨.positional, "x", none, none⟩] [.ret (some value)] [] none]⟩
  { world :=
      { modules := [("m", ⟨.user, [("f", .function "f"), ("g", first), ("again", second),
            ("tools", .moduleRef "n"), ("table", .list [item])]⟩),
          ("n", ⟨.user, [("k", member)]⟩)]
        functions :=
          [("f", record "m" "f" [("c", some cell), ("d", none)]
            (sum (sum (call (.name "g" .load)) (call (.name "again" .load)))
              (sum (call (.member (.name "tools" .load) "k")) (call (.name "c" .load))))),
          ("g", record "m" "g" [] (.name "x" .load)), ("k", record "n" "k" [] (.name "x" .load))] }
    settings := ⟨[]⟩ }

/-- The program without a marked function. -/
def unmarkedCalls : Host :=
  fourCalls (.function "g") (.function "g") (.function "k") (.function "k") (.function "g")

/-- The program with all of them marked but one. -/
def markedCalls : Host :=
  fourCalls (.marked "g" none) (.function "g") (.marked "k" none) (.marked "k" none)
    (.marked "g" none)

theorem unmarkedCalls_marks : unmarkedCalls.Marks markedCalls := by
  have g : (Value.function "g").Marks unmarkedCalls.world (.marked "g" none) :=
    .function "g" (by decide +kernel)
  have k : (Value.function "k").Marks unmarkedCalls.world (.marked "k" none) :=
    .function "k" (by decide +kernel)
  have same (v : Value) : v.Marks unmarkedCalls.world v := .same v
  have plain (f : Function) : f.Marks unmarkedCalls.world f :=
    ⟨rfl, .refl (fun value => by cases value <;> constructor; exact same _) _⟩
  refine ⟨rfl, .cons ⟨rfl, rfl, ?_⟩ (.cons ⟨rfl, rfl, ?_⟩ .nil),
    .cons ⟨rfl, rfl, ?_⟩ (.cons ⟨rfl, plain _⟩ (.cons ⟨rfl, plain _⟩ .nil))⟩
  · exact .cons ⟨rfl, same _⟩ (.cons ⟨rfl, g⟩ (.cons ⟨rfl, same _⟩ (.cons ⟨rfl, same _⟩
      (.cons ⟨rfl, .list (.cons g .nil)⟩ .nil))))
  · exact .cons ⟨rfl, k⟩ .nil
  · exact .cons ⟨rfl, .some k⟩ (.cons ⟨rfl, .none⟩ .nil)

theorem markedCalls_lower :
    unmarkedCalls.Marks markedCalls ∧
    markedCalls.lower (.marked "f" none) none (some 100) =
      unmarkedCalls.lower (.function "f") none (some 100) ∧
    ∃ d, unmarkedCalls.lower (.function "f") none (some 100) = .ok d ∧
      d.node.definitions = ["f", "g", "k"] :=
  ⟨unmarkedCalls_marks, ((lowerTraced_eq_of_marks unmarkedCalls_marks none (some 100)).2 "f").2,
    exists_of_toOption (by decide +kernel)⟩

end Host

end Cascade
