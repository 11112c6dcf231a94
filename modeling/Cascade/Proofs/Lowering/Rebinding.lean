import Cascade.Proofs.Lowering.Entries
import Cascade.Proofs.Lowering.Frames
import Cascade.Proofs.Lowering.Steps
import Cascade.Proofs.Source.Paths

set_option autoImplicit false

/-!
# Which binding a closure call carries

Both branches of a condition and the body of a loop are lowered one after another in one frame.  A
closure call therefore carries the binding of its name that is the latest in the text, also where no
path through the function passes it.  It is the one that is called on every path exactly if no other
binding reaches the call.
-/
namespace Cascade.Lowering

open Source

inductive Met (host : Host) (names : Namespace) :
    List Stmt → State → Spot → Stmt → State → Prop where
  | first {st ss s} : Met host names (st :: ss) s .first st s
  | next {st ss s ns t rest part u} (earlier : Lowered host names (.statement st) s ns t)
      (met : Met host names ss t rest part u) : Met host names (st :: ss) s (.next rest) part u
  | yes {test body orelse ss s c t inner part u}
      (condition : Lowered host names (.expr test) s [c] t)
      (met : Met host names body t inner part u) :
      Met host names (.branch test body orelse :: ss) s (.yes inner) part u
  | no {test body orelse ss s c t ns u inner part v}
      (condition : Lowered host names (.expr test) s [c] t)
      (positive : Lowered host names (.block body) t ns u)
      (met : Met host names orelse u inner part v) :
      Met host names (.branch test body orelse :: ss) s (.no inner) part v
  | turn {id use source body ss s n t inner part u}
      (header : Lowered host names (.iterator source) s [n] t)
      (met : Met host names body (t.withFrames (t.frames.bind id)) inner part u) :
      Met host names (.forLoop (.name id use) source body [] :: ss) s (.turn inner) part u

inductive Within (host : Host) (names : Namespace) (e : Expr) (s : State) :
    Expr → State → Prop where
  | here : Within host names e s e s
  | step {a t b u} (outer : Within host names e s a t) (operand : Operand host names a t b u) :
      Within host names e s b u

def Tracks (known : List Binding) (fs : Frames) : Prop :=
  ∀ name c, fs.closure? 0 name = some c → ∃ b, latest name known = some b ∧ b.routine = c.routine

section Tracking

variable {host : Host} {names : Namespace} {s t : State} {ns : List Node} {known : List Binding}
  {fs gs : Frames}

theorem Tracks.of_shape (h : Tracks known fs) (same : gs.shape = fs.shape) : Tracks known gs := by
  intro name c held
  have routines := Frames.closure?_routine_of_shape same 0 name
  rw [held] at routines
  obtain ⟨c', held', same'⟩ := Option.map_eq_some_iff.1 routines.symm
  obtain ⟨b, last, routine⟩ := h name c' held'
  exact ⟨b, last, routine.trans same'⟩

theorem Tracks.bind (h : Tracks known fs) (id : String) : Tracks known (fs.bind id) := by
  intro name c held
  cases fs with
  | nil => cases held
  | cons f fs =>
    change (f.closures.remove id).get? name = some c at held
    rw [Table.get?_remove] at held
    split at held
    · cases held
    · exact h name c held

theorem Tracks.bindClosure (h : Tracks known fs) (k : Nat) (id : String) (r : Routine) :
    Tracks (known ++ [⟨k, id, r⟩]) (fs.bindClosure id r) := by
  intro name c held
  cases fs with
  | nil => cases held
  | cons f fs =>
    change (f.closures.set id ⟨r, .pending⟩).get? name = some c at held
    rw [Table.get?_set] at held
    rw [latest_append]
    split at held
    · rename_i same
      cases held
      exact ⟨⟨k, id, r⟩, by simp [latest, same], rfl⟩
    · rename_i other
      obtain ⟨b, last, routine⟩ := h name c held
      exact ⟨b, by simpa [latest, Ne.symm other] using last, routine⟩

def Job.Tracked (known : List Binding) (fs gs : Frames) : Job → Prop
  | .statement st => Tracks known fs → ∀ k, Tracks (known ++ st.bindings k) gs
  | .block ss => Tracks known fs → ∀ k, Tracks (known ++ Stmt.bindingsList k ss) gs
  | _ => True

theorem bindings_annAssign (k : Nat) (target annotation e : Expr) (bare : Bool) :
    Stmt.bindings k (.annAssign target annotation (some e) bare) =
      Stmt.bindings k (.assign [target] e) := by
  have same : (Stmt.annAssign target annotation (some e) bare).closure? =
      (Stmt.assign [target] e).closure? := by
    cases target with
    | name id use => cases e <;> rfl
    | _ => rfl
  change List.map _ (Stmt.closure? _).toList = List.map _ (Stmt.closure? _).toList
  rw [same]

theorem Lowered.tracked {job : Job} (h : Lowered host names job s ns t) (known : List Binding) :
    job.Tracked known s.frames t.frames := by
  -- A list that has nothing added to it.
  have same {fs : Frames} {known : List Binding} (tracks : Tracks known fs) :
      Tracks (known ++ []) fs := by rwa [List.append_nil]
  induction h generalizing known with
  | ret | pass | dropped | blockNil => exact fun tracks _ => same tracks
  | @declaration _ target =>
    intro tracks k
    rw [show Stmt.bindings k _ = [] by cases target <;> rfl]
    exact same tracks
  | retValue value | expression value => exact fun tracks _ => same (tracks.of_shape value.keeps)
  | @augAssign _ id _ _ _ _ _ _ _ _ value =>
    exact fun tracks _ => same ((tracks.of_shape value.keeps).bind id)
  | @assign _ id _ e _ _ _ value =>
    intro tracks k
    have bound := same ((tracks.of_shape value.keeps).bind id)
    cases e with
    | lambda params body => cases value
    | _ => exact bound
  | annotated _ ih =>
    intro tracks k
    rw [bindings_annAssign]
    exact ih known tracks k
  | @assignLambda _ id _ params body =>
    exact fun tracks k => tracks.bindClosure k id (.ofLambda params body)
  | @nested _ id params body decorators =>
    exact fun tracks k => tracks.bindClosure k id (.ofFunction params body decorators)
  | branch condition _ _ ih =>
    intro tracks k
    have after := same (ih known (tracks.of_shape condition.keeps) k)
    rw [List.append_assoc] at after
    exact after
  | branchElse condition _ _ _ ih₁ ih₂ =>
    intro tracks k
    -- The other branch begins with what the first one has bound.
    change Tracks (known ++ (_ ++ _)) _
    rw [← List.append_assoc]
    exact ih₂ _ (ih₁ known (tracks.of_shape condition.keeps) k) _
  | @loop _ id _ _ _ _ _ _ _ _ header _ _ ih =>
    exact fun tracks k => ih known ((tracks.of_shape header.keeps).bind id) k
  | blockCons _ _ ih₁ ih₂ =>
    intro tracks k
    change Tracks (known ++ (_ ++ _)) _
    rw [← List.append_assoc]
    exact ih₂ _ (ih₁ known tracks k) _
  | _ => trivial

theorem Met.tracks {ss : List Stmt} {spot : Spot} {st : Stmt} (h : Met host names ss s spot st t)
    (tracks : Tracks known s.frames) (k : Nat) : Tracks (known ++ spot.before k ss) t.frames := by
  induction h generalizing known k with
  | first => rwa [show Spot.before k .first _ = [] from rfl, List.append_nil]
  | next earlier _ ih =>
    change Tracks (known ++ (_ ++ _)) _
    rw [← List.append_assoc]
    exact ih (earlier.tracked known tracks k) _
  | yes condition _ ih => exact ih (tracks.of_shape condition.keeps) k
  | no condition positive _ ih =>
    change Tracks (known ++ (_ ++ _)) _
    rw [← List.append_assoc]
    exact ih (positive.tracked known (tracks.of_shape condition.keeps) k) _
  | @turn id _ _ _ _ _ _ _ _ _ _ header _ ih =>
    exact ih ((tracks.of_shape header.keeps).bind id) k

theorem Operand.shape_eq {e a : Expr} (h : Operand host names e s a t) :
    t.frames.shape = s.frames.shape :=
  shape_eq_of_forall₂ (h.across shape_order)

theorem Within.shape_eq {e a : Expr} (h : Within host names e s a t) :
    t.frames.shape = s.frames.shape := by
  induction h with
  | here => rfl
  | step _ operand ih => exact operand.shape_eq.trans ih

/-- Whatever a statement evaluates itself is met in frames of the same shape. -/
theorem Enters.shape_eq {st : Stmt} {e : Expr}
    (h : Enters host names (.statement st) s (.expr e) t) : t.frames.shape = s.frames.shape := by
  cases h with
  | value => rfl
  | display _ _ earlier => exact earlier.keeps

end Tracking

/-- A call carries a routine: it embeds what the body of the routine is lowered to, or refers to the
closure of this routine in the innermost frame, which was begun earlier. -/
inductive Carries (host : Host) (names : Namespace) (name : String) (r : Routine) (fs : Frames) :
    Node → Prop where
  | definition {operands formals steps s t} (accepted : r.formals? name = .ok formals)
      (inner : Lowered host names (.block r.statements) s steps t) :
      Carries host names name r fs
        (.call name operands (some (.function name (Formals.ofNames formals) steps)))
  | reference {operands status} (held : fs.closure? 0 name = some ⟨r, status⟩)
      (begun : status ≠ .pending) : Carries host names name r fs (.call name operands none)

section Calls

variable {host : Host} {names : Namespace} {s t : State} {known : List Binding} {name : String}
  {use : Use} {args : List Expr} {n : Node}

/-- A call of a closure of the innermost frame carries the latest of the bindings. -/
theorem Tracks.carries (tracks : Tracks known s.frames) (owned : s.frames.owner? name = some 0)
    (h : Lowered host names (.expr (.call (.name name use) args [])) s [n] t) :
    ∃ b, latest name known = some b ∧ Carries host names name b.routine t.frames n := by
  have unknown : (calleeToken? s.frames names (.name name use)).filter Operator.isKnown = none := by
    simp [calleeToken?, owned]
  cases h with
  | operator _ known =>
    rw [unknown] at known
    cases known
  | functionReference _ _ unowned =>
    rw [unowned name use rfl] at owned
    cases owned
  | functionDefinition _ _ unowned =>
    rw [unowned name use rfl] at owned
    cases owned
  | closureReference _ found outer started =>
    rw [found] at owned
    cases owned
    obtain ⟨⟨r, status⟩, held⟩ := outer.owner_keeps found
    obtain ⟨b, last, rfl⟩ := tracks.of_shape outer.keeps name _ held
    refine ⟨b, last, .reference held fun same => ?_⟩
    rw [same] at held
    exact started _ held
  | closureDefinition _ found outer pending _ accepted inner =>
    rw [found] at owned
    cases owned
    obtain ⟨b, last, rfl⟩ := tracks.of_shape outer.keeps name _ pending
    exact ⟨b, last, .definition accepted inner⟩

/-- A call of a closure of the own frame carries the latest binding in the text before it.  That is
the binding in force on every path that leads to the call and binds the name, exactly if no other
one reaches the call. -/
theorem closure_call_carries_latest {r : Routine} {formals : List String} {outer : Frames}
    {s t u v w : State} {spot : Spot} {st : Stmt} {e : Expr}
    (start : s.frames = frameOf r formals :: outer)
    (met : Met host names r.statements s spot st t)
    (evaluated : Enters host names (.statement st) t (.expr e) u)
    (within : Within host names e u (.call (.name name use) args []) v)
    (owned : v.frames.owner? name = some 0)
    (lowered : Lowered host names (.expr (.call (.name name use) args [])) v [n] w) :
    ∃ b, latest name (spot.before 0 r.statements) = some b ∧
      Carries host names name b.routine w.frames n ∧
      ((∀ p, spot.Leads 0 r.statements p → ∀ b', latest name p = some b' → b' = b) ↔
        ∀ b', some b' ∈ spot.reaching name 0 r.statements → b' = b) := by
  have empty : Tracks [] s.frames := by
    intro id c held
    rw [start] at held
    cases held
  have tracks := ((met.tracks empty 0).of_shape evaluated.shape_eq).of_shape within.shape_eq
  obtain ⟨b, last, carries⟩ := tracks.carries owned lowered
  refine ⟨b, last, carries, ?_⟩
  simp only [Spot.mem_reaching]
  constructor
  · rintro only b' ⟨p, leads, last'⟩
    exact only p leads b' last'
  · intro only p leads b' last'
    exact only b' ⟨p, leads, last'⟩

end Calls

section Instances

def formal (name : String) : List (Parameter Expr) :=
  [⟨.positional, name, none, none⟩]

def successor : List Stmt :=
  [.ret (some (.binary .add (.name "y" .load) (.constant (.int 1))))]

def double : List Stmt :=
  [.ret (some (.binary .mult (.name "y" .load) (.constant (.int 2))))]

/-- The binding of `g` to the double stands in a branch that returns. -/
def detour : Stmt :=
  .branch (.name "x" .load)
    [.function "g" (formal "y") double [] none, .ret (some (.constant (.int 0)))] []

def callOfG : Expr :=
  .call (.name "g" .load) [.name "x" .load] []

def detoured : Routine :=
  .ofFunction (formal "x")
    [.function "g" (formal "y") successor [] none, detour, .ret (some callOfG)] []

def detouredStart : State :=
  .start [frameOf detoured ["x"]]

def detouredCall : State :=
  { State.start [⟨["x"], [("g", ⟨.ofFunction (formal "y") double [], .pending⟩)]⟩] with
    trace := [.closureBound "g", .closureBound "g"] }

theorem detoured_met : Met default [] detoured.statements detouredStart (.next (.next .first))
    (.ret (some callOfG)) detouredCall := by
  have sound := descent_sound default 100 10
  have skipped : Lowered default [] (.statement detour)
      ((detouredStart.withFrames (detouredStart.frames.bindClosure "g"
        (.ofFunction (formal "y") successor []))).recorded (.closureBound "g")) _ detouredCall :=
    sound.statement rfl
  exact .next .nested (.next skipped .first)

theorem detoured_call_carries_latest :
    ∃ n t, Lowered default [] (.expr callOfG) detouredCall [n] t ∧
      ∃ b, latest "g" (Spot.before 0 (.next (.next .first)) detoured.statements) = some b ∧
        Carries default [] "g" b.routine t.frames n ∧
        ((∀ p, Spot.Leads 0 (.next (.next .first)) detoured.statements p →
          ∀ b', latest "g" p = some b' → b' = b) ↔
          ∀ b', some b' ∈ Spot.reaching "g" 0 (.next (.next .first)) detoured.statements →
            b' = b) := by
  have lowered := @Sound.expr _ _ (descent_sound default 100 10) [] callOfG detouredCall _ _ rfl
  exact ⟨_, _, lowered,
    closure_call_carries_latest rfl detoured_met (.value .ret) .here rfl lowered⟩

theorem lowered_successor {host : Host} {names : Namespace} {s t : State} {ns : List Node}
    (h : Lowered host names (.block successor) s ns t) :
    ∃ a b, ns = [.ret (some (.operation "+" .binary [a, b]))] := by
  cases h with
  | blockCons head tail =>
    cases tail
    cases head with
    | retValue value =>
      cases value with
      | binary known =>
        cases known
        exact ⟨_, _, rfl⟩

/-- The lowered function calls the double, but the only way to the call binds the successor last. -/
theorem detoured_call_carries_other :
    ∃ operands definition p b,
      (Host.ofFunctions [] [("f", ["x"], detoured.statements)]).lower (.function "f") none none =
        .ok ⟨"f", .names ["x"], [.branch (.symbol "x") [.ret (some (.literal (.int 0)))] none,
          .ret (some (.call "g" operands definition))]⟩ ∧
      Spot.Leads 0 (.next (.next .first)) detoured.statements p ∧ latest "g" p = some b ∧
      ∀ host names fs, ¬ Carries host names "g" b.routine fs (.call "g" operands definition) := by
  refine ⟨[.symbol "x"], some (.function "g" (.names ["y"])
    [.ret (some (.operation "*" .binary [.symbol "y", .literal (.int 2)]))]),
    [⟨0, "g", .ofFunction (formal "y") successor []⟩], _, rfl,
    ⟨_, _, rfl, ⟨[], [], .inr rfl, rfl, rfl⟩, rfl⟩, rfl, ?_⟩
  intro host names fs carries
  generalize embedded : Node.call "g" _ _ = node at carries
  cases carries with
  | reference => cases embedded
  | definition _ inner =>
    obtain ⟨a, b, same⟩ := lowered_successor inner
    simp [same] at embedded

end Instances

end Cascade.Lowering
