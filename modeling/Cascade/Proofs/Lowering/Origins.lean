import Cascade.Proofs.Lowering.Reach

set_option autoImplicit false

namespace Cascade.Lowering

open Source

inductive Begins (host : Host) (e : EntryPoint) : Entry → Prop where
  | function {active names id requested s}
      (reached : Reaches host e active names (.function id requested) s) :
      Begins host e (.function id (s.aliasFor id requested))
  | closure {active names id use args s ss t}
      (reached : Reaches host e active names (.expr (.call (.name id use) args [])) s)
      (entered : Enters host names (.expr (.call (.name id use) args [])) s (.body ss) t) :
      Begins host e (.closure id)
  | lambda {active names params body args s}
      (reached : Reaches host e active names (.expr (.call (.lambda params body) args [])) s) :
      Begins host e (.lambda (lambdaAlias (s.lambdas + 1)))

def Accounted (host : Host) (e : EntryPoint) (s t : State) : Prop :=
  ∀ entry ∈ t.entries, entry ∈ s.entries ∨ Begins host e entry

namespace Accounted

variable {host : Host} {e : EntryPoint} {s t u : State}

theorem of_eq (same : t.entries = s.entries) : Accounted host e s t := by
  intro entry inside
  rw [same] at inside
  exact .inl inside

theorem trans (first : Accounted host e s t) (second : Accounted host e t u) :
    Accounted host e s u := by
  intro entry inside
  rcases second entry inside with earlier | begun
  · exact first entry earlier
  · exact .inr begun

theorem of_cons {entry : Entry} (begun : Begins host e entry)
    (same : t.entries = entry :: s.entries) : Accounted host e s t := by
  intro other inside
  rw [same] at inside
  rcases List.mem_cons.1 inside with rfl | earlier
  · exact .inr begun
  · exact .inl earlier

end Accounted

def Reached (host : Host) (e : EntryPoint) (names : Namespace) (task : Task) (s : State) : Prop :=
  ∃ active, Reaches host e active names task s

def ReachedAll (host : Host) (e : EntryPoint) (names : Namespace) (es : List Expr) (s : State) :
    Prop :=
  ∀ {before x after ns t}, es = before ++ x :: after →
    Lowered host names (.exprs before) s ns t → Reached host e names (.expr x) t

def Job.Reached (host : Host) (e : EntryPoint) (names : Namespace) (s : State) : Job → Prop
  | .expr x => Lowering.Reached host e names (.expr x) s
  | .exprs es => ReachedAll host e names es s
  | .chain left links => ∀ {before link after token ns t}, links = before ++ link :: after →
      Operator.compareToken? link.op = some token →
      Lowered host names (.chain left before) s ns t →
      Lowering.Reached host e names (.expr (lastOperand left before)) t ∧
        ∀ {a u}, Lowered host names (.expr (lastOperand left before)) t [a] u →
          Lowering.Reached host e names (.expr link.right) u
  | .iterator x => ∀ {elements}, x = .list elements ∨ x = .tuple elements →
      ReachedAll host e names elements s
  | .statement st => ∀ {part t}, Enters host names (.statement st) s part t →
      Lowering.Reached host e names part t
  | .block ss => ∀ {before st after ns t}, ss = before ++ st :: after →
      Lowered host names (.block before) s ns t → Lowering.Reached host e names (.statement st) t
  | .function id requested => Lowering.Reached host e names (.function id requested) s

section Reached

variable {host : Host} {e : EntryPoint} {names : Namespace} {s t u : State} {ns : List Node}

theorem Reached.enters {task part : Task} (h : Reached host e names task s)
    (entered : Enters host names task s part t) :
    Reached host e (task.inner host names) part t := by
  obtain ⟨active, h⟩ := h
  exact h.enters entered

theorem Reached.operand {x a : Expr} (h : Reached host e names (.expr x) s)
    (operand : Operand host names x s a t) : Reached host e names (.expr a) t :=
  h.enters (.operand operand)

theorem Reached.arguments {callee : Expr} {args : List Expr}
    (h : Reached host e names (.expr (.call callee args [])) s)
    (plain : args.any Expr.isStarred = false) (callable : Callable host names s callee) :
    ReachedAll host e names args s := by
  intro before x after ns t split earlier
  subst split
  exact h.operand (.argument plain callable earlier)

theorem Reached.block {ss : List Stmt} (h : Reached host e names (.body ss) s) :
    Job.Reached host e names s (.block ss) := by
  intro before st after ns t split earlier
  subst split
  exact h.enters (.body earlier)

theorem ReachedAll.head {x : Expr} {es : List Expr} (h : ReachedAll host e names (x :: es) s) :
    Reached host e names (.expr x) s :=
  @h [] x es [] s rfl .nil

theorem ReachedAll.tail {x : Expr} {es : List Expr} {n : Node}
    (h : ReachedAll host e names (x :: es) s) (first : Lowered host names (.expr x) s [n] t) :
    ReachedAll host e names es t := by
  intro before y after ns u split earlier
  exact h (congrArg (x :: ·) split) (.cons first earlier)

theorem isAssignable_of_lowered {x : Expr} {n : Node}
    (h : Lowered host names (.expr x) s [n] t) : isAssignable x = true := by
  cases x with
  | lambda | named => cases h
  | _ => rfl

theorem isLambda_of_lowered {x : Expr} {n : Node} (h : Lowered host names (.expr x) s [n] t) :
    x.isLambda = false := by
  cases x with
  | lambda => cases h
  | _ => rfl

/-- The parts of an annotated assignment are those of the assignment. -/
theorem Enters.annotated {target annotation value : Expr} {bare : Bool} {part : Task}
    (h : Enters host names (.statement (.assign [target] value)) s part t) :
    Enters host names (.statement (.annAssign target annotation (some value) bare)) s part t := by
  cases h with
  | value evaluates =>
    cases evaluates with
    | assign plain => exact .value (.annotated plain)
  | nested nested => cases nested

end Reached

/-- What a job that is reached begins, the lowering of the entry point begins. -/
theorem Lowered.accounted {host : Host} {e : EntryPoint} {names : Namespace} {job : Job}
    {s t : State} {ns : List Node} (h : Lowered host names job s ns t)
    (reached : job.Reached host e names s) : Accounted host e s t := by
  induction h with
  | name | constant | negative | nil | chainNil | range | constants | ret | declaration | pass
  | blockNil | assignLambda | nested | dropped => exact .of_eq rfl
  | plus _ ih => exact ih (Reached.operand reached (.unary nofun))
  | minus sign _ ih => exact ih (Reached.operand reached (.unary fun _ => sign))
  | negation logical _ ih =>
    refine ih (Reached.operand reached (.unary fun same => ?_))
    rcases logical with rfl | rfl <;> cases same
  | binary known first _ ih₁ ih₂ =>
    exact (ih₁ (Reached.operand reached (.left known))).trans
      (ih₂ (Reached.operand reached (.right known first)))
  | @junction _ _ first rest _ _ _ _ _ head _ ih₁ ih₂ =>
    have all : ReachedAll host e _ (first :: rest) _ := fun split earlier =>
      Reached.operand reached (.junction split earlier)
    exact (ih₁ all.head).trans (ih₂ (all.tail head))
  | compare _ ih =>
    refine ih fun split known earlier => ⟨?_, fun first => ?_⟩
    · exact Reached.operand reached (.compareLeft split known earlier)
    · exact Reached.operand reached (.compareRight split known earlier first)
  | operator plain known _ _ ih => exact ih (Reached.arguments reached plain (.inl ⟨_, known⟩))
  | lambda plain accepted inner _ ih₁ ih₂ =>
    obtain ⟨active, call⟩ := reached
    have body : Reached host e _ (.body _) _ := ⟨_, call.lambda plain accepted⟩
    have begun := (Accounted.of_cons (.lambda call) rfl).trans (ih₁ body.block)
    refine begun.trans (ih₂ fun split earlier => ?_)
    subst split
    exact Reached.operand ⟨active, call⟩ (.lambdaArgument plain accepted inner earlier)
  | closureReference plain owned _ _ ih =>
    exact ih (Reached.arguments reached plain (.inr (.inl ⟨_, _, _, rfl, owned⟩)))
  | @closureDefinition _ _ use _ _ _ _ _ _ _ _ _ plain owned outer pending undecorated accepted _
      ih₁ ih₂ =>
    have before := ih₁ (Reached.arguments reached plain (.inr (.inl ⟨_, _, _, rfl, owned⟩)))
    have entered := @Enters.closure _ _ _ use _ _ _ _ _ _ _ plain owned outer pending undecorated
      accepted
    obtain ⟨active, call⟩ := reached
    have body := Reached.enters ⟨active, call⟩ entered
    have begun := (Accounted.of_cons (.closure call entered) rfl).trans (ih₂ body.block)
    exact before.trans begun
  | functionReference plain _ _ called _ _ ih =>
    exact ih (Reached.arguments reached plain (.inr (.inr ⟨_, called⟩)))
  | functionDefinition plain unnamed unowned called outer unrecorded _ ih₁ ih₂ =>
    have before := ih₁ (Reached.arguments reached plain (.inr (.inr ⟨_, called⟩)))
    have entered := Enters.function plain unnamed unowned called outer unrecorded
    exact before.trans (ih₂ (Reached.enters reached entered))
  | cons head _ ih₁ ih₂ =>
    exact (ih₁ (ReachedAll.head reached)).trans (ih₂ (ReachedAll.tail reached head))
  | @chainCons _ left op token right rest _ a _ b _ _ _ known first second _ ih₁ ih₂ ih₃ =>
    have start := @reached [] ⟨op, right⟩ rest token [] _ rfl known .chainNil
    refine ((ih₁ start.1).trans (ih₂ (start.2 first))).trans (ih₃ fun split known' earlier => ?_)
    exact reached (congrArg (⟨op, right⟩ :: ·) split) known' (.chainCons known first second earlier)
  | display shape _ _ ih => exact ih (reached shape)
  | branch condition _ ih₁ ih₂ =>
    refine (ih₁ (reached (.value .test))).trans (ih₂ fun split earlier => ?_)
    subst split
    exact reached (.nested (.body condition earlier))
  | branchElse condition positive _ ih₁ ih₂ ih₃ =>
    refine (ih₁ (reached (.value .test))).trans ((ih₂ fun split earlier => ?_).trans
      (ih₃ fun split earlier => ?_))
    · subst split
      exact reached (.nested (.body condition earlier))
    · rw [split] at reached
      exact reached (.nested (.orelse condition positive earlier))
  | loop header _ ih₁ ih₂ =>
    refine (ih₁ fun shape _ _ _ _ _ split earlier => ?_).trans (ih₂ fun split earlier => ?_)
    · exact reached (.display shape split earlier)
    · subst split
      exact reached (.nested (.loop header earlier))
  | retValue _ ih => exact ih (reached (.value .ret))
  | augAssign known _ ih => exact ih (reached (.value (.augAssign known)))
  | annotated _ ih => exact ih fun entered => reached entered.annotated
  | assign value ih => exact ih (reached (.value (.assign (isAssignable_of_lowered value))))
  | expression value ih => exact ih (reached (.value (.expression (isLambda_of_lowered value))))
  | @blockCons _ st ss _ _ _ _ _ head _ ih₁ ih₂ =>
    have first := @reached [] st ss [] _ rfl .blockNil
    refine (ih₁ fun entered => first.enters entered).trans (ih₂ fun split earlier => ?_)
    exact reached (congrArg (st :: ·) split) (.blockCons head earlier)
  | function _ found accepted _ ih =>
    obtain ⟨active, call⟩ := reached
    refine (Accounted.of_cons (.function call) rfl).trans (ih fun split earlier => ?_)
    exact ⟨_, call.function found accepted split earlier⟩

end Cascade.Lowering

namespace Cascade.Host

open Lowering

/-- Every definition that a lowering begins is begun by something that it comes to. -/
theorem begins_of_mem_entries {h : Host} {e : EntryPoint} {d : Definition} {final : State}
    (run : h.run e = .ok d final) {entry : Entry} (inside : entry ∈ final.entries) :
    Begins h e entry := by
  rcases (run_sound run).accounted ⟨[], .entry⟩ entry inside with earlier | begun
  · cases earlier
  · exact begun

end Cascade.Host
