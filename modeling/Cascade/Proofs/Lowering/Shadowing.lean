import Cascade.Proofs.Frame.Binding
import Cascade.Proofs.Lowering.Frames
import Cascade.Proofs.Lowering.Lockstep
import Cascade.Proofs.Lowering.Lookups

set_option autoImplicit false

namespace Cascade.Lowering

open Source

def AgreeOff (n : String) (names names' : Namespace) : Prop :=
  ∀ id, id ≠ n → names'.get? id = names.get? id

/-- Where a name that is no closure is looked up in the namespace, both give the same. -/
theorem AgreeOff.sameAnswer {names names' : Namespace} {fs : Frames} {n id : String}
    (agree : AgreeOff n names names') (bound : id = n → fs.Binds n)
    (unowned : id = n → fs.owner? n = none) : SameAnswer fs fs names names' id := by
  refine ⟨rfl, fun unbound => agree id fun same => ?_⟩
  have named := Frames.isBound_of_unowned (bound same) (unowned same)
  rw [← same, unbound] at named
  cases named

namespace Task

def isFunction : Task → Bool
  | function .. => true
  | _ => false

def mentions : Task → List String
  | expr e => e.mentions
  | statement st => st.mentions
  | body ss => Stmt.mentionsList ss
  | function _ _ => []

/-- The look-ups of a name that heed variables only: the base of a member that is called, the callee
and the bounds in the header of a loop, and the name of a sequence there. -/
def LooksPast (n : String) : Task → Prop
  | expr (.call (.member (.name base _) _) _ _) => base = n
  | statement (.forLoop _ (.name id _) _ _) => id = n
  | statement (.forLoop _ (.call (.name id _) args _) _ _) => id = n ∨ ∃ use, .name n use ∈ args
  | _ => False

theorem sameLookups {host : Host} {names names' : Namespace} {fs : Frames} {n : String}
    (agree : AgreeOff n names names') {task : Task} (bound : n ∈ task.mentions → fs.Binds n)
    (unowned : task.LooksPast n → fs.owner? n = none) :
    task.SameLookups host host names names' fs := by
  unfold SameLookups
  split
  · rename_i id use
    refine nameNode?_congr rfl fun free => ?_
    exact agree.sameAnswer (fun same => bound (List.mem_singleton.2 same.symm)) fun same => same ▸ free
  · rename_i callee args keywords
    have inCallee (mentioned : n ∈ callee.mentions) : fs.Binds n :=
      bound (Expr.mentions_callee_subset _ _ _ mentioned)
    have member (base : String) (use : Use) (attr : String)
        (same : callee = .member (.name base use) attr) : SameAnswer fs fs names names' base := by
      subst same
      exact agree.sameAnswer (fun same => inCallee (List.mem_singleton.2 same.symm)) unowned
    refine ⟨calleeToken?_congr (fun _ _ _ => ⟨rfl, rfl⟩) member, fun free => ?_⟩
    unfold calledBy?
    rw [calleeValue?_congr ?_ member]
    rintro word use rfl
    exact agree.sameAnswer (fun same => inCallee (List.mem_singleton.2 same.symm)) fun same =>
      same ▸ free word use rfl
  · rename_i target source body orelse
    have inSource (mentioned : n ∈ source.mentions) : fs.Binds n :=
      bound (List.mem_append_left _ (List.mem_append_left _ (List.mem_append_right _ mentioned)))
    refine ⟨staticRange?_congr ?_ ?_, ?_⟩
    · rintro word use args rfl
      refine agree.sameAnswer (fun same => inSource ?_) fun same => unowned (.inl same)
      exact Expr.mentions_callee_subset _ _ _ (List.mem_singleton.2 same.symm)
    · rintro word use args rfl m use' inside
      refine agree.sameAnswer (fun same => inSource (Expr.mentions_args_subset _ _ _ ?_)) ?_
      · exact Expr.mem_mentionsList.2 ⟨_, inside, List.mem_singleton.2 same.symm⟩
      · rintro rfl
        exact unowned (.inr ⟨use', inside⟩)
    · rintro id use rfl
      exact staticValues?_congr
        (agree.sameAnswer (fun same => inSource (List.mem_singleton.2 same.symm)) unowned)
  · exact ⟨rfl, rfl⟩
  · trivial

end Task

theorem hides_order (n : String) : FrameOrder (Frame.Hides n) where
  refl _ := ⟨id, fun _ _ held _ => held⟩
  trans first second :=
    ⟨second.1 ∘ first.1, fun id c held reads => first.2 id c (second.2 id c held reads) reads⟩
  status f name status begun := by
    refine ⟨fun binds => binds.setStatus name status, fun id c held reads => ?_⟩
    rw [Frame.get?_closures_setStatus] at held
    split at held
    · obtain ⟨c', _, rfl⟩ := Option.map_eq_some_iff.1 held
      exact absurd reads.1 begun
    · exact held

section Frames

variable {host : Host} {names : Namespace} {s t : State} {ns : List Node} {n : String}

/-- What statements do to the bindings of a name, if they mention it only where it is bound. -/
def Settles (n : String) (mentioned : List String) (fs gs : Frames) : Prop :=
  (fs.Binds n → gs.Binds n) ∧ ((n ∈ mentioned → fs.Binds n) → fs.Covers n → gs.Covers n)

theorem Settles.of_forall₂ {mentioned : List String} {fs gs : Frames}
    (hides : List.Forall₂ (Frame.Hides n) fs gs) : Settles n mentioned fs gs :=
  ⟨fun binds => binds.of_forall₂ hides, fun _ covers => covers.of_forall₂ hides⟩

theorem Settles.trans {part part' whole : List String} {fs gs hs : Frames}
    (first : Settles n part fs gs) (second : Settles n part' gs hs) (left : part ⊆ whole)
    (right : part' ⊆ whole) : Settles n whole fs hs := by
  refine ⟨fun binds => second.1 (first.1 binds), fun bound covers => ?_⟩
  exact second.2 (fun inside => first.1 (bound (right inside)))
    (first.2 (fun inside => bound (left inside)) covers)

theorem Settles.bind (mentioned : List String) (fs : Frames) (id : String) :
    Settles n mentioned fs (fs.bind id) :=
  ⟨fun binds => binds.bind id, fun _ covers => covers.bind id⟩

theorem Settles.bindClosure {mentioned : List String} (fs : Frames) (id : String) {r : Routine}
    (inside : r.mentions ⊆ mentioned) : Settles n mentioned fs (fs.bindClosure id r) :=
  ⟨fun binds => binds.bindClosure id r,
    fun bound covers => covers.bindClosure id fun read => bound (inside read)⟩

def Job.Settled (n : String) (fs gs : Frames) : Job → Prop
  | .statement st => Settles n st.mentions fs gs
  | .block ss => Settles n (Stmt.mentionsList ss) fs gs
  | _ => True

theorem Lowered.settled {job : Job} (h : Lowered host names job s ns t) :
    job.Settled n s.frames t.frames := by
  have hides := hides_order n
  induction h with
  | ret | declaration | pass | dropped | blockNil => exact .of_forall₂ (hides.frames_refl _)
  | retValue value | expression value => exact .of_forall₂ (value.across hides)
  | branch condition _ _ ih =>
    refine .trans (.of_forall₂ (condition.across hides)) ih (List.nil_subset _) ?_
    exact List.subset_append_of_subset_left _ (List.subset_append_right _ _)
  | branchElse condition _ _ _ ih₁ ih₂ =>
    refine .trans (.of_forall₂ (condition.across hides)) ?_ (List.nil_subset _)
      (List.Subset.refl _)
    refine .trans ih₁ ih₂ ?_ (List.subset_append_right _ _)
    exact List.subset_append_of_subset_left _ (List.subset_append_right _ _)
  | @loop _ id _ _ _ _ _ t _ _ header _ _ ih =>
    refine .trans (.of_forall₂ (header.across hides)) ?_ (List.nil_subset _) (List.Subset.refl _)
    refine .trans (.bind [] t.frames id) ih (List.nil_subset _) ?_
    exact List.subset_append_of_subset_left _ (List.subset_append_right _ _)
  | @augAssign _ id _ _ _ _ _ _ t _ value | @assign _ id _ _ _ _ t value =>
    exact .trans (.of_forall₂ (value.across hides)) (.bind [] t.frames id) (List.nil_subset _)
      (List.nil_subset _)
  | annotated _ ih =>
    refine .trans ih (.of_forall₂ (hides.frames_refl _)) (fun word inside => ?_) (List.nil_subset _)
    simp only [Stmt.mentions, List.flatMap_cons, List.flatMap_nil, List.append_nil,
      Option.toList_some, List.mem_append] at inside ⊢
    rcases inside with target | value
    · exact .inl (.inl target)
    · exact .inr value
  | @assignLambda _ id _ params body s =>
    refine .bindClosure s.frames id ?_
    refine List.Subset.trans (Routine.mentions_ofLambda_subset params body) ?_
    exact List.subset_append_of_subset_right _ (Expr.mentions_body_subset params body)
  | @nested _ id params body decorators returns s =>
    refine .bindClosure s.frames id ?_
    refine List.Subset.trans (Routine.mentions_ofFunction_subset params body decorators) ?_
    exact List.subset_append_right _ _
  | blockCons _ _ ih₁ ih₂ =>
    exact .trans ih₁ ih₂ (List.subset_append_left _ _) (List.subset_append_right _ _)
  | _ => trivial

end Frames

section Parts

variable {host : Host} {names : Namespace} {s t : State}

theorem mentions_lastOperand_subset (left : Expr) (links : List (Comparison Expr)) :
    (lastOperand left links).mentions ⊆ left.mentions ++ Expr.mentionsLinks links := by
  induction links generalizing left with
  | nil => exact List.subset_append_left _ _
  | cons link links ih => exact List.subset_append_of_subset_right _ (ih link.right)

theorem Operand.mentions_subset {e a : Expr} (h : Operand host names e s a t) :
    a.mentions ⊆ e.mentions := by
  intro n mentioned
  have inList {before after : List Expr} : n ∈ Expr.mentionsList (before ++ a :: after) :=
    Expr.mem_mentionsList.2 ⟨a, List.mem_append_right _ List.mem_cons_self, mentioned⟩
  cases h with
  | unary => exact mentioned
  | left =>
    rw [Expr.mentions_binary]
    exact List.mem_append_left _ mentioned
  | right =>
    rw [Expr.mentions_binary]
    exact List.mem_append_right _ mentioned
  | junction split =>
    rw [Expr.mentions_junction, split]
    exact inList
  | @compareLeft left op right rest before link _ after _ _ _ split =>
    rw [Expr.mentions_compare, split]
    rcases List.mem_append.1 (mentions_lastOperand_subset left before mentioned)
      with inLeft | inLink
    · exact List.mem_append_left _ inLeft
    · obtain ⟨link, inside, read⟩ := Expr.mem_mentionsLinks.1 inLink
      refine List.mem_append_right _ (Expr.mem_mentionsLinks.2 ⟨link, ?_, read⟩)
      exact List.mem_append_left _ inside
  | @compareRight left op right rest before link _ after _ _ _ _ _ split =>
    rw [Expr.mentions_compare, split]
    refine List.mem_append_right _ (Expr.mem_mentionsLinks.2 ⟨link, ?_, mentioned⟩)
    exact List.mem_append_right _ List.mem_cons_self
  | argument | lambdaArgument => exact Expr.mentions_args_subset _ _ _ inList

theorem Evaluates.mentions_subset {st : Stmt} {e : Expr} (h : Evaluates st e) :
    e.mentions ⊆ st.mentions := by
  intro n mentioned
  cases h <;> simp [Stmt.mentions, mentioned]

theorem Nested.mentions_subset {st part : Stmt} (h : Nested host names st s part t) :
    part.mentions ⊆ st.mentions := by
  intro n mentioned
  have inList {before after : List Stmt} : n ∈ Stmt.mentionsList (before ++ part :: after) :=
    Stmt.mem_mentionsList.2 ⟨part, List.mem_append_right _ List.mem_cons_self, mentioned⟩
  cases h <;> simp [Stmt.mentions, inList]

end Parts

/-- The name is bound wherever the task or a closure still to be lowered may look it up. -/
structure Hidden (n : String) (task : Task) (s : State) : Prop where
  bound : n ∈ task.mentions → s.frames.Binds n
  covers : s.frames.Covers n

section Hidden

variable {host : Host} {names : Namespace} {s t : State} {n : String}

theorem Hidden.of_forall₂ {task part : Task} (h : Hidden n task s)
    (inside : part.mentions ⊆ task.mentions)
    (hides : List.Forall₂ (Frame.Hides n) s.frames t.frames) : Hidden n part t :=
  ⟨fun mentioned => (h.bound (inside mentioned)).of_forall₂ hides, h.covers.of_forall₂ hides⟩

theorem Hidden.of_settles {task part : Task} {mentioned : List String} (h : Hidden n task s)
    (settles : Settles n mentioned s.frames t.frames) (earlier : mentioned ⊆ task.mentions)
    (inside : part.mentions ⊆ task.mentions) : Hidden n part t :=
  ⟨fun read => settles.1 (h.bound (inside read)),
    settles.2 (fun read => h.bound (earlier read)) h.covers⟩

theorem Nested.settles {st part : Stmt} (h : Nested host names st s part t) :
    Settles n st.mentions s.frames t.frames := by
  have hides := hides_order n
  cases h with
  | @body _ before _ after _ _ _ _ _ _ condition earlier =>
    have inBody := Stmt.mentionsList_subset (List.subset_append_left before (part :: after))
    refine .trans (.of_forall₂ (condition.across hides)) earlier.settled (List.nil_subset _) ?_
    refine List.Subset.trans inBody ?_
    exact List.subset_append_of_subset_left _ (List.subset_append_right _ _)
  | @orelse _ _ before _ after _ _ _ _ _ _ _ condition positive earlier =>
    have inElse := Stmt.mentionsList_subset (List.subset_append_left before (part :: after))
    refine .trans (.of_forall₂ (condition.across hides)) ?_ (List.nil_subset _)
      (List.Subset.refl _)
    refine .trans positive.settled earlier.settled ?_ ?_
    · exact List.subset_append_of_subset_left _ (List.subset_append_right _ _)
    · exact List.Subset.trans inElse (List.subset_append_right _ _)
  | @loop id _ _ before _ after _ _ u _ _ header earlier =>
    have inBody := Stmt.mentionsList_subset (List.subset_append_left before (part :: after))
    refine .trans (.of_forall₂ (header.across hides)) ?_ (List.nil_subset _) (List.Subset.refl _)
    refine .trans (.bind [] u.frames id) earlier.settled (List.nil_subset _) ?_
    refine List.Subset.trans inBody ?_
    exact List.subset_append_of_subset_left _ (List.subset_append_right _ _)

/-- A name stays hidden on the way down. -/
theorem Enters.hidden {task part : Task} (entered : Enters host names task s part t)
    (own : task.isFunction = false) (h : Hidden n task s) :
    Hidden n part t := by
  have hides := hides_order n
  cases entered with
  | operand operand => exact h.of_forall₂ operand.mentions_subset (operand.across hides)
  | @lambda params body args formals _ _ _ =>
    refine ⟨fun mentioned => ?_, h.covers.cons_ofNames _⟩
    have inBody := Routine.mentions_ofLambda_subset params body mentioned
    have inCallee := Expr.mentions_body_subset params body inBody
    exact (h.bound (Expr.mentions_callee_subset _ _ _ inCallee)).cons _
  | @closure id _ _ place routine formals _ _ u _ _ outer pending _ accepted =>
    have covers := h.covers.of_forall₂ (outer.across hides)
    have active : List.Forall₂ (Frame.Hides n) u.frames (u.frames.setStatus place id .active) :=
      hides.frames_status place id .active nofun
    refine ⟨fun mentioned => ?_, Frames.Covers.cons_ofNames ?_ _⟩
    · -- A name that is not the closure's own was covered where the closure was bound.
      by_cases own : n ∈ routine.localNames formals
      · exact ⟨_, List.mem_cons_self, .inl own⟩
      · have reads : Closure.Reads ⟨routine, .pending⟩ id n :=
          ⟨rfl, formals, accepted, mentioned, own⟩
        exact ((covers.binds_drop pending reads).of_forall₂ (List.forall₂_drop place active)).cons _
    · exact (covers.of_forall₂ active).drop place
  | function _ _ _ _ outer _ => exact h.of_forall₂ (List.nil_subset _) (outer.across hides)
  | value value => exact h.of_forall₂ value.mentions_subset (hides.frames_refl _)
  | @display _ _ source elements _ e _ _ _ _ _ shape split earlier =>
    refine h.of_forall₂ (fun word mentioned => ?_) (earlier.across hides)
    have inElements : word ∈ Expr.mentionsList elements := by
      rw [split]
      exact Expr.mem_mentionsList.2 ⟨e, List.mem_append_right _ List.mem_cons_self, mentioned⟩
    have inSource : word ∈ source.mentions := by
      rcases shape with rfl | rfl
      · exact inElements
      · exact inElements
    exact List.mem_append_left _ (List.mem_append_left _ (List.mem_append_right _ inSource))
  | nested nested => exact h.of_settles nested.settles (List.Subset.refl _) nested.mentions_subset
  | @body before st after _ _ _ earlier =>
    refine h.of_settles earlier.settled ?_ ?_
    · exact Stmt.mentionsList_subset (List.subset_append_left _ _)
    · intro word mentioned
      exact Stmt.mem_mentionsList.2 ⟨st, List.mem_append_right _ List.mem_cons_self, mentioned⟩
  | begun => cases own

end Hidden

/-- What the lowering of a task comes to under the same names, that is, without what lies in other
functions. -/
inductive Comes (host : Host) (names : Namespace) (task : Task) (s : State) :
    Task → State → Prop where
  | here : Comes host names task s task s
  | step {part t next u} (first : Comes host names task s part t)
      (own : part.isFunction = false)
      (last : Enters host names part t next u) : Comes host names task s next u

/-- Names inside other functions are the same in both runs; elsewhere the name stays hidden. -/
theorem lockstep_hidden {host : Host} {names names' : Namespace} {n : String} {task : Task}
    {s : State} (limit : Int) (agree : AgreeOff n names names')
    (unowned : ∀ {part t}, Comes host names task s part t → part.LooksPast n →
      t.frames.owner? n = none) :
    Lockstep ⟨fun _ => False, fun _ => True, fun _ => trivial⟩ host limit limit 0
      fun _ inner inner' part t => inner' = inner ∨
        inner = names ∧ inner' = names' ∧ Comes host names task s part t ∧ Hidden n part t where
  enters := by
    rintro levels inner inner' part t next u (rfl | ⟨rfl, rfl, comes, hidden⟩) entered
    -- Inside another function both runs have its names, and nothing is left to compare.
    · exact .inl rfl
    · cases part with
      | function id requested => exact .inl rfl
      | _ => exact .inr ⟨rfl, rfl, comes.step rfl entered, entered.hidden rfl hidden⟩
  lookups := by
    rintro levels inner inner' part t (rfl | ⟨rfl, rfl, comes, hidden⟩)
    · exact .refl part
    · exact Task.sameLookups agree hidden.bound (unowned comes)
  bottom := by
    rintro inner inner' part t -
    cases part with
    | _ => exact .inr ⟨rfl, fun _ _ _ => trivial⟩

/-- A name that the frames bind hides its value in the namespace.  No closure still to be lowered
may read the name out of sight of the binding, and where the look-up heeds variables only the name
must not be bound as a closure. -/
theorem statement_eq_of_bound {host : Host} {names names' : Namespace} {n : String} {st : Stmt}
    {s : State} (limit : Int) (levels : Nat) (agree : AgreeOff n names names')
    (bound : s.frames.Binds n) (covers : s.frames.Covers n)
    (unowned : ∀ {part t}, Comes host names (.statement st) s part t → part.LooksPast n →
      t.frames.owner? n = none) :
    (descent host limit levels).statement names' st s =
      (descent host limit levels).statement names st s := by
  have follows : (Task.statement st).Follows _ (descent host limit levels)
      (descent host limit (levels + 0)) names names' s :=
    (lockstep_hidden limit agree unowned).follows
      (.inr ⟨rfl, rfl, .here, fun _ => bound, covers⟩)
  rcases follows with ⟨_, _, _, ⟨⟩⟩ | ⟨same, _⟩
  exact same

section Instances

def numbered (value : Int) : Namespace :=
  ("n", .scalar (.int value)) :: Builtin.names

theorem agreeOff_numbered (a b : Int) : AgreeOff "n" (numbered a) (numbered b) := by
  intro id other
  rw [numbered, numbered, Table.get?_cons, Table.get?_cons, if_neg other, if_neg other]

def callOf (callee arg : String) : Expr :=
  .call (.name callee .load) [.name arg .load] []

/-- A loop over `range(n)` that does nothing. -/
def countedLoop : Stmt :=
  .forLoop (.name "i" .store) (callOf "range" "n") [.pass] []

theorem comes_of_countedLoop {s t : State} {part : Task}
    (h : Comes default (numbered 5) (.statement countedLoop) s part t) :
    (part = .statement countedLoop ∧ t = s) ∨ part = .statement .pass := by
  induction h with
  | here => exact .inl ⟨rfl, rfl⟩
  | @step middle u next v _ _ last ih =>
    right
    rcases ih with ⟨rfl, rfl⟩ | rfl
    · generalize whole : Task.statement countedLoop = task at last
      cases last with
      | display shape =>
        cases whole
        rcases shape with shape | shape <;> cases shape
      | value value =>
        cases whole
        cases value
      | nested nested =>
        cases nested with
        | @loop _ _ _ before =>
          simp only [countedLoop, Task.statement.injEq, Stmt.forLoop.injEq] at whole
          refine congrArg Task.statement (List.mem_singleton.1 ?_)
          rw [whole.2.2.1]
          exact List.mem_append_right before List.mem_cons_self
        | _ => cases whole
      | _ => cases whole
    · cases last with
      | value value => cases value
      | nested nested => cases nested

/-- As a variable, `n` is no bound of a range, whatever it is outside. -/
theorem countedLoop_eq_of_bound :
    AgreeOff "n" (numbered 5) (numbered 7) ∧
      (descent default 100 10).statement (numbered 7) countedLoop (.start [.ofNames ["n"]]) =
        (descent default 100 10).statement (numbered 5) countedLoop (.start [.ofNames ["n"]]) := by
  refine ⟨agreeOff_numbered 5 7, statement_eq_of_bound 100 10 (agreeOff_numbered 5 7) ?_ ?_ ?_⟩
  · exact ⟨_, List.mem_cons_self, .inl (by decide)⟩
  · exact (show Frames.Covers "n" [] from trivial).cons_ofNames _
  · intro part t comes past
    rcases comes_of_countedLoop comes with ⟨rfl, rfl⟩ | rfl
    · rfl
    · cases past

def routineOf (formal : String) (result : Expr) : Routine :=
  .ofFunction [⟨.positional, formal, none, none⟩] [.ret (some result)] []

/-- A function of `x` has bound the closures `g y = y + n` and `h n = g n`. -/
def outside : State :=
  .start ((Frames.bindClosure [.ofNames ["x", "g", "h"]] "g"
    (routineOf "y" (.binary .add (.name "y" .load) (.name "n" .load)))).bindClosure "h"
    (routineOf "n" (callOf "g" "n")))

/-- The body of `h` is begun. -/
def inside : State :=
  (outside.withStatus 0 "h" .active).opened (.closure "h") 0
    (frameOf (routineOf "n" (callOf "g" "n")) ["n"])

def leftText : EStateM.Result Fault State (Option Node) → Option String
  | .ok (some node) _ => (node.json? none).toOption
  | _ => none

theorem comes_inside :
    Comes default (numbered 5) (.statement (.ret (some (callOf "h" "x")))) outside
      (.statement (.ret (some (callOf "g" "n")))) inside := by
  have operand : Lowered default (numbered 5) (.exprs [.name "x" .load]) outside [.symbol "x"]
      outside := .cons (.name rfl) .nil
  have call := Comes.step .here rfl
    (@Enters.value default (numbered 5) _ _ outside (.ret (e := callOf "h" "x")))
  have body := call.step rfl (.closure rfl (show _ = some 0 by decide +kernel) operand rfl rfl rfl)
  exact body.step rfl (@Enters.body _ _ [] _ _ _ _ _ .blockNil)

/-- Scopes are lexical.  The call of `g` in the body of `h` is met where `n` is a variable, but `g`
is lowered in the frames it was bound in, and there `n` is the constant. -/
theorem statement_ne_of_read_out_of_sight :
    ∃ st s, Comes default (numbered 5) (.statement (.ret (some (callOf "h" "x")))) outside
        (.statement st) s ∧
      s.frames.Binds "n" ∧ AgreeOff "n" (numbered 5) (numbered 7) ∧
      (descent default 100 10).statement (numbered 7) st s ≠
        (descent default 100 10).statement (numbered 5) st s := by
  refine ⟨_, inside, comes_inside, ⟨_, List.mem_cons_self, .inl (by decide)⟩,
    agreeOff_numbered 5 7, fun same => ?_⟩
  have texts := congrArg leftText same
  revert texts
  decide +kernel

end Instances

end Cascade.Lowering
