import Cascade.Proofs.Lowering.Coupling.Framed
import Cascade.Proofs.Lowering.Entries
import Cascade.Proofs.Lowering.Uniqueness
import Cascade.Proofs.Source.Results

set_option autoImplicit false

namespace Cascade.Lowering

open Source State

def Asked (host : Host) (request : FunctionId × String) : Prop :=
  ∃ fs names callee, calledBy? host fs names callee = some request

structure Advances (host : Host) (s t : State) : Prop where
  marks : ∃ requests, (∀ request ∈ requests, Asked host request) ∧
    s.aliases.Marks requests t.aliases
  runs : s.functionRuns.reverse = s.aliases → t.functionRuns.reverse = t.aliases

namespace Advances

variable {host : Host} {s t u : State}

theorem refl (host : Host) (s : State) : Advances host s s :=
  ⟨⟨[], List.forall_mem_nil _, .nil⟩, id⟩

theorem trans (first : Advances host s t) (second : Advances host t u) : Advances host s u := by
  obtain ⟨requests, asked, marks⟩ := first.marks
  obtain ⟨more, asked', marks'⟩ := second.marks
  exact ⟨⟨requests ++ more, List.forall_mem_append.2 ⟨asked, asked'⟩, marks.append marks'⟩,
    second.runs ∘ first.runs⟩

/-- The frames, the log of events and the number of lambda expressions have no part in this. -/
theorem of_eq (aliases : t.aliases = s.aliases) (runs : t.functionRuns = s.functionRuns) :
    Advances host s t := by
  refine ⟨⟨[], List.forall_mem_nil _, ?_⟩, ?_⟩
  · rw [aliases]
    exact .nil
  · rw [aliases, runs]
    exact id

theorem of_marked {id : FunctionId} {requested : String} (new : s.aliases.get? id = none)
    (asked : Asked host (id, requested)) :
    Advances host s
      ((s.marked id requested).registered (.function id (s.aliasFor id requested))) :=
  ⟨⟨[(id, requested)], List.forall_mem_singleton.2 asked, .cons new .nil⟩,
    functionRuns_marked new requested⟩

end Advances

/-- The states of two runs differ in the log at most, and the functions that the programs know
different things about are recorded. -/
structure Level (differs : FunctionId → Prop) (s s' : State) : Prop where
  silent : s'.silent = s.silent
  settled : ∀ id, differs id → ∃ name, s.aliases.get? id = some name

namespace Level

variable {differs : FunctionId → Prop} {s s' : State}

theorem update (level : Level differs s s') (F : State → State)
    (quiet : ∀ s, (F s).silent = (F s.silent).silent) (kept : (F s).aliases = s.aliases) :
    Level differs (F s) (F s') :=
  ⟨silent_congr F quiet level.silent, by rw [kept]; exact level.settled⟩

theorem recorded (level : Level differs s s') (event event' : Event) :
    Level differs (s.recorded event) (s'.recorded event') :=
  ⟨level.silent, level.settled⟩

theorem registered (level : Level differs s s') (entry : Entry) :
    Level differs (s.registered entry) (s'.registered entry) :=
  level.update (·.registered entry) (fun _ => rfl) rfl

theorem lambdaNamed (level : Level differs s s') : Level differs s.lambdaNamed s'.lambdaNamed :=
  level.update (·.lambdaNamed) (fun _ => rfl) rfl

end Level

inductive Abreast {α : Type} (differs : FunctionId → Prop) (host : Host) (s : State) :
    Ending α → Ending α → Prop where
  | ok {a t t'} (ahead : Advances host s t) (level : Level differs t t') :
      Abreast differs host s (.ok a t) (.ok a t')
  | error {fault t t'} (ahead : Advances host s t) (silent : t'.silent = t.silent) :
      Abreast differs host s (.error fault t) (.error fault t')

namespace Abreast

variable {α β : Type} {differs : FunctionId → Prop} {host : Host} {s s' t : State}

theorem here {a : α} (level : Level differs s s') :
    Abreast differs host s (.ok a s) (.ok a s') :=
  .ok (.refl host s) level

theorem fault {cause : Fault} (level : Level differs s s') :
    Abreast differs host s (.error cause s : Ending α) (.error cause s') :=
  .error (.refl host s) level.silent

theorem widen {r r' : Ending α} (h : Abreast differs host t r r') (ahead : Advances host s t) :
    Abreast differs host s r r' := by
  cases h with
  | ok ahead' level => exact .ok (ahead.trans ahead') level
  | error ahead' silent => exact .error (ahead.trans ahead') silent

theorem advances {r r' : Ending α} (h : Abreast differs host s r r') :
    Advances host s r.state := by
  cases h with
  | ok ahead _ => exact ahead
  | error ahead _ => exact ahead

theorem bind {x y : Lower α} {f g : α → Lower β} (first : Abreast differs host s (x t) (y s'))
    (next : ∀ {a u u'}, x t = .ok a u → Advances host s u → Level differs u u' →
      Abreast differs host u (f a u) (g a u')) :
    Abreast differs host s ((x >>= f) t) ((y >>= g) s') := by
  change Abreast differs host s (EStateM.bind x f t) (EStateM.bind y g s')
  unfold EStateM.bind
  generalize ran : x t = r at first
  generalize y s' = r' at first
  cases first with
  | ok ahead level => exact (next ran ahead level).widen ahead
  | error ahead silent => exact .error ahead silent

theorem reframe {r r' : Ending α} (h : Abreast differs host s r r') (leave abort : Frames → Frames) :
    Abreast differs host s (r.reframe leave abort) (r'.reframe leave abort) := by
  cases h with
  | ok ahead level =>
    refine .ok ⟨ahead.marks, ahead.runs⟩ ?_
    exact level.update (fun t => t.withFrames (leave t.frames)) (fun _ => rfl) rfl
  | error ahead silent =>
    refine .error ⟨ahead.marks, ahead.runs⟩ ?_
    exact silent_congr (fun t => t.withFrames (abort t.frames)) (fun _ => rfl) silent

end Abreast

structure Tandem (differs : FunctionId → Prop) (host : Host) (below below' : Descent) : Prop where
  sound : Sound host below
  expr : ∀ {s s'} names e, Level differs s s' →
    Abreast differs host s (below.expr names e s) (below'.expr names e s')
  statement : ∀ {s s'} names st, Level differs s s' →
    Abreast differs host s (below.statement names st s) (below'.statement names st s')
  body : ∀ {s s'} names ss, Level differs s s' →
    Abreast differs host s (below.body names ss s) (below'.body names ss s')
  function : ∀ {s s'} id requested, Level differs s s' → s.aliases.get? id = none →
    Asked host (id, requested) →
    Abreast differs host s (below.function id requested s) (below'.function id requested s')

inductive FoundAlike : Except Fault Located → Except Fault Located → Prop where
  | missing {cause} : FoundAlike (.error cause) (.error cause)
  | found {name name' r r'} (alike : r.Alike r') : FoundAlike (.ok ⟨name, r⟩) (.ok ⟨name', r'⟩)

theorem FoundAlike.refl (result : Except Fault Located) : FoundAlike result result := by
  cases result with
  | error cause => exact .missing
  | ok located => exact .found (.refl located.routine)

structure Resembles (host host' : Host) (id : FunctionId) : Prop where
  seen : host'.world.namespaceOf (host'.world.function id) =
    host.world.namespaceOf (host.world.function id)
  found : FoundAlike (host.world.function id).locate? (host'.world.function id).locate?

/-- Two programs in which every callee stands for the same function.  A function that they know
different things about may ask for another alias. -/
structure Variant (differs : FunctionId → Prop) (host host' : Host) : Prop where
  function : ∀ id, ¬ differs id → Resembles host host' id
  calledBy? : ∀ fs names callee,
    calledBy? host' fs names callee = calledBy? host fs names callee ∨
      ∃ id requested requested', differs id ∧
        calledBy? host fs names callee = some (id, requested) ∧
        calledBy? host' fs names callee = some (id, requested')

theorem Variant.refl (host : Host) : Variant (fun _ => False) host host :=
  ⟨fun _ _ => ⟨rfl, .refl _⟩, fun _ _ _ => .inl rfl⟩

@[reducible]
def abreast (differs : FunctionId → Prop) (host : Host) : Coupling :=
  ExactCoupling.coupling
    { Stage := State
      Later := Advances host
      later_refl := .refl host
      later_trans := .trans
      At := fun w s s' => w = s ∧ Level differs s s'
      Alike := fun cause cause' => cause' = cause
      Ends := fun w => Abreast differs host w
      pure := by
        rintro α a w s s' ⟨rfl, level⟩
        exact .here level
      fault := by
        rintro α w s s' cause _ ⟨rfl, level⟩ rfl
        exact .fault level
      bind := fun first next => first.bind fun ran ahead level => next ran ahead ⟨rfl, level⟩
      step := by
        rintro α r r' w s s' t t' ⟨rfl, level⟩ pace next
        have ahead : Advances host w t := by
          cases pace <;> exact .of_eq rfl rfl
        refine (next ahead ⟨rfl, ?_⟩).widen ahead
        cases pace with
        | recorded event => exact level.recorded event event
        | bound name =>
          exact level.update (fun s => s.withFrames (s.frames.bind name)) (fun _ => rfl) rfl
        | closure name => exact level.registered _
        | lambda =>
          rw [lambdas_of_silent level.silent]
          exact level.lambdaNamed.registered _
      lowerOnce := by
        rintro α x y w s s' place name ⟨rfl, level⟩ inner
        have begun := level.update (·.withStatus place name .active) (fun _ => rfl) rfl
        have ahead : Advances host w (w.withStatus place name .active) := .of_eq rfl rfl
        exact ((inner ahead ⟨rfl, begun⟩).widen ahead).reframe (·.setStatus place name .lowered)
          (·.setStatus place name .pending)
      lambdas := fun here => lambdas_of_silent here.2.silent }

section Steps

variable {differs : FunctionId → Prop} {host host' : Host} {below below' : Descent}
  {names : Namespace} {s s' : State}

theorem framed_abreast : (abreast differs host).Framed where
  frames here := frames_of_silent here.2.silent
  inFrames := by
    rintro α _ x y enter leave w s s' ⟨rfl, level⟩ inner
    have same := frames_of_silent level.silent
    have entered : Level differs (w.withFrames (enter w.frames)) (s'.withFrames (enter s'.frames)) :=
      level.update (fun s => s.withFrames (enter s.frames)) (fun _ => rfl) rfl
    have ahead : Advances host w (w.withFrames (enter w.frames)) := .of_eq rfl rfl
    have ran := ((inner ahead ⟨rfl, entered⟩).widen ahead).reframe (leave w.frames) (leave w.frames)
    unfold Lowering.inFrames
    rw [same] at ran ⊢
    exact ran
  closureBound := by
    rintro w s s' id r ⟨rfl, level⟩
    refine .ok (.of_eq rfl rfl) ?_
    exact level.update (·.closureBound id r) (fun _ => rfl) rfl

theorem Tandem.couples (tandem : Tandem differs host below below') {task : Task}
    (own : ∀ id requested, task ≠ .function id requested) (level : Level differs s s') :
    task.Couples (abreast differs host) below below' names names s s s' := by
  cases task with
  | expr e => exact tandem.expr names e level
  | statement st => exact tandem.statement names st level
  | body ss => exact tandem.body names ss level
  | function id requested => exact absurd rfl (own id requested)

theorem exprs_abreast (tandem : Tandem differs host below below') {args : List Expr}
    (level : Level differs s s') :
    Abreast differs host s (exprs below names args s) (exprs below' names args s') :=
  exprs_same (C := abreast differs host) tandem.sound ⟨rfl, level⟩ fun _ _ _ here => by
    obtain ⟨rfl, level⟩ := here
    exact tandem.expr names _ level

theorem callFunction_abreast (tandem : Tandem differs host below below') {id : FunctionId}
    {requested requested' : String} {args : List Expr} (level : Level differs s s')
    (function : ∀ {t t'}, Level differs t t' → t.aliases.get? id = none →
      Abreast differs host t (below.function id requested t) (below'.function id requested' t')) :
    Abreast differs host s (callFunction below names id requested args s)
      (callFunction below' names id requested' args s') := by
  refine callFunction_coupled (C := abreast differs host) (exprs_abreast tandem level) ?_ ?_ ?_
  · intro t t' v here
    rw [aliases_of_silent here.2.silent]
  · rintro v d e ns os rfl same
    rw [List.forall₂_eq_eq_eq] at same
    rw [same]
  · rintro ns t t' v _ new _ ⟨rfl, level⟩
    exact function level new

/-- A function that the programs know different things about is recorded, so its call only refers
to it, whatever alias it asks for. -/
theorem callValue_abreast (variant : Variant differs host host')
    (tandem : Tandem differs host below below') {callee : Expr} {args : List Expr}
    (level : Level differs s s') :
    Abreast differs host s (callValue host below names callee args s)
      (callValue host' below' names callee args s') := by
  refine callValue_coupled (C := abreast differs host) ⟨rfl, level⟩ ?_
  rw [frames_of_silent level.silent]
  rcases variant.calledBy? s.frames names callee with
    same | ⟨id, requested, requested', known, called, called'⟩
  · rw [same]
    cases called : calledBy? host s.frames names callee with
    | none => exact .inl ⟨rfl, rfl, rfl⟩
    | some target =>
      refine .inr ⟨target.1, target.2, target.2, rfl, rfl, callFunction_abreast tandem level ?_⟩
      exact fun level new => tandem.function _ _ level new ⟨_, _, _, called⟩
  · refine .inr ⟨id, requested, requested', called, called', callFunction_abreast tandem level ?_⟩
    intro t t' level new
    obtain ⟨name, recorded⟩ := level.settled id known
    cases new.symm.trans recorded

theorem Tandem.coupled (variant : Variant differs host host')
    (tandem : Tandem differs host below below') {task : Task} (level : Level differs s s') :
    task.Coupled (abreast differs host) host host' below below' names names s s s' := by
  refine framed_abreast.coupled tandem.sound ?_ (fun _ => rfl) ?_ ?_ ⟨rfl, level⟩
  · rintro part t t' v _ own _ ⟨rfl, level⟩
    exact tandem.couples own level
  · rw [frames_of_silent level.silent]
    exact .refl names s.frames task
  · rintro callee args rfl _ _ _
    exact callValue_abreast variant tandem level

theorem block_abreast (tandem : Tandem differs host below below') {ss : List Stmt}
    (level : Level differs s s') :
    Abreast differs host s (block below names ss s) (block below' names ss s') :=
  block_same (C := abreast differs host) tandem.sound ⟨rfl, level⟩ fun _ _ _ here => by
    obtain ⟨rfl, level⟩ := here
    exact tandem.statement names _ level

/-- From where a function is begun on, two programs lower it alike in which it resembles itself. -/
theorem function_abreast (tandem : Tandem differs host below below') {id : FunctionId}
    {requested : String} (resembles : Resembles host host' id)
    (level : Level differs (s.marked id requested) (s'.marked id requested))
    (same : s'.aliasFor id requested = s.aliasFor id requested) :
    Abreast differs host
      ((s.marked id requested).registered (.function id (s.aliasFor id requested)))
      (function host below id requested s) (function host' below' id requested s') := by
  unfold function
  rw [markFunction_bind, markFunction_bind, register_bind, register_bind, record_bind, record_bind,
    same, resembles.seen]
  have level := level.registered (.function id (s.aliasFor id requested))
  generalize (s.marked id requested).registered _ = u at level ⊢
  generalize (s'.marked id requested).registered _ = u' at level ⊢
  have begun := level.recorded
    (.lowering (s.aliasFor id requested) (host.world.function id).qualname)
    (.lowering (s.aliasFor id requested) (host'.world.function id).qualname)
  have logged : Advances host u (u.recorded (.lowering (s.aliasFor id requested)
      (host.world.function id).qualname)) := .of_eq rfl rfl
  refine Abreast.widen ?_ logged
  have found := resembles.found
  generalize (host.world.function id).locate? = result at found
  generalize (host'.world.function id).locate? = result' at found
  cases found with
  | missing => exact .fault begun
  | @found name name' r r' alike =>
    change Abreast differs host _ ((ofExcept (r.formals? _) >>= _) _)
      ((ofExcept (r'.formals? _) >>= _) _)
    rw [alike.formals?_eq]
    cases r.formals? (s.aliasFor id requested) with
    | error cause => exact .fault begun
    | ok formals =>
      change Abreast differs host _ ((inFreshFrame _ _ >>= _) _) ((inFreshFrame _ _ >>= _) _)
      rw [alike.localNames, alike.statements]
      refine .bind (framed_abreast.inFrames ⟨rfl, begun⟩ fun _ here => ?_)
        fun _ _ level => .here level
      obtain ⟨rfl, level⟩ := here
      exact block_abreast tandem level

end Steps

section Descent

variable {differs : FunctionId → Prop} {host host' : Host}

theorem shared_function_abreast (variant : Variant differs host host') {below below' : Descent}
    (tandem : Tandem differs host below below') {id : FunctionId} {requested : String}
    {s s' : State} (level : Level differs s s') (new : s.aliases.get? id = none) :
    Abreast differs host
      ((s.marked id requested).registered (.function id (s.aliasFor id requested)))
      (function host below id requested s) (function host' below' id requested s') := by
  have shared : ¬ differs id := by
    intro known
    obtain ⟨name, recorded⟩ := level.settled id known
    rw [new] at recorded
    cases recorded
  refine function_abreast tandem (variant.function id shared) ⟨?_, fun other known => ?_⟩ ?_
  · exact silent_congr (·.marked id requested) (fun _ => rfl) level.silent
  · obtain ⟨name, recorded⟩ := level.settled other known
    exact ⟨name, (Aliases.Marks.cons new .nil).get?_eq recorded⟩
  · exact aliasFor_of_silent level.silent id requested

theorem tandem_descent (variant : Variant differs host host') (limit : Int) (levels : Nat) :
    Tandem differs host (descent host limit levels) (descent host' limit levels) := by
  induction levels with
  | zero =>
    exact
      { sound := descent_sound host limit 0
        expr := fun _ _ level => .fault level
        statement := fun _ _ level => .fault level
        body := fun _ _ level => .fault level
        function := fun _ _ level _ _ => .fault level }
  | succ levels tandem =>
    exact
      { sound := descent_sound host limit (levels + 1)
        expr := fun _ _ level =>
          expr_same (C := abreast differs host) tandem.sound ⟨rfl, level⟩
            (tandem.coupled variant level)
        statement := fun _ _ level =>
          statement_same (C := abreast differs host) tandem.sound ⟨rfl, level⟩
            (tandem.coupled variant level)
        body := fun _ _ level => block_abreast tandem level
        function := fun _ _ level new asked =>
          (shared_function_abreast variant tandem level new).widen (.of_marked new asked) }

end Descent

end Cascade.Lowering
