import Cascade.Proofs.Lowering.Coupling.Framed
import Cascade.Proofs.Lowering.Outline

set_option autoImplicit false

namespace Cascade

namespace Lowering

open Source

/-- A run and an outline are compared under the aliases that the run has allotted.  The definition
of a closure or lambda expression is no mention of a function. -/
@[reducible]
def spelling : Likeness where
  Stage := Aliases
  Later := Extends
  Similar a n o := Spells a o n
  Made _ _ o := o.formals ≠ .names []
  Named x y := SameName y x
  later_refl := .refl
  later_trans := .trans
  similar_later more spelled := spelled.mono more
  made_later _ own := own
  named_refl _ := .inl rfl
  isLiteral_eq := Spells.isLiteral_eq
  literal _ := .literal
  symbol _ := .symbol
  range _ _ _ := .range
  operation operands := .operation (spellAll_iff.2 operands)
  sequence values := .sequence (spellAll_iff.2 values)
  reference operands := .inner (Option.some_ne_none _).symm (.inl rfl) (spellAll_iff.2 operands)
  inner named own operands := .inner (node_ne_mention own _) named (spellAll_iff.2 operands)
  made _ _ := ofNames_ne_names_nil _
  assign value := .assign value
  branch condition yes no := by
    cases no with
    | none => exact .branch condition (spellAll_iff.2 yes)
    | some no => exact .branchElse condition (spellAll_iff.2 yes) (spellAll_iff.2 no)
  loop iterator body := .loop iterator (spellAll_iff.2 body)
  ret value := by
    cases value with
    | none => exact .ret
    | some value => exact .retValue value

theorem exists_like {α : Type} [Outcome α] (a : Aliases) (n : α) : ∃ o, spelling.Like a n o :=
  Outcome.total (exists_spells a) (fun _ => ⟨⟨"", .marker "", []⟩, nofun⟩) n

structure Plan where
  host : Host
  known : List FunctionId
  levels : Nat

namespace Plan

variable (p : Plan)

def outline? (id : FunctionId) : Option Definition :=
  Lowering.outline? p.host p.known p.levels id

def Closed : Prop :=
  ∀ id ∈ p.known, ∃ o, p.outline? id = some o

def Within (a : Aliases) : Prop :=
  ∀ id name, a.get? id = some name → id ∈ p.known

structure Renders (a : Aliases) (id : FunctionId) (d : Definition) : Prop where
  name : a.get? id = some d.name
  outlined : ∃ o, p.outline? id = some o ∧ Outlines a o d

def Accounts (a b : Aliases) (ds : List Definition) : Prop :=
  ∀ id name, b.get? id = some name →
    a.get? id = some name ∨ ∃ d ∈ ds, p.Renders b id d

structure Paired (s s₀ : State) : Prop where
  frames : s₀.frames = s.frames
  empty : s₀.aliases = []

/-- The outcome of a run which began with the aliases `base` and keeps the definitions `held`,
beside that of an outline. -/
inductive Matches {α : Type} [Outcome α] (held : List Definition) (base : Aliases) :
    Ending α → Ending α → Prop where
  | both {n o t t₀} (paired : Paired t t₀) (more : Extends base t.aliases)
      (like : spelling.Like t.aliases n o) (kept : held ⊆ Outcome.functions n)
      (accounts : p.Within t.aliases → p.Accounts base t.aliases (Outcome.functions n)) :
      Matches held base (.ok n t) (.ok o t₀)
  /-- The run comes to a function that is not known, or fails too. -/
  | stopped {r fault t₀}
      (unknown : ∀ {n t}, r = .ok n t → Extends base t.aliases ∧ ¬ p.Within t.aliases) :
      Matches held base r (.error fault t₀)
  | failed {fault t r₀} (cause : (∃ limit, fault = .depthExceeded limit) ∨ ¬ p.Closed) :
      Matches held base (.error fault t) r₀

def Agree {α : Type} [Outcome α] (x x₀ : Lower α) : Prop :=
  ∀ {s s₀}, Paired s s₀ → p.Matches [] s.aliases (x s) (x₀ s₀)

variable {p}

theorem Within.of_extends {a b : Aliases} (within : p.Within b) (more : Extends a b) :
    p.Within a :=
  fun id name found => within id name (more id name found)

theorem Renders.mono {a b : Aliases} {id : FunctionId} {d : Definition} (h : p.Renders a id d)
    (more : Extends a b) : p.Renders b id d := by
  obtain ⟨name, o, made, formals, body⟩ := h
  exact ⟨more _ _ name, o, made, formals, body.mono more⟩

theorem Accounts.refl (a : Aliases) (ds : List Definition) : p.Accounts a a ds :=
  fun _ _ found => .inl found

theorem Accounts.trans {a b c : Aliases} {ds es : List Definition} (first : p.Accounts a b ds)
    (second : p.Accounts b c es) (more : Extends b c) (sub : ds ⊆ es) : p.Accounts a c es := by
  intro id name found
  rcases second id name found with earlier | later
  · rcases first id name earlier with known | ⟨d, member, renders⟩
    · exact .inl known
    · exact .inr ⟨d, sub member, renders.mono more⟩
  · exact .inr later

theorem Paired.start (s : State) : Paired s (.start s.frames) :=
  ⟨rfl, rfl⟩

theorem Paired.framed {s s₀ : State} (paired : Paired s s₀) (f : Frames → Frames) :
    Paired (s.withFrames (f s.frames)) (s₀.withFrames (f s₀.frames)) :=
  ⟨congrArg f paired.frames, paired.empty⟩

namespace Matches

variable {α β : Type} [Outcome α] [Outcome β] {held : List Definition} {base : Aliases}
  {s s₀ : State}

theorem here {n o : α} (paired : Paired s s₀) (like : spelling.Like s.aliases n o)
    (kept : held ⊆ Outcome.functions n) : p.Matches held s.aliases (.ok n s) (.ok o s₀) :=
  .both paired (.refl _) like kept fun _ => .refl _ _

theorem faults {fault fault₀ : Fault} :
    p.Matches (α := α) held base (.error fault s) (.error fault₀ s₀) :=
  .stopped nofun

theorem grows {r r₀ : Ending α} (h : p.Matches held base r r₀) {n : α} {t : State}
    (ended : r = .ok n t) : Extends base t.aliases := by
  cases h with
  | both paired more =>
    cases ended
    exact more
  | stopped unknown => exact (unknown ended).1
  | failed => cases ended

theorem bind {x x₀ : Lower α} {f f₀ : α → Lower β} (first : p.Matches [] base (x s) (x₀ s₀))
    (next : ∀ {n o t t₀}, x s = .ok n t → Extends base t.aliases → Paired t t₀ →
      spelling.Like t.aliases n o →
      p.Matches (held ++ Outcome.functions n) t.aliases (f n t) (f₀ o t₀)) :
    p.Matches held base ((x >>= f) s) ((x₀ >>= f₀) s₀) := by
  change p.Matches held base (EStateM.bind x f s) (EStateM.bind x₀ f₀ s₀)
  unfold EStateM.bind
  generalize x₀ s₀ = r₀ at first
  generalize ran : x s = r at first
  cases first with
  | @both n o t t₀ paired more like _ accounts =>
    have rest := next ran more paired like
    dsimp only
    generalize f₀ o t₀ = q₀ at rest
    generalize f n t = q at rest
    cases rest with
    | both paired' more' like' kept' accounts' =>
      have sub := List.append_subset.1 kept'
      refine .both paired' (more.trans more') like' sub.1 fun within => ?_
      exact (accounts (within.of_extends more')).trans (accounts' within) more' sub.2
    | stopped unknown =>
      refine .stopped fun ended => ?_
      obtain ⟨more', outside⟩ := unknown ended
      exact ⟨more.trans more', outside⟩
    | failed cause => exact .failed cause
  | stopped unknown =>
    refine .stopped ?_
    cases r with
    | error fault t => exact nofun
    | ok n t =>
      -- The outline has stopped; any other beside the rest of the run shows that aliases are kept.
      obtain ⟨more, outside⟩ := unknown rfl
      obtain ⟨o, like⟩ := exists_like t.aliases n
      intro m u ended
      have more' := (next ran more (.start t) like).grows ended
      exact ⟨more.trans more', fun within => outside (within.of_extends more')⟩
  | failed cause => exact .failed cause

theorem reframe {r r₀ : Ending α} (h : p.Matches held base r r₀) (leave abort : Frames → Frames) :
    p.Matches held base (r.reframe leave abort) (r₀.reframe leave abort) := by
  cases h with
  | both paired more like kept accounts => exact .both (paired.framed leave) more like kept accounts
  | stopped unknown =>
    refine .stopped ?_
    cases r with
    | error fault t => exact nofun
    | ok n t =>
      rintro _ _ ⟨⟩
      exact @unknown n t rfl
  | failed cause => exact .failed cause

end Matches

@[reducible]
def matching (p : Plan) : Coupling where
  toLikeness := spelling
  At a s s₀ := a = s.aliases ∧ Paired s s₀
  Alike _ _ := True
  Ends := p.Matches
  pure := by
    rintro α _ n o held a s s₀ ⟨rfl, paired⟩ like kept
    exact .here paired like kept
  fault _ _ := .faults
  bind first next := first.bind fun ran more paired => next ran more ⟨rfl, paired⟩
  step := by
    rintro α _ r r₀ held a s s₀ t t₀ ⟨rfl, paired⟩ pace next
    cases pace with
    | bound name => exact next (.refl _) ⟨rfl, paired.framed (·.bind name)⟩
    | recorded | closure | lambda => exact next (.refl _) ⟨rfl, paired.frames, paired.empty⟩
  lowerOnce := by
    rintro α _ x x₀ a s s₀ place name ⟨rfl, paired⟩ inner
    exact (inner (.refl _) ⟨rfl, paired.framed (·.setStatus place name .active)⟩).reframe
      (·.setStatus place name .lowered) (·.setStatus place name .pending)
  lambdas _ := .inr ⟨_, _, rfl, rfl⟩
  accepted _ found := formals?_rename found
  refused {r x y cause} _ failed := by
    cases accepted : r.formals? y with
    | error cause' => exact ⟨cause', rfl, id⟩
    | ok formals =>
      rw [formals?_rename accepted] at failed
      cases failed

theorem framed_matching : p.matching.Framed where
  frames here := here.2.frames
  inFrames := by
    rintro α _ x x₀ enter leave a s s₀ ⟨rfl, paired⟩ inner
    have ran := (inner (.refl _) ⟨rfl, paired.framed enter⟩).reframe (leave s.frames) (leave s.frames)
    unfold Lowering.inFrames
    rw [paired.frames] at ran ⊢
    exact ran
  closureBound := by
    rintro a s s₀ id r ⟨rfl, paired⟩
    have bound : Paired (s.closureBound id r) (s₀.closureBound id r) :=
      ⟨congrArg (·.bindClosure id r) paired.frames, paired.empty⟩
    exact .both bound (.refl _) Option.Rel.none (List.nil_subset _) fun _ => .refl _ _

end Plan

end Lowering

end Cascade
