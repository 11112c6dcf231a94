import Cascade.Proofs.Lowering.Derivation
import Cascade.Proofs.Node.Functions
import Cascade.Proofs.Table
import Mathlib.Data.List.Forall2

set_option autoImplicit false

/-!
# The outline of a function

The outline of a function is its lowering with the functions it calls only named, by what they are
and not by an alias.  No alias is allotted on the way, so an outline depends on nothing that was
lowered before.  `Spells aliases o n` says that the node `n` is the node `o` of an outline once each
function is called by its alias; the definitions of calls and the numbers of lambda expressions are
left out of account.
-/
namespace Cascade

namespace Lowering

open Source

/-- The name of a function in the place of its definition.  A definition never has an empty list of
formal arguments, so it is not taken for a mention. -/
def mention (id : FunctionId) : Definition :=
  ⟨id, .names [], []⟩

theorem node_ne_mention {d : Definition} (own : d.formals ≠ .names []) (id : FunctionId) :
    some d.node ≠ some (mention id).node := by
  intro same
  apply own
  cases d
  cases same
  rfl

def nameKnown (known : List FunctionId) (id : FunctionId) : Lower Definition :=
  if id ∈ known then pure (mention id) else throw (.unknownOperator id)

def sketch (host : Host) (known : List FunctionId) : Nat → Descent
  | 0 =>
    { expr := fun _ _ => throw (.depthExceeded 0)
      statement := fun _ _ => throw (.depthExceeded 0)
      body := fun _ _ => throw (.depthExceeded 0)
      function := fun id _ => nameKnown known id }
  | levels + 1 =>
    { expr := fun names e => expr host (sketch host known levels) names e
      statement := fun names s => statement (sketch host known levels) names s
      body := fun names ss => block (sketch host known levels) names ss
      function := fun id _ => nameKnown known id }

theorem sketch_function (host : Host) (known : List FunctionId) (levels : Nat) (id : FunctionId)
    (requested : String) :
    (sketch host known levels).function id requested = nameKnown known id := by
  cases levels <;> rfl

def outline? (host : Host) (known : List FunctionId) (levels : Nat) (id : FunctionId) :
    Option Definition :=
  let f := host.world.function id
  match f.locate? with
  | .error _ => none
  | .ok located =>
    match located.routine.formals? id with
    | .error _ => none
    | .ok formals =>
      match block (sketch host known levels) (host.world.namespaceOf f) located.routine.statements
          (.start [frameOf located.routine formals]) with
      | .ok body _ => some ⟨id, Formals.ofNames formals, body⟩
      | .error .. => none

theorem outline?_eq_some {host : Host} {known : List FunctionId} {levels : Nat} {id : FunctionId}
    {o : Definition} :
    outline? host known levels id = some o ↔
      ∃ located formals body t, (host.world.function id).locate? = .ok located ∧
        located.routine.formals? id = .ok formals ∧
        block (sketch host known levels) (host.world.namespaceOf (host.world.function id))
          located.routine.statements (.start [frameOf located.routine formals]) = .ok body t ∧
        ⟨id, Formals.ofNames formals, body⟩ = o := by
  unfold outline?
  constructor
  · intro made
    dsimp only at made
    split at made
    · cases made
    · split at made
      · cases made
      · split at made
        · exact ⟨_, _, _, _, ‹_›, ‹_›, ‹_›, Option.some.inj made⟩
        · cases made
  · rintro ⟨located, formals, body, t, found, accepted, ran, rfl⟩
    simp only [found, accepted, ran]

theorem formals?_rename {r : Routine} {x y : String} {formals : List String}
    (accepted : r.formals? x = .ok formals) : r.formals? y = .ok formals := by
  unfold Routine.formals? at accepted ⊢
  split at accepted
  · cases accepted
  · split at accepted
    · cases accepted
    · rwa [if_neg ‹_›, if_neg ‹_›]

theorem outline?_eq_some_iff_body {host : Host} {known : List FunctionId} {levels : Nat}
    {id : FunctionId} {located : Located} {name : String} {formals : List String} {o : Definition}
    (found : (host.world.function id).locate? = .ok located)
    (accepted : located.routine.formals? name = .ok formals) :
    outline? host known levels id = some o ↔
      ∃ body t, block (sketch host known levels)
          (host.world.namespaceOf (host.world.function id)) located.routine.statements
          (.start [frameOf located.routine formals]) = .ok body t ∧
        ⟨id, Formals.ofNames formals, body⟩ = o := by
  rw [outline?_eq_some]
  constructor
  · rintro ⟨_, _, body, t, found', accepted', ran, rfl⟩
    rw [found] at found'
    cases found'
    rw [formals?_rename accepted] at accepted'
    cases accepted'
    exact ⟨body, t, ran, rfl⟩
  · rintro ⟨body, t, ran, rfl⟩
    exact ⟨located, formals, body, t, found, formals?_rename accepted, ran, rfl⟩

/-- Names that are equal up to the numbers of lambda expressions. -/
def SameName (x y : String) : Prop :=
  x = y ∨ ∃ m n, x = lambdaAlias m ∧ y = lambdaAlias n

mutual

inductive Spells (aliases : Aliases) : Node → Node → Prop where
  | literal {value} : Spells aliases (.literal value) (.literal value)
  | symbol {name} : Spells aliases (.symbol name) (.symbol name)
  | operation {op fixity os ns} (operands : SpellAll aliases os ns) :
      Spells aliases (.operation op fixity os) (.operation op fixity ns)
  | function {x y formals os ns} (name : SameName x y) (body : SpellAll aliases os ns) :
      Spells aliases (.function x formals os) (.function y formals ns)
  | user {id callee os ns definition} (found : aliases.get? id = some callee)
      (operands : SpellAll aliases os ns) :
      Spells aliases (.call id os (some (mention id).node)) (.call callee ns definition)
  | inner {x y os ns sketched definition} (own : sketched ≠ some (mention x).node)
      (name : SameName x y) (operands : SpellAll aliases os ns) :
      Spells aliases (.call x os sketched) (.call y ns definition)
  | assign {name o n} (value : Spells aliases o n) :
      Spells aliases (.assign name o) (.assign name n)
  | branch {o n os ns} (condition : Spells aliases o n) (body : SpellAll aliases os ns) :
      Spells aliases (.branch o os none) (.branch n ns none)
  | branchElse {o n os ns os' ns'} (condition : Spells aliases o n) (body : SpellAll aliases os ns)
      (orelse : SpellAll aliases os' ns') :
      Spells aliases (.branch o os (some os')) (.branch n ns (some ns'))
  | otherwise {os ns} (body : SpellAll aliases os ns) :
      Spells aliases (.otherwise os) (.otherwise ns)
  | loop {name o n os ns} (iterator : Spells aliases o n) (body : SpellAll aliases os ns) :
      Spells aliases (.loop name o os) (.loop name n ns)
  | ret : Spells aliases (.ret none) (.ret none)
  | retValue {o n} (value : Spells aliases o n) : Spells aliases (.ret (some o)) (.ret (some n))
  | range {start stop step} : Spells aliases (.range start stop step) (.range start stop step)
  | sequence {os ns} (values : SpellAll aliases os ns) :
      Spells aliases (.sequence os) (.sequence ns)

inductive SpellAll (aliases : Aliases) : List Node → List Node → Prop where
  | nil : SpellAll aliases [] []
  | cons {o n os ns} (head : Spells aliases o n) (tail : SpellAll aliases os ns) :
      SpellAll aliases (o :: os) (n :: ns)

end

structure Outlines (aliases : Aliases) (o d : Definition) : Prop where
  formals : d.formals = o.formals
  body : SpellAll aliases o.body d.body

def Extends (a b : Aliases) : Prop :=
  ∀ id name, a.get? id = some name → b.get? id = some name

variable {a b c : Aliases} {o n : Node} {os ns : List Node}

theorem Extends.refl (a : Aliases) : Extends a a :=
  fun _ _ found => found

theorem Extends.trans (first : Extends a b) (second : Extends b c) : Extends a c :=
  fun id name found => second id name (first id name found)

theorem Extends.marked {s : State} {id : FunctionId} {requested : String}
    (new : s.aliases.get? id = none) : Extends s.aliases (s.marked id requested).aliases := by
  intro other name found
  change Table.get? (Table.set s.aliases id _) other = some name
  rw [Table.get?_set, if_neg, found]
  rintro rfl
  rw [new] at found
  cases found

mutual

theorem Spells.mono (more : Extends a b) {o n : Node} : Spells a o n → Spells b o n
  | .literal => .literal
  | .symbol => .symbol
  | .operation operands => .operation (operands.mono more)
  | .function name body => .function name (body.mono more)
  | .user found operands => .user (more _ _ found) (operands.mono more)
  | .inner own name operands => .inner own name (operands.mono more)
  | .assign value => .assign (value.mono more)
  | .branch condition body => .branch (condition.mono more) (body.mono more)
  | .branchElse condition body orelse =>
    .branchElse (condition.mono more) (body.mono more) (orelse.mono more)
  | .otherwise body => .otherwise (body.mono more)
  | .loop iterator body => .loop (iterator.mono more) (body.mono more)
  | .ret => .ret
  | .retValue value => .retValue (value.mono more)
  | .range => .range
  | .sequence values => .sequence (values.mono more)

theorem SpellAll.mono (more : Extends a b) {os ns : List Node} : SpellAll a os ns → SpellAll b os ns
  | .nil => .nil
  | .cons head tail => .cons (head.mono more) (tail.mono more)

end

mutual

theorem exists_spells (a : Aliases) (n : Node) : ∃ o, Spells a o n := by
  cases n with
  | literal value => exact ⟨_, .literal⟩
  | symbol name => exact ⟨_, .symbol⟩
  | operation op fixity operands =>
    obtain ⟨_, spelled⟩ := exists_spellAll a operands
    exact ⟨_, .operation spelled⟩
  | function name formals body =>
    obtain ⟨_, spelled⟩ := exists_spellAll a body
    exact ⟨_, .function (.inl rfl) spelled⟩
  | call callee operands definition =>
    obtain ⟨_, spelled⟩ := exists_spellAll a operands
    exact ⟨.call callee _ none, .inner nofun (.inl rfl) spelled⟩
  | assign name value =>
    obtain ⟨_, spelled⟩ := exists_spells a value
    exact ⟨_, .assign spelled⟩
  | branch condition body orelse =>
    obtain ⟨_, first⟩ := exists_spells a condition
    obtain ⟨_, yes⟩ := exists_spellAll a body
    cases orelse with
    | none => exact ⟨_, .branch first yes⟩
    | some orelse =>
      obtain ⟨_, no⟩ := exists_spellAll a orelse
      exact ⟨_, .branchElse first yes no⟩
  | otherwise body =>
    obtain ⟨_, spelled⟩ := exists_spellAll a body
    exact ⟨_, .otherwise spelled⟩
  | loop name iterator body =>
    obtain ⟨_, first⟩ := exists_spells a iterator
    obtain ⟨_, steps⟩ := exists_spellAll a body
    exact ⟨_, .loop first steps⟩
  | ret value =>
    cases value with
    | none => exact ⟨_, .ret⟩
    | some value =>
      obtain ⟨_, spelled⟩ := exists_spells a value
      exact ⟨_, .retValue spelled⟩
  | range start stop step => exact ⟨_, .range⟩
  | sequence values =>
    obtain ⟨_, spelled⟩ := exists_spellAll a values
    exact ⟨_, .sequence spelled⟩

theorem exists_spellAll (a : Aliases) (ns : List Node) : ∃ os, SpellAll a os ns := by
  cases ns with
  | nil => exact ⟨_, .nil⟩
  | cons n ns =>
    obtain ⟨_, head⟩ := exists_spells a n
    obtain ⟨_, tail⟩ := exists_spellAll a ns
    exact ⟨_, .cons head tail⟩

end

theorem Spells.isLiteral_eq (h : Spells a o n) : o.isLiteral = n.isLiteral := by
  cases h <;> rfl

theorem spellAll_iff {a : Aliases} {os ns : List Node} :
    SpellAll a os ns ↔ List.Forall₂ (fun n o => Spells a o n) ns os := by
  constructor
  · intro spelled
    induction ns generalizing os with
    | nil =>
      cases spelled
      exact .nil
    | cons n ns ih =>
      cases spelled with
      | cons head tail => exact .cons head (ih tail)
  · intro spelled
    induction spelled with
    | nil => exact .nil
    | cons head _ tail => exact .cons head tail

theorem ofNames_ne_names_nil (formals : List String) : Formals.ofNames formals ≠ .names [] := by
  cases formals <;> exact nofun

end Lowering

end Cascade
