import Cascade.Source.Routine

set_option autoImplicit false

/-!
# Bindings of closures along paths

A path through statements takes either branch of a condition and any number of turns of a loop; a
return ends it.  It is recorded as the closures that it binds, in order.  Which binding of a name is
the latest one on some path to a spot is computed by `Spot.reaching`, exactly.
-/
namespace Cascade.Source

/-- A nested function or an assigned lambda expression, numbered in the order of the text. -/
structure Binding where
  number : Nat
  name : String
  routine : Routine

def Stmt.closure? : Stmt → Option (String × Routine)
  | function name params body decorators _ => some (name, .ofFunction params body decorators)
  | assign [.name id _] (.lambda params body) => some (id, .ofLambda params body)
  | annAssign (.name id _) _ (some (.lambda params body)) _ => some (id, .ofLambda params body)
  | _ => none

namespace Stmt

mutual

def bindings (k : Nat) : Stmt → List Binding
  | branch _ body orelse =>
    bindingsList k body ++ bindingsList (k + (bindingsList k body).length) orelse
  | forLoop _ _ body _ => bindingsList k body
  | st => st.closure?.toList.map fun (name, routine) => ⟨k, name, routine⟩

def bindingsList (k : Nat) : List Stmt → List Binding
  | [] => []
  | st :: ss => bindings k st ++ bindingsList (k + (bindings k st).length) ss

end

mutual

/-- A statement can be passed on a path that binds `p`. -/
def Passes (k : Nat) : Stmt → List Binding → Prop
  | branch _ body orelse, p =>
    PassesList k body p ∨ PassesList (k + (bindingsList k body).length) orelse p
  | forLoop _ _ body _, p =>
    ∃ turns : List (List Binding), (∀ q ∈ turns, PassesList k body q) ∧ p = turns.flatten
  | ret _, _ => False
  | st, p => p = st.bindings k

def PassesList (k : Nat) : List Stmt → List Binding → Prop
  | [], p => p = []
  | st :: ss, p =>
    ∃ q r, Passes k st q ∧ PassesList (k + (bindings k st).length) ss r ∧ p = q ++ r

end

end Stmt

def latest (name : String) (p : List Binding) : Option Binding :=
  (p.filter (·.name = name)).getLast?

theorem latest_append (name : String) (p q : List Binding) :
    latest name (p ++ q) = (latest name q).or (latest name p) := by
  unfold latest
  rw [List.filter_append, List.getLast?_append]

def following (xs ys : List (Option Binding)) : List (Option Binding) :=
  xs.flatMap fun x => ys.map fun y => y.or x

theorem mem_following {xs ys : List (Option Binding)} {o : Option Binding} :
    o ∈ following xs ys ↔ ∃ x ∈ xs, ∃ y ∈ ys, y.or x = o := by
  simp [following]

namespace Stmt

mutual

def outcomes (name : String) (k : Nat) : Stmt → List (Option Binding)
  | branch _ body orelse =>
    outcomesList name k body ++ outcomesList name (k + (bindingsList k body).length) orelse
  | forLoop _ _ body _ => none :: outcomesList name k body
  | ret _ => []
  | st => [latest name (st.bindings k)]

def outcomesList (name : String) (k : Nat) : List Stmt → List (Option Binding)
  | [] => [none]
  | st :: ss =>
    following (outcomes name k st) (outcomesList name (k + (bindings k st).length) ss)

end

end Stmt

/-- Among the turns of a loop, the latest binding is that of one turn, or there is none. -/
theorem latest_flatten (name : String) (turns : List (List Binding)) :
    latest name turns.flatten = none ∨ ∃ q ∈ turns, latest name turns.flatten = latest name q := by
  induction turns with
  | nil => exact .inl rfl
  | cons q turns ih =>
    rw [List.flatten_cons, latest_append]
    rcases ih with absent | ⟨q', inside, same⟩
    · rw [absent]
      exact .inr ⟨q, List.mem_cons_self, rfl⟩
    · rw [same]
      cases found : latest name q' with
      | none => exact .inr ⟨q, List.mem_cons_self, rfl⟩
      | some b => exact .inr ⟨q', List.mem_cons_of_mem _ inside, found.symm⟩

section Exact

open Stmt

variable {name : String}

theorem mem_following_iff {P Q : List Binding → Prop} {xs ys : List (Option Binding)}
    (first : ∀ {o}, o ∈ xs ↔ ∃ p, P p ∧ latest name p = o)
    (second : ∀ {o}, o ∈ ys ↔ ∃ p, Q p ∧ latest name p = o) {o : Option Binding} :
    o ∈ following xs ys ↔ ∃ p, (∃ q r, P q ∧ Q r ∧ p = q ++ r) ∧ latest name p = o := by
  rw [mem_following]
  constructor
  · rintro ⟨x, inX, y, inY, rfl⟩
    obtain ⟨q, passed, rfl⟩ := first.1 inX
    obtain ⟨r, passed', rfl⟩ := second.1 inY
    exact ⟨q ++ r, ⟨q, r, passed, passed', rfl⟩, latest_append name q r⟩
  · rintro ⟨p, ⟨q, r, passed, passed', rfl⟩, rfl⟩
    exact ⟨_, first.2 ⟨q, passed, rfl⟩, _, second.2 ⟨r, passed', rfl⟩,
      (latest_append name q r).symm⟩

theorem mem_turns_iff {P : List Binding → Prop} {xs : List (Option Binding)}
    (each : ∀ {o}, o ∈ xs ↔ ∃ p, P p ∧ latest name p = o) {o : Option Binding} :
    o ∈ none :: xs ↔ ∃ p, (∃ turns : List (List Binding), (∀ q ∈ turns, P q) ∧ p = turns.flatten) ∧
      latest name p = o := by
  rw [List.mem_cons]
  constructor
  · rintro (rfl | inside)
    · exact ⟨[], ⟨[], nofun, rfl⟩, rfl⟩
    · obtain ⟨q, passed, rfl⟩ := each.1 inside
      refine ⟨q, ⟨[q], fun q' inside => ?_, (List.append_nil q).symm⟩, rfl⟩
      rw [List.mem_singleton.1 inside]
      exact passed
  · rintro ⟨p, ⟨turns, passed, rfl⟩, rfl⟩
    rcases latest_flatten name turns with absent | ⟨q, inside, same⟩
    · exact .inl absent
    · rw [same]
      exact .inr (each.2 ⟨q, passed q inside, rfl⟩)

theorem mem_straight_iff {b : List Binding} {o : Option Binding} :
    o ∈ [latest name b] ↔ ∃ p, p = b ∧ latest name p = o := by
  rw [List.mem_singleton]
  constructor
  · rintro rfl
    exact ⟨b, rfl, rfl⟩
  · rintro ⟨p, rfl, rfl⟩
    rfl

mutual

theorem mem_outcomes {k : Nat} {o : Option Binding} : ∀ {st : Stmt},
    o ∈ st.outcomes name k ↔ ∃ p, st.Passes k p ∧ latest name p = o
  | .branch test body orelse => by
    unfold outcomes Passes
    rw [List.mem_append, mem_outcomesList, mem_outcomesList]
    simp only [or_and_right, exists_or]
  | .forLoop target source body orelse => mem_turns_iff mem_outcomesList
  | .ret value => ⟨nofun, fun ⟨_, never, _⟩ => never.elim⟩
  | .function .. | .asyncFunction .. | .classDef .. | .assign .. | .augAssign .. | .annAssign ..
  | .whileLoop .. | .expr .. | .pass | .refused .. => mem_straight_iff

theorem mem_outcomesList {k : Nat} {o : Option Binding} : ∀ {ss : List Stmt},
    o ∈ outcomesList name k ss ↔ ∃ p, PassesList k ss p ∧ latest name p = o
  | [] => mem_straight_iff (b := [])
  | _ :: _ => mem_following_iff mem_outcomes mem_outcomesList

end

end Exact

inductive Spot where
  | first
  | next (rest : Spot)
  | yes (inner : Spot)
  | no (inner : Spot)
  | turn (inner : Spot)

namespace Spot

open Stmt

def before (k : Nat) : Spot → List Stmt → List Binding
  | next rest, st :: ss => st.bindings k ++ rest.before (k + (st.bindings k).length) ss
  | yes inner, .branch _ body _ :: _ => inner.before k body
  | no inner, .branch _ body orelse :: _ =>
    bindingsList k body ++ inner.before (k + (bindingsList k body).length) orelse
  | turn inner, .forLoop _ _ body _ :: _ => inner.before k body
  | _, _ => []

def Leads (k : Nat) : Spot → List Stmt → List Binding → Prop
  | first, _ :: _, p => p = []
  | next rest, st :: ss, p =>
    ∃ q r, st.Passes k q ∧ rest.Leads (k + (st.bindings k).length) ss r ∧ p = q ++ r
  | yes inner, .branch _ body _ :: _, p => inner.Leads k body p
  | no inner, .branch _ body orelse :: _, p =>
    inner.Leads (k + (bindingsList k body).length) orelse p
  | turn inner, .forLoop _ _ body _ :: _, p =>
    ∃ q r, (∃ turns : List (List Binding), (∀ q ∈ turns, PassesList k body q) ∧ q = turns.flatten) ∧
      inner.Leads k body r ∧ p = q ++ r
  | _, _, _ => False

def reaching (name : String) (k : Nat) : Spot → List Stmt → List (Option Binding)
  | first, _ :: _ => [none]
  | next rest, st :: ss =>
    following (st.outcomes name k) (rest.reaching name (k + (st.bindings k).length) ss)
  | yes inner, .branch _ body _ :: _ => inner.reaching name k body
  | no inner, .branch _ body orelse :: _ =>
    inner.reaching name (k + (bindingsList k body).length) orelse
  | turn inner, .forLoop _ _ body _ :: _ =>
    following (none :: outcomesList name k body) (inner.reaching name k body)
  | _, _ => []

theorem mem_reaching {name : String} {k : Nat} {o : Option Binding} {spot : Spot}
    {ss : List Stmt} :
    o ∈ spot.reaching name k ss ↔ ∃ p, spot.Leads k ss p ∧ latest name p = o := by
  induction spot generalizing k ss o with
  | first =>
    cases ss with
    | nil => exact ⟨nofun, fun ⟨_, never, _⟩ => never.elim⟩
    | cons st ss => exact mem_straight_iff (b := [])
  | next rest ih =>
    cases ss with
    | nil => exact ⟨nofun, fun ⟨_, never, _⟩ => never.elim⟩
    | cons st ss => exact mem_following_iff mem_outcomes ih
  | yes inner ih | no inner ih =>
    cases ss with
    | nil => exact ⟨nofun, fun ⟨_, never, _⟩ => never.elim⟩
    | cons st ss =>
      cases st with
      | branch test body orelse => exact ih
      | _ => exact ⟨nofun, fun ⟨_, never, _⟩ => never.elim⟩
  | turn inner ih =>
    cases ss with
    | nil => exact ⟨nofun, fun ⟨_, never, _⟩ => never.elim⟩
    | cons st ss =>
      cases st with
      | forLoop target source body orelse =>
        exact mem_following_iff (mem_turns_iff mem_outcomesList) ih
      | _ => exact ⟨nofun, fun ⟨_, never, _⟩ => never.elim⟩

end Spot

end Cascade.Source
