import Cascade.Source.Expr
import Mathlib.Tactic.Common

set_option autoImplicit false

namespace Cascade.Source

namespace Clause

def parts {ε : Type} (c : Clause ε) : List ε :=
  c.target :: c.iterator :: c.conditions

end Clause

namespace Expr

/-- The expressions directly below an expression that belong to the scope it stands in, or to a
comprehension there.  Of a lambda expression these are the initial values. -/
def scopeParts : Expr → List Expr
  | name .. | constant _ => []
  | unary _ a | member a _ | yieldFrom a | await a | starred a => [a]
  | binary _ a b | subscript a b | named a b => [a, b]
  | junction _ a es => a :: es
  | compare a _ b cs => a :: b :: cs.map (·.right)
  | call f es ks => f :: (es ++ ks.map (·.value))
  | slice a b c => a.toList ++ (b.toList ++ c.toList)
  | conditional a b c => [a, b, c]
  | lambda ps _ => ps.flatMap (·.initial.toList)
  | tuple es | list es | set es | fstring es => es
  | dict es => es.flatMap fun entry => entry.key.toList ++ [entry.value]
  | comprehension _ a cs => a :: cs.flatMap Clause.parts
  | dictComprehension a b cs => a :: b :: cs.flatMap Clause.parts
  | yield a => a.toList
  | formatted a _ b => a :: b.toList

def isComprehension : Expr → Bool
  | comprehension .. | dictComprehension .. => true
  | _ => false

/-- The expression binds the name in the scope it stands in.  A name that is stored is bound there,
unless this happens `inside` a comprehension; the target of an assignment expression is bound in any
case. -/
inductive Binds (n : String) : Bool → Expr → Prop where
  | name : Binds n false (.name n .store)
  | target {inside target value} (stored : Binds n false target) :
      Binds n inside (.named target value)
  | part {inside e a} (below : a ∈ e.scopeParts) (bound : Binds n (inside || e.isComprehension) a) :
      Binds n inside e

inductive Conceals (n : String) : Expr → Prop where
  | scope {e} (opens : e.opensScope = true) (bound : e.Binds n false) : Conceals n e
  | part {e a} (plain : e.opensScope = false) (below : a ∈ e.scopeParts) (bound : Conceals n a) :
      Conceals n e

section Collect

variable {α : Type} {visit : Expr → List α} {enter : Expr → Bool} {x : α}

theorem mem_collectList {es : List Expr} :
    x ∈ collectList visit enter es ↔ ∃ a ∈ es, x ∈ a.collect visit enter := by
  induction es with
  | nil => simp [collectList]
  | cons e es ih => simp [collectList, ih]

theorem mem_collectOption {e : Option Expr} :
    x ∈ collectOption visit enter e ↔ ∃ a ∈ e.toList, x ∈ a.collect visit enter := by
  cases e <;> simp [collectOption]

theorem mem_collectKeywords {ks : List (Keyword Expr)} :
    x ∈ collectKeywords visit enter ks ↔
      ∃ a ∈ ks.map (·.value), x ∈ a.collect visit enter := by
  induction ks with
  | nil => simp [collectKeywords]
  | cons k ks ih => simp [collectKeywords, ih]

theorem mem_collectComparisons {cs : List (Comparison Expr)} :
    x ∈ collectComparisons visit enter cs ↔
      ∃ a ∈ cs.map (·.right), x ∈ a.collect visit enter := by
  induction cs with
  | nil => simp [collectComparisons]
  | cons c cs ih => simp [collectComparisons, ih]

theorem mem_collectEntries {es : List (Entry Expr)} :
    x ∈ collectEntries visit enter es ↔
      ∃ a ∈ es.flatMap fun entry => entry.key.toList ++ [entry.value],
        x ∈ a.collect visit enter := by
  induction es with
  | nil => simp [collectEntries]
  | cons e es ih =>
    rw [collectEntries, List.mem_append, List.mem_append, mem_collectOption, ih]
    simp only [List.flatMap_cons, List.append_assoc, List.mem_append, List.mem_singleton]
    grind

theorem mem_cond_nil {b : Bool} {xs : List α} :
    x ∈ (bif b then xs else []) ↔ b = true ∧ x ∈ xs := by
  cases b <;> simp

/-- What is found by a walk that enters no scope. -/
theorem mem_collect (stops : ∀ {e}, e.opensScope = true → enter e = false) {e : Expr} :
    x ∈ e.collect visit enter ↔
      x ∈ visit e ∨ enter e = true ∧ ∃ a ∈ e.scopeParts, x ∈ a.collect visit enter := by
  cases e with
  | lambda params body =>
    have shut : enter (lambda params body) = false := stops rfl
    simp [collect, shut]
  | comprehension kind element clauses =>
    have shut : enter (comprehension kind element clauses) = false := stops rfl
    simp [collect, shut]
  | dictComprehension key value clauses =>
    have shut : enter (dictComprehension key value clauses) = false := stops rfl
    simp [collect, shut]
  | _ =>
    simp only [collect, scopeParts, List.mem_append, mem_cond_nil, mem_collectList,
      mem_collectOption, mem_collectKeywords, mem_collectComparisons, mem_collectEntries,
      List.mem_cons, List.not_mem_nil, or_and_right, exists_or, exists_eq_left, false_and,
      exists_false, and_false, or_false]

end Collect

variable {n : String} {e a : Expr}

/-- What the walk finds at an expression: the name itself or, where no scope is opened, what it
finds below. -/
theorem mem_storedNames :
    n ∈ e.storedNames ↔
      e = .name n .store ∨ e.opensScope = false ∧ ∃ a ∈ e.scopeParts, n ∈ a.storedNames := by
  unfold storedNames
  rw [mem_collect fun opens => by rw [opens]; rfl, Bool.not_eq_true']
  refine or_congr_left ?_
  constructor
  · intro found
    split at found
    · rw [List.mem_singleton.1 found]
    · cases found
  · rintro rfl
    exact List.mem_singleton_self n

/-- The parts of a member of a list are smaller than the list. -/
theorem sizeOf_lt_of_mem_flatMap {β : Type} [SizeOf β] {xs : List β} {f : β → List Expr}
    (smaller : ∀ x, a ∈ f x → sizeOf a < sizeOf x) (inside : a ∈ xs.flatMap f) :
    sizeOf a < sizeOf xs := by
  obtain ⟨x, member, inside⟩ := List.mem_flatMap.1 inside
  exact Nat.lt_trans (smaller x inside) (List.sizeOf_lt_of_mem member)

theorem sizeOf_lt_of_mem_map {β : Type} [SizeOf β] {xs : List β} {f : β → Expr}
    (smaller : ∀ x, sizeOf (f x) < sizeOf x) (inside : a ∈ xs.map f) : sizeOf a < sizeOf xs := by
  obtain ⟨x, member, rfl⟩ := List.mem_map.1 inside
  exact Nat.lt_trans (smaller x) (List.sizeOf_lt_of_mem member)

theorem sizeOf_lt_of_mem_toList {o : Option Expr} (inside : a ∈ o.toList) :
    sizeOf a < sizeOf o := by
  cases o with
  | none => cases inside
  | some b => simp_all

theorem sizeOf_lt_of_mem_scopeParts (below : a ∈ e.scopeParts) : sizeOf a < sizeOf e := by
  have list {es : List Expr} : a ∈ es → sizeOf a < sizeOf es := List.sizeOf_lt_of_mem
  have option {o : Option Expr} : a ∈ o.toList → sizeOf a < sizeOf o := sizeOf_lt_of_mem_toList
  have links {cs : List (Comparison Expr)} : a ∈ cs.map (·.right) → sizeOf a < sizeOf cs :=
    sizeOf_lt_of_mem_map fun ⟨_, right⟩ => by simp +arith
  have keywords {ks : List (Keyword Expr)} : a ∈ ks.map (·.value) → sizeOf a < sizeOf ks :=
    sizeOf_lt_of_mem_map fun ⟨_, value⟩ => by simp +arith
  have params {ps : List (Parameter Expr)} :
      a ∈ ps.flatMap (·.initial.toList) → sizeOf a < sizeOf ps :=
    sizeOf_lt_of_mem_flatMap fun ⟨_, _, _, initial⟩ inside => by
      have smaller : sizeOf a < sizeOf initial := option inside
      simp +arith
      omega
  have entries {es : List (Entry Expr)} :
      (a ∈ es.flatMap fun entry => entry.key.toList ++ [entry.value]) → sizeOf a < sizeOf es :=
    sizeOf_lt_of_mem_flatMap fun ⟨key, value⟩ inside => by
      simp only [List.mem_append, List.mem_singleton] at inside
      have smaller : sizeOf a < sizeOf key ∨ a = value := inside.imp_left option
      grind [Entry.mk.sizeOf_spec]
  have clauses {cs : List (Clause Expr)} : a ∈ cs.flatMap Clause.parts → sizeOf a < sizeOf cs :=
    sizeOf_lt_of_mem_flatMap fun ⟨_, target, iterator, conditions⟩ inside => by
      simp only [Clause.parts, List.mem_cons] at inside
      grind [Clause.mk.sizeOf_spec]
  cases e <;> simp only [scopeParts, List.mem_cons, List.mem_append, List.not_mem_nil, or_false]
    at below <;> simp <;> grind

theorem not_conceals_name {id : String} {use : Use} : ¬ (Expr.name id use).Conceals n := by
  rintro (⟨opens, _⟩ | ⟨_, below, _⟩)
  · cases opens
  · cases below

theorem isComprehension_of_opensScope (plain : e.opensScope = false) :
    e.isComprehension = false := by
  cases e with
  | comprehension | dictComprehension => cases plain
  | _ => rfl

theorem binds_of_mem_storedNames : ∀ {e : Expr}, n ∈ e.storedNames → e.Binds n false := by
  intro e found
  rcases mem_storedNames.1 found with rfl | ⟨plain, a, below, found⟩
  · exact .name
  · have smaller := sizeOf_lt_of_mem_scopeParts below
    refine .part below ?_
    rw [isComprehension_of_opensScope plain]
    exact binds_of_mem_storedNames found
termination_by e => sizeOf e

theorem Conceals.binds (h : e.Conceals n) : e.Binds n false := by
  induction h with
  | scope _ bound => exact bound
  | part plain below _ ih =>
    refine .part below ?_
    rw [isComprehension_of_opensScope plain]
    exact ih

/-- What is bound is found by the walk or concealed from it. -/
theorem binds_iff : e.Binds n false ↔ n ∈ e.storedNames ∨ e.Conceals n := by
  constructor
  · intro h
    generalize outside : false = inside at h
    induction h with
    | name => exact .inl (mem_storedNames.2 (.inl rfl))
    | @target _ target value _ ih =>
      have below : target ∈ (Expr.named target value).scopeParts := List.mem_cons_self
      refine (ih rfl).imp (fun found => ?_) (.part rfl below)
      exact mem_storedNames.2 (.inr ⟨rfl, target, below, found⟩)
    | @part inside e a below bound ih =>
      subst outside
      cases opens : e.opensScope with
      | true => exact .inr (.scope opens (.part below bound))
      | false =>
        rw [isComprehension_of_opensScope opens] at ih
        refine (ih rfl).imp (fun found => ?_) (.part opens below)
        exact mem_storedNames.2 (.inr ⟨opens, a, below, found⟩)
  · rintro (found | concealed)
    · exact binds_of_mem_storedNames found
    · exact concealed.binds

def namedTargets : Expr → List Expr
  | named target _ => [target]
  | _ => []

theorem sizeOf_lt_of_mem_namedTargets (named : a ∈ e.namedTargets) : sizeOf a < sizeOf e := by
  unfold namedTargets at named
  split at named
  · exact sizeOf_lt_of_mem_scopeParts (List.mem_of_mem_head? (List.mem_singleton.1 named ▸ rfl))
  · cases named

def ownName (inside : Bool) : Expr → List String
  | name n .store => bif inside then [] else [n]
  | _ => []

def binders (inside : Bool) (e : Expr) : List String :=
  e.ownName inside ++ (e.namedTargets.attach.flatMap fun ⟨a, _⟩ => binders false a) ++
    e.scopeParts.attach.flatMap fun ⟨a, _⟩ => binders (inside || e.isComprehension) a
termination_by sizeOf e
decreasing_by
  · exact sizeOf_lt_of_mem_namedTargets ‹_›
  · exact sizeOf_lt_of_mem_scopeParts ‹_›

theorem mem_binders_iff {inside : Bool} :
    n ∈ e.binders inside ↔ n ∈ e.ownName inside ∨ (∃ a ∈ e.namedTargets, n ∈ a.binders false) ∨
      ∃ a ∈ e.scopeParts, n ∈ a.binders (inside || e.isComprehension) := by
  rw [binders]
  simp

theorem binds_of_mem_binders :
    ∀ {inside : Bool} {e : Expr}, n ∈ e.binders inside → e.Binds n inside := by
  intro inside e found
  rcases mem_binders_iff.1 found with own | ⟨a, named, found⟩ | ⟨a, below, found⟩
  · unfold ownName at own
    split at own
    · cases inside with
      | false =>
        rw [List.mem_singleton.1 own]
        exact .name
      | true => cases own
    · cases own
  · have smaller := sizeOf_lt_of_mem_namedTargets named
    have bound := binds_of_mem_binders found
    unfold namedTargets at named
    split at named
    · rw [List.mem_singleton.1 named] at bound
      exact .target bound
    · cases named
  · have smaller := sizeOf_lt_of_mem_scopeParts below
    exact .part below (binds_of_mem_binders found)
termination_by _ e => sizeOf e

theorem mem_binders {inside : Bool} : n ∈ e.binders inside ↔ e.Binds n inside := by
  constructor
  · exact binds_of_mem_binders
  · intro h
    induction h with
    | name => exact mem_binders_iff.2 (.inl (List.mem_singleton_self n))
    | target _ ih => exact mem_binders_iff.2 (.inr (.inl ⟨_, List.mem_singleton_self _, ih⟩))
    | part below _ ih => exact mem_binders_iff.2 (.inr (.inr ⟨_, below, ih⟩))

end Expr

end Cascade.Source
