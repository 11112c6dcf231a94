import Cascade.Program
import Cascade.Proofs.Table
import Mathlib.Data.List.Forall2
import Mathlib.Data.Option.Basic

set_option autoImplicit false

namespace Cascade

def Table.Related {α β : Type} (related : α → β → Prop) : Table α → Table β → Prop :=
  List.Forall₂ fun entry entry' => entry.1 = entry'.1 ∧ related entry.2 entry'.2

namespace Table.Related

variable {α β : Type} {related : α → β → Prop} {t u : Table α} {t' u' : Table β}

theorem get? (same : Related related t t') (key : String) :
    (t.get? key = none ∧ t'.get? key = none) ∨
      ∃ a b, t.get? key = some a ∧ t'.get? key = some b ∧ related a b := by
  induction same with
  | nil => exact .inl ⟨rfl, rfl⟩
  | @cons entry entry' t t' head _ ih =>
    obtain ⟨k, v⟩ := entry
    obtain ⟨k', v'⟩ := entry'
    obtain ⟨rfl, values⟩ := head
    rw [Table.get?_cons, Table.get?_cons]
    split
    · exact .inr ⟨v, v', rfl, rfl, values⟩
    · exact ih

/-- A question that related values answer alike is answered alike under every key. -/
theorem bind_get? {γ : Type} {ask : α → Option γ} {ask' : β → Option γ}
    (same : Related related t t') (alike : ∀ a b, related a b → ask' b = ask a) (key : String) :
    (t'.get? key).bind ask' = (t.get? key).bind ask := by
  rcases same.get? key with ⟨before, after⟩ | ⟨a, b, before, after, values⟩
  · rw [before, after]
    rfl
  · rw [before, after]
    exact alike a b values

theorem append (first : Related related t t') (second : Related related u u') :
    Related related (t ++ u) (t' ++ u') :=
  List.rel_append first second

theorem refl {related : α → α → Prop} (all : ∀ a, related a a) (t : Table α) :
    Related related t t :=
  List.forall₂_same.2 fun entry _ => ⟨rfl, all entry.2⟩

end Table.Related

/-- A value, and the same value with functions in it marked.  A lambda expression is not marked: it
goes by the name it is called by. -/
inductive Value.Marks (w : World) : Value → Value → Prop where
  | same (v : Value) : Marks w v v
  | function (id : FunctionId) (named : (w.function id).name ≠ lambdaName) :
      Marks w (.function id) (.marked id none)
  | list {items items' : List Value} (each : List.Forall₂ (Marks w) items items') :
      Marks w (.list items) (.list items')
  | tuple {items items' : List Value} (each : List.Forall₂ (Marks w) items items') :
      Marks w (.tuple items) (.tuple items')

structure Function.Marks (w : World) (f f' : Function) : Prop where
  rest : f' = { f with cells := f'.cells }
  cells : Table.Related (Option.Rel (Value.Marks w)) f.cells f'.cells

structure Module.Marks (w : World) (m m' : Module) : Prop where
  origin : m'.origin = m.origin
  globals : Table.Related (Value.Marks w) m.globals m'.globals

structure Host.Marks (h h' : Host) : Prop where
  settings : h'.settings = h.settings
  modules : Table.Related (Module.Marks h.world) h.world.modules h'.world.modules
  functions : Table.Related (Function.Marks h.world) h.world.functions h'.world.functions

namespace Value.Marks

variable {w : World} {v v' : Value}

theorem primitive? (marks : v.Marks w v') : v'.primitive? = v.primitive? := by
  cases marks <;> rfl

theorem int? (marks : v.Marks w v') : v'.int? = v.int? := by
  cases marks <;> rfl

theorem mapM_primitive? {items items' : List Value} (each : List.Forall₂ (Marks w) items items') :
    items'.mapM Value.primitive? = items.mapM Value.primitive? := by
  induction each with
  | nil => rfl
  | cons head _ ih => rw [List.mapM_cons, List.mapM_cons, head.primitive?, ih]

theorem primitives? (marks : v.Marks w v') : v'.primitives? = v.primitives? := by
  cases marks with
  | same => rfl
  | function => rfl
  | list each => exact mapM_primitive? each
  | tuple each => exact mapM_primitive? each

end Value.Marks

namespace Host.Marks

variable {h h' : Host}

theorem function (marks : h.Marks h') (id : FunctionId) :
    (h.world.function id).Marks h.world (h'.world.function id) := by
  unfold World.function
  rcases marks.functions.get? id with ⟨before, after⟩ | ⟨f, f', before, after, same⟩
  · rw [before, after]
    exact ⟨rfl, .nil⟩
  · rw [before, after]
    exact same

theorem name (marks : h.Marks h') (id : FunctionId) :
    (h'.world.function id).name = (h.world.function id).name := by
  rw [(marks.function id).rest]

theorem qualname (marks : h.Marks h') (id : FunctionId) :
    (h'.world.function id).qualname = (h.world.function id).qualname := by
  rw [(marks.function id).rest]

theorem moduleNames (marks : h.Marks h') (name : String) :
    Table.Related (Value.Marks h.world) (h.world.moduleNames name) (h'.world.moduleNames name) := by
  unfold World.moduleNames
  refine .append ?_ (.refl .same _)
  rcases marks.modules.get? name with ⟨before, after⟩ | ⟨m, m', before, after, same⟩
  · rw [before, after]
    exact .nil
  · rw [before, after]
    exact same.globals

theorem contains_modules (marks : h.Marks h') (name : String) :
    h'.world.modules.contains name = h.world.modules.contains name := by
  unfold Table.contains
  rcases marks.modules.get? name with ⟨before, after⟩ | ⟨m, m', before, after, _⟩
  · rw [before, after]
  · rw [before, after]
    rfl

theorem member? (marks : h.Marks h') (moduleName attr : String) :
    (h.world.member? moduleName attr = none ∧ h'.world.member? moduleName attr = none) ∨
      ∃ v v', h.world.member? moduleName attr = some v ∧
        h'.world.member? moduleName attr = some v' ∧ v.Marks h.world v' := by
  unfold World.member?
  rw [marks.contains_modules]
  split
  · exact (marks.moduleNames moduleName).get? attr
  · exact .inl ⟨rfl, rfl⟩

theorem cells {w : World} {cells cells' : Table (Option Value)}
    (same : Table.Related (Option.Rel (Value.Marks w)) cells cells') :
    Table.Related (Value.Marks w) (cells.filterMap fun (name, value) => value.map (name, ·))
      (cells'.filterMap fun (name, value) => value.map (name, ·)) := by
  induction same with
  | nil => exact .nil
  | @cons entry entry' cells cells' head _ ih =>
    obtain ⟨name, value⟩ := entry
    obtain ⟨name', value'⟩ := entry'
    obtain ⟨rfl, values⟩ := head
    cases values with
    | none => exact ih
    | some marks => exact .cons ⟨rfl, marks⟩ ih

/-- The names that a function sees stand for the same values, some of them marked. -/
theorem namespaceOf (marks : h.Marks h') (id : FunctionId) :
    Table.Related (Value.Marks h.world) (h.world.namespaceOf (h.world.function id))
      (h'.world.namespaceOf (h'.world.function id)) := by
  have own := marks.function id
  have home : (h'.world.function id).home = (h.world.function id).home := by rw [own.rest]
  unfold World.namespaceOf
  rw [home]
  exact .append (cells own.cells) (.append (marks.moduleNames _) (.refl .same _))

theorem functionScopes? (marks : h.Marks h') (id : FunctionId) :
    h'.functionScopes? (h'.world.function id) = h.functionScopes? (h.world.function id) := by
  have library (name : String) : h'.isLibraryModule name = h.isLibraryModule name := by
    unfold isLibraryModule
    rw [marks.settings]
    rcases marks.modules.get? name with ⟨before, after⟩ | ⟨m, m', before, after, same⟩
    · rw [before, after]
    · simp only [before, after, same.origin]
  rw [(marks.function id).rest]
  simp only [Host.functionScopes?, moduleScope, library]

theorem isUserDefined (marks : h.Marks h') {v v' : Value} (same : v.Marks h.world v') :
    h'.isUserDefined v' = h.isUserDefined v := by
  have scopes : h'.scopes? v' = h.scopes? v := by
    cases same with
    | same => cases v <;> first | rfl | exact marks.functionScopes? _
    | function id => exact marks.functionScopes? id
    | list => rfl
    | tuple => rfl
  unfold Host.isUserDefined
  rw [scopes]

theorem locate? (marks : h.Marks h') (id : FunctionId) :
    (h'.world.function id).locate? = (h.world.function id).locate? := by
  rw [(marks.function id).rest]
  rfl

end Host.Marks

end Cascade
