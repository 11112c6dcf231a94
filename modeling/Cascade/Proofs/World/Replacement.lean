import Cascade.Program
import Cascade.Proofs.Table

set_option autoImplicit false

namespace Cascade

open Source Lowering

structure Function.SamePlace (f f' : Function) : Prop where
  home : f'.home = f.home
  moduleName : f'.moduleName = f.moduleName
  cells : f'.cells = f.cells
  enclosing : enclosingLabels f'.qualname = enclosingLabels f.qualname

theorem Function.SamePlace.namespaceOf {f f' : Function} (place : f.SamePlace f') (w : World) :
    w.namespaceOf f' = w.namespaceOf f := by
  unfold World.namespaceOf
  rw [place.cells, place.home]

namespace Host

def withFunction (h : Host) (id : FunctionId) (f : Function) : Host :=
  { h with world := { h.world with functions := h.world.functions.set id f } }

section WithFunction

variable {h : Host} {id : FunctionId} {f : Function}

theorem function_withFunction (h : Host) (id : FunctionId) (f : Function) (other : FunctionId) :
    (h.withFunction id f).world.function other =
      if other = id then f else h.world.function other := by
  unfold withFunction World.function
  rw [Table.get?_set]
  split <;> rfl

theorem function_withFunction_self (h : Host) (id : FunctionId) (f : Function) :
    (h.withFunction id f).world.function id = f := by
  rw [function_withFunction, if_pos rfl]

theorem function_withFunction_of_ne {other : FunctionId} (ne : other ≠ id) :
    (h.withFunction id f).world.function other = h.world.function other := by
  rw [function_withFunction, if_neg ne]

theorem samePlace_withFunction (place : (h.world.function id).SamePlace f) (other : FunctionId) :
    (h.world.function other).SamePlace ((h.withFunction id f).world.function other) := by
  rw [function_withFunction]
  split
  · rename_i same
    rw [same]
    exact place
  · exact ⟨rfl, rfl, rfl, rfl⟩

theorem name_withFunction (named : f.name = (h.world.function id).name) (other : FunctionId) :
    ((h.withFunction id f).world.function other).name = (h.world.function other).name := by
  rw [function_withFunction]
  split
  · rename_i same
    rw [same, named]
  · rfl

theorem qualname_withFunction (named : f.qualname = (h.world.function id).qualname)
    (other : FunctionId) :
    ((h.withFunction id f).world.function other).qualname = (h.world.function other).qualname := by
  rw [function_withFunction]
  split
  · rename_i same
    rw [same, named]
  · rfl

/-- The label of a function itself does not tell user code from library code. -/
theorem isUserDefined_withFunction (place : (h.world.function id).SamePlace f) (value : Value) :
    (h.withFunction id f).isUserDefined value = h.isUserDefined value := by
  have functions (other : FunctionId) : (h.withFunction id f).isUserDefined (.function other) =
      h.isUserDefined (.function other) := by
    have same := samePlace_withFunction place other
    unfold isUserDefined scopes? functionScopes?
    dsimp only
    rw [same.moduleName, same.enclosing]
    generalize (h.world.function other).moduleName = owner
    rcases owner with - | name
    · rfl
    · by_cases empty : name = ""
      · subst empty
        rfl
      · simp only
        by_cases deep : maxScopeChain < (enclosingLabels (h.world.function other).qualname).length
        · simp only [if_pos deep]
        · simp only [if_neg deep]
          rfl
  cases value with
  | function other => exact functions other
  | marked other name => exact functions other
  | _ => rfl

theorem calledFunction?_withFunction (callName : String) (value : Value) :
    calledFunction? (h.withFunction id f).world callName value =
        calledFunction? h.world callName value ∨
      ∃ requested requested', calledFunction? h.world callName value = some (id, requested) ∧
        calledFunction? (h.withFunction id f).world callName value = some (id, requested') := by
  cases value with
  | function other | marked other name =>
    by_cases same : other = id
    · subst same
      exact .inr ⟨_, _, rfl, rfl⟩
    · refine .inl ?_
      simp only [calledFunction?, World.markedName, function_withFunction_of_ne same]
  | _ => exact .inl rfl

theorem calledFunction?_of_name (named : f.name = (h.world.function id).name) (callName : String)
    (value : Value) :
    calledFunction? (h.withFunction id f).world callName value =
      calledFunction? h.world callName value := by
  cases value with
  | function other | marked other name =>
    simp only [calledFunction?, World.markedName, name_withFunction named]
  | _ => rfl

/-- Only the function that is replaced may ask for another alias. -/
theorem calledBy?_withFunction (place : (h.world.function id).SamePlace f) (fs : Frames)
    (names : Namespace) (callee : Expr) :
    calledBy? (h.withFunction id f) fs names callee = calledBy? h fs names callee ∨
      ∃ requested requested', calledBy? h fs names callee = some (id, requested) ∧
        calledBy? (h.withFunction id f) fs names callee = some (id, requested') := by
  have values : calleeValue? (h.withFunction id f).world fs names callee =
      calleeValue? h.world fs names callee := rfl
  unfold calledBy?
  rw [values]
  cases calleeValue? h.world fs names callee with
  | none => exact .inl rfl
  | some found =>
    obtain ⟨value, callName⟩ := found
    simp only [Option.bind_some, isUserDefined_withFunction place]
    split
    · exact calledFunction?_withFunction callName value
    · exact .inl rfl

theorem calledBy?_of_name (place : (h.world.function id).SamePlace f)
    (named : f.name = (h.world.function id).name) (fs : Frames) (names : Namespace)
    (callee : Expr) :
    calledBy? (h.withFunction id f) fs names callee = calledBy? h fs names callee := by
  have values : calleeValue? (h.withFunction id f).world fs names callee =
      calleeValue? h.world fs names callee := rfl
  unfold calledBy?
  simp only [values, isUserDefined_withFunction place, calledFunction?_of_name named]

theorem id_of_entryPoint {given : Option String} {maxDepth : Option Int} {e : EntryPoint}
    (entry : h.entry? (.function id) given maxDepth = .ok e) : e.id = id := by
  unfold entry? function? at entry
  dsimp only at entry
  split at entry
  · cases entry
  split at entry
  · cases entry
  split at entry
  · cases entry
    rfl
  · split at entry
    · cases entry
      rfl
    · cases entry

/-- A function under a given alias is taken as an entry point whatever its own name is. -/
theorem entry?_withFunction_self (place : (h.world.function id).SamePlace f)
    (user : h.isUserDefined (.function id) = true) {given : String} (filled : given ≠ "")
    (maxDepth : Option Int) :
    Host.entry? (h.withFunction id f) (.function id) (some given) maxDepth =
      h.entry? (.function id) (some given) maxDepth := by
  have chosen (own : String) : nonEmptyOr (some given) own = given := by
    unfold nonEmptyOr
    split
    · rename_i absent
      cases absent
    · rename_i empty
      exact absurd (Option.some.inj empty) filled
    · rename_i same
      exact (Option.some.inj same).symm
  unfold entry?
  simp only [function?, isUserDefined_withFunction place, user, chosen]
  rfl

theorem entry?_of_name (place : (h.world.function id).SamePlace f)
    (named : f.name = (h.world.function id).name)
    (qualified : f.qualname = (h.world.function id).qualname) (value : Value)
    (given : Option String) (maxDepth : Option Int) :
    Host.entry? (h.withFunction id f) value given maxDepth = h.entry? value given maxDepth := by
  have function : (h.withFunction id f).function? value given = h.function? value given := by
    unfold function?
    simp only [World.markedName, name_withFunction named]
  unfold entry?
  rw [function]
  cases h.function? value given with
  | error cause => rfl
  | ok target =>
    simp only [isUserDefined_withFunction place, name_withFunction named,
      qualname_withFunction qualified]
    rfl

end WithFunction

end Host

end Cascade
