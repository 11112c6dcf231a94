import Cascade.Aliases
import Cascade.Proofs.Table
import Mathlib.Data.List.Nodup
import Mathlib.Data.List.Perm.Subperm

set_option autoImplicit false

namespace Cascade.Aliases

theorem eq_of_append_toString_eq (base : String) {m n : Nat}
    (h : base ++ toString m = base ++ toString n) : m = n := by
  have same : toString m = toString n := (String.append_right_inj base).1 h
  have digits : Nat.toDigits 10 m = Nat.toDigits 10 n := by
    rw [← Nat.toList_repr, ← Nat.toList_repr]
    exact congrArg String.toList same
  rw [← @Nat.ofDigitChars_ten_toDigits m, digits, Nat.ofDigitChars_ten_toDigits]

theorem numbered_injective (base : String) : Function.Injective (numbered base) :=
  fun _ _ h => eq_of_append_toString_eq (base ++ "_") h

theorem exists_free (taken : List String) (base : String) :
    ∃ n ∈ List.range' 2 (taken.length + 1), numbered base n ∉ taken := by
  by_contra none
  push Not at none
  have distinct : ((List.range' 2 (taken.length + 1)).map (numbered base)).Nodup :=
    List.Nodup.map (numbered_injective base) List.nodup_range'
  have within : (List.range' 2 (taken.length + 1)).map (numbered base) ⊆ taken := by
    intro name member
    obtain ⟨n, inRange, rfl⟩ := List.mem_map.1 member
    exact none n inRange
  have bound := (distinct.subperm within).length_le
  rw [List.length_map, List.length_range'] at bound
  omega

/-- The alias that a request is to be met with: the requested one if it is free, and otherwise the
one with the least number from two on that makes it free. -/
inductive Allotted (taken : List String) (requested : String) : String → Prop where
  | requested (free : requested ∉ taken) : Allotted taken requested requested
  | numbered {n : Nat} (clash : requested ∈ taken) (start : 2 ≤ n)
      (free : numbered requested n ∉ taken)
      (least : ∀ m, 2 ≤ m → m < n → Aliases.numbered requested m ∈ taken) :
      Allotted taken requested (Aliases.numbered requested n)

theorem Allotted.notMem {taken : List String} {requested name : String}
    (h : Allotted taken requested name) : name ∉ taken := by
  cases h with
  | requested free => exact free
  | numbered _ _ free _ => exact free

theorem find?_freeNumber (taken : List String) (base : String) :
    (List.range' 2 (taken.length + 1)).find? (fun n => !taken.contains (numbered base n)) =
      some (freeNumber taken base) := by
  obtain ⟨n, inRange, free⟩ := exists_free taken base
  have found : ((List.range' 2 (taken.length + 1)).find?
      fun n => !taken.contains (numbered base n)).isSome := by
    rw [List.find?_isSome]
    exact ⟨n, inRange, by simpa using free⟩
  obtain ⟨least, result⟩ := Option.isSome_iff_exists.1 found
  unfold freeNumber
  rw [result]
  rfl

theorem allotted_allot (taken : List String) (requested : String) :
    Allotted taken requested (allot taken requested) := by
  unfold allot
  split
  · rename_i clash
    obtain ⟨passes, inRange, earlier⟩ :=
      List.find?_range'_eq_some.1 (find?_freeNumber taken requested)
    refine .numbered (by simpa using clash) (List.left_le_of_mem_range' inRange)
      (by simpa using passes) fun m start before => ?_
    simpa using earlier m start before
  · rename_i free
    exact .requested (by simpa using free)

theorem allot_notMem (taken : List String) (requested : String) :
    allot taken requested ∉ taken :=
  (allotted_allot taken requested).notMem

structure Distinct (t : Aliases) : Prop where
  ids : (t.map (·.1)).Nodup
  names : (t.map (·.2)).Nodup

structure Owns (t : Aliases) (id : FunctionId) (name : String) : Prop where
  recorded : t.get? id = some name
  only : ∀ {other}, t.get? other = some name → other = id

/-- Requests are met one after another, each for a function that has no alias yet. -/
inductive Marks : Aliases → List (FunctionId × String) → Aliases → Prop where
  | nil {t} : Marks t [] t
  | cons {t id requested rest u} (new : t.get? id = none)
      (more : Marks (t.mark id requested).2 rest u) : Marks t ((id, requested) :: rest) u

section Mark

variable {t u v : Aliases} {id : FunctionId} {requested : String}
  {requests rest : List (FunctionId × String)}

/-- Marking a new function puts it and its alias at the end. -/
theorem mark_eq_append (new : t.get? id = none) (requested : String) :
    (t.mark id requested).2 = t ++ [(id, (t.mark id requested).1)] :=
  Table.set_eq_append new

theorem get?_mark (other : FunctionId) :
    (t.mark id requested).2.get? other =
      if other = id then some (t.mark id requested).1 else t.get? other :=
  Table.get?_set t id other _

theorem Distinct.mark (h : t.Distinct) (new : t.get? id = none) :
    (t.mark id requested).2.Distinct := by
  rw [mark_eq_append new]
  constructor
  · rw [List.map_append, List.nodup_append']
    exact ⟨h.ids, List.nodup_singleton _, List.disjoint_singleton.2 (Table.get?_eq_none_iff.1 new)⟩
  · rw [List.map_append, List.nodup_append']
    exact ⟨h.names, List.nodup_singleton _, List.disjoint_singleton.2 (allot_notMem _ requested)⟩

theorem Distinct.owns (h : t.Distinct) {name : String} (recorded : t.get? id = some name) :
    t.Owns id name := by
  have member {key : FunctionId} (found : t.get? key = some name) : (key, name) ∈ t := by
    obtain ⟨before, after, split, _⟩ := List.lookup_eq_some_iff.1 found
    rw [split]
    exact List.mem_append_right _ List.mem_cons_self
  refine ⟨recorded, fun found => ?_⟩
  have same := List.inj_on_of_nodup_map h.names (member found) (member recorded) rfl
  exact congrArg Prod.fst same

theorem Marks.append (first : Marks t requests u) (second : Marks u rest v) :
    Marks t (requests ++ rest) v := by
  induction first with
  | nil => exact second
  | cons new _ ih => exact .cons new (ih second)

theorem Marks.split {before : List (FunctionId × String)}
    (h : Marks t (before ++ requests) v) : ∃ u, Marks t before u ∧ Marks u requests v := by
  induction before generalizing t with
  | nil => exact ⟨t, .nil, h⟩
  | cons request before ih =>
    cases h with
    | cons new more =>
      obtain ⟨u, first, second⟩ := ih more
      exact ⟨u, .cons new first, second⟩

/-- What is recorded stays as it is. -/
theorem Marks.get?_eq (h : Marks t requests u) {name : String} (found : t.get? id = some name) :
    u.get? id = some name := by
  induction h with
  | nil => exact found
  | cons new _ ih =>
    refine ih ?_
    rw [get?_mark, if_neg, found]
    rintro rfl
    rw [new] at found
    cases found

/-- A request that is met finds the table that the earlier ones leave, records a new function at its
end under the alias that is to be allotted, and the later ones are met after it. -/
theorem Marks.granted {before after : List (FunctionId × String)}
    (h : Marks t (before ++ (id, requested) :: after) v) :
    ∃ u name, Marks t before u ∧ u.get? id = none ∧ Allotted (u.map (·.2)) requested name ∧
      Marks (u ++ [(id, name)]) after v ∧ v.get? id = some name := by
  obtain ⟨u, earlier, rest⟩ := h.split
  cases rest with
  | cons new later =>
    have recorded : (u.mark id requested).2.get? id = some (u.mark id requested).1 := by
      rw [get?_mark, if_pos rfl]
    refine ⟨u, (u.mark id requested).1, earlier, new, allotted_allot _ requested, ?_,
      later.get?_eq recorded⟩
    rwa [mark_eq_append new] at later

theorem Marks.distinct (h : Marks t requests u) (before : t.Distinct) : u.Distinct := by
  induction h with
  | nil => exact before
  | cons new _ ih => exact ih (before.mark new)

theorem Marks.ids (h : Marks t requests u) :
    u.map (·.1) = t.map (·.1) ++ requests.map (·.1) := by
  induction h with
  | nil => rw [List.map_nil, List.append_nil]
  | cons new _ ih =>
    rw [ih, mark_eq_append new, List.map_append, List.append_assoc]
    rfl

end Mark

end Cascade.Aliases
