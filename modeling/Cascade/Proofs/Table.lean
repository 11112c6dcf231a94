import Cascade.Table

set_option autoImplicit false

namespace Cascade.Table

variable {α β : Type}

@[simp] theorem get?_nil (key : String) : get? ([] : Table α) key = none := rfl

theorem get?_cons (k : String) (v : α) (t : Table α) (key : String) :
    get? ((k, v) :: t) key = if key = k then some v else t.get? key := by
  by_cases h : key = k
  · simp [get?, h]
  · simp [get?, List.lookup_cons, h, beq_false_of_ne h]

theorem get?_set (t : Table α) (key other : String) (value : α) :
    (t.set key value).get? other = if other = key then some value else t.get? other := by
  induction t with
  | nil => simp [set, get?_cons]
  | cons entry t ih =>
    obtain ⟨k, v⟩ := entry
    by_cases same : k = key
    · subst same
      by_cases h : other = k <;> simp [set, get?_cons, h]
    · by_cases h : other = k
      · subst h
        simp [set, same, get?_cons]
      · simp [set, same, get?_cons, h, ih]

theorem get?_remove (t : Table α) (key other : String) :
    (t.remove key).get? other = if other = key then none else t.get? other := by
  induction t with
  | nil => simp [remove]
  | cons entry t ih =>
    obtain ⟨k, v⟩ := entry
    unfold remove at ih ⊢
    by_cases same : k = key
    · subst same
      rw [List.filter_cons_of_neg (by simp), ih, get?_cons]
      split <;> rfl
    · rw [List.filter_cons_of_pos (by simpa using same), get?_cons, get?_cons, ih]
      by_cases h : other = k
      · subst h
        simp [same]
      · simp [h]

theorem get?_map (t : Table α) (f : α → β) (key : String) :
    get? (t.map fun entry => (entry.1, f entry.2)) key = (t.get? key).map f := by
  induction t with
  | nil => rfl
  | cons entry t ih =>
    obtain ⟨k, v⟩ := entry
    rw [List.map_cons, get?_cons, get?_cons, ih]
    split <;> rfl

theorem set_eq_append {t : Table α} {key : String} {value : α} (new : t.get? key = none) :
    t.set key value = t ++ [(key, value)] := by
  induction t with
  | nil => rfl
  | cons entry t ih =>
    obtain ⟨k, v⟩ := entry
    rw [get?_cons] at new
    by_cases same : key = k
    · simp [same] at new
    · rw [if_neg same] at new
      simp [set, Ne.symm same, ih new]

theorem map_set {t : Table α} {key : String} {old value : α} {f : String × α → β}
    (found : t.get? key = some old) (same : f (key, value) = f (key, old)) :
    (t.set key value).map f = t.map f := by
  induction t with
  | nil => simp at found
  | cons entry t ih =>
    obtain ⟨k, v⟩ := entry
    rw [get?_cons] at found
    by_cases h : key = k
    · subst h
      simp only [if_true, Option.some.injEq] at found
      subst found
      simp [set, same]
    · rw [if_neg h] at found
      simp [set, Ne.symm h, ih found]

theorem get?_eq_none_iff {t : Table α} {key : String} : t.get? key = none ↔ key ∉ t.keys := by
  induction t with
  | nil => simp [keys]
  | cons entry t ih =>
    obtain ⟨k, v⟩ := entry
    rw [get?_cons]
    unfold keys at ih ⊢
    by_cases h : key = k <;> simp [h, ih]

def total (weight : α → Nat) : Table α → Nat
  | [] => 0
  | (_, v) :: t => weight v + total weight t

@[simp] theorem total_nil (weight : α → Nat) : total weight ([] : Table α) = 0 := rfl

@[simp] theorem total_cons (weight : α → Nat) (k : String) (v : α) (t : Table α) :
    total weight ((k, v) :: t) = weight v + t.total weight := rfl

theorem total_set_le (weight : α → Nat) (t : Table α) (key : String) (value : α) :
    (t.set key value).total weight ≤ t.total weight + weight value := by
  induction t with
  | nil => simp [set]
  | cons entry t ih =>
    obtain ⟨k, v⟩ := entry
    unfold set
    split
    · simp only [total_cons]
      omega
    · simp only [total_cons]
      omega

theorem total_set (weight : α → Nat) {t : Table α} {key : String} {old : α} (value : α)
    (found : t.get? key = some old) :
    (t.set key value).total weight + weight old = t.total weight + weight value := by
  induction t with
  | nil => cases found
  | cons entry t ih =>
    obtain ⟨k, v⟩ := entry
    rw [get?_cons] at found
    by_cases same : key = k
    · rw [if_pos same] at found
      cases found
      simp only [set, if_pos same.symm, total_cons]
      omega
    · rw [if_neg same] at found
      have rest := ih found
      simp only [set, if_neg (Ne.symm same), total_cons]
      omega

theorem total_filter_le (weight : α → Nat) (t : Table α) {p q : String × α → Bool}
    (h : ∀ entry, p entry = true → q entry = true) :
    total weight (t.filter p) ≤ total weight (t.filter q) := by
  induction t with
  | nil => exact Nat.le_refl _
  | cons entry t ih =>
    rw [List.filter_cons, List.filter_cons]
    by_cases kept : p entry = true
    · rw [if_pos kept, if_pos (h entry kept)]
      exact Nat.add_le_add_left ih _
    · rw [if_neg kept]
      split
      · exact Nat.le_add_left_of_le ih
      · exact ih

theorem total_remove_le (weight : α → Nat) (t : Table α) (key : String) :
    (t.remove key).total weight ≤ t.total weight := by
  have all := total_filter_le weight t (p := fun entry => entry.1 ≠ key) (q := fun _ => true)
    fun _ _ => rfl
  rwa [List.filter_eq_self.2 fun _ _ => rfl] at all

end Cascade.Table
