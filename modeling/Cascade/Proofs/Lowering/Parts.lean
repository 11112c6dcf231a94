import Cascade.Proofs.Lowering.Derivation
import Cascade.Proofs.Node.Functions

set_option autoImplicit false

namespace Cascade

theorem Node.literal?_eq_ok {value : Scalar} {n : Node} (h : Node.literal? value = .ok n) :
    n = .literal value := by
  cases value with
  | float x =>
    simp only [Node.literal?] at h
    split at h
    · cases h
      rfl
    · cases h
  | _ =>
    cases h
    rfl

namespace Lowering

open Source

theorem constantNode?_eq_ok {value : Scalar} {n : Node} (h : constantNode? value = .ok n) :
    n = .literal value := by
  unfold constantNode? at h
  split at h
  · exact Node.literal?_eq_ok h
  · cases h

theorem nameNode?_eq_ok {fs : Frames} {names : Namespace} {id : String} {n : Node}
    (h : nameNode? fs names id = .ok n) : n = .symbol id ∨ ∃ value, n = .literal value := by
  unfold nameNode? at h
  split at h
  · cases h
  · split at h
    · cases h
      exact .inl rfl
    · split at h
      · rename_i value _
        exact .inr ⟨value, Node.literal?_eq_ok h⟩
      · cases h
        exact .inl rfl

theorem literals?_eq_ok {values : List Scalar} {ns : List Node} (h : literals? values = .ok ns) :
    ns = values.map .literal := by
  induction values generalizing ns with
  | nil =>
    cases h
    rfl
  | cons value values ih =>
    unfold literals? at h
    cases first : Node.literal? value with
    | error fault =>
      rw [first] at h
      cases h
    | ok n =>
      cases rest : literals? values with
      | error fault =>
        rw [first, rest] at h
        cases h
      | ok more =>
        rw [first, rest] at h
        cases h
        rw [Node.literal?_eq_ok first, ih rest]
        rfl

theorem marks_name {fs : Frames} {names : Namespace} {id : String} {n : Node}
    (h : nameNode? fs names id = .ok n) : n.marks = [] := by
  rcases nameNode?_eq_ok h with rfl | ⟨value, rfl⟩ <;> rfl

theorem marksList_literals (values : List Scalar) :
    Node.marksList (values.map .literal) = [] := by
  induction values with
  | nil => rfl
  | cons value values ih => exact ih

theorem sitesList_literals (values : List Scalar) :
    Node.sitesList (values.map .literal) = [] := by
  induction values with
  | nil => rfl
  | cons value values ih =>
    change [] ++ (Node.sitesList (values.map .literal)).map _ = []
    rw [ih]
    rfl

@[simp] theorem marks_joined (token : String) (first : Node) (rest : List Node) :
    (joined token first rest).marks = first.marks ++ Node.marksList rest := by
  induction rest generalizing first with
  | nil => simp [joined, Node.marksList]
  | cons n rest ih =>
    have grouped := ih (.operation token .binary [first, n])
    simpa [joined, Node.marks, Node.marksList] using grouped

@[simp] theorem sites_joined (token : String) (first : Node) (rest : List Node) :
    (joined token first rest).sites = Node.sitesList (first :: rest) := by
  induction rest generalizing first with
  | nil => simp [joined, Node.sitesList]
  | cons n rest ih =>
    have grouped := ih (.operation token .binary [first, n])
    simpa [joined, Node.sites, Node.sitesList, Node.marks, Node.marksList, Site.after_after,
      Function.comp_def] using grouped

theorem functions_joined (token : String) (first : Node) (rest : List Node) :
    (joined token first rest).functions = first.functions ++ Node.functionsList rest := by
  induction rest generalizing first with
  | nil => simp [joined, Node.functionsList]
  | cons m ms ih =>
    change (joined token (.operation token .binary [first, m]) ms).functions = _
    rw [ih]
    simp [Node.functions, Node.functionsList]

end Lowering

end Cascade
