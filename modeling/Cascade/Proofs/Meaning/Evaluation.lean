import Cascade.Proofs.Lowering.Entries
import Cascade.Proofs.Meaning.Agreement
import Cascade.Proofs.Meaning.Fragment

set_option autoImplicit false

namespace Cascade.Meaning

open Source Lowering

theorem value_joined (σ : Store) (token : String) (first : Node) (rest : List Node) :
    Engine.value σ (joined token first rest) =
      (Engine.values σ rest).foldl (fun result v => do Engine.apply token [← result, ← v])
        (Engine.value σ first) := by
  induction rest generalizing first with
  | nil => rfl
  | cons n rest ih =>
    have grouped := ih (.operation token .binary [first, n])
    rw [Engine.value_binary] at grouped
    exact grouped

def Discards (n : Node) : Prop :=
  ∀ σ, Engine.exec n σ = do
    let _ ← Engine.value σ n
    return .running σ

theorem discards_joined {token : String} {first : Node} (h : Discards first) (rest : List Node) :
    Discards (joined token first rest) := by
  induction rest generalizing first with
  | nil => exact h
  | cons n rest ih =>
    have grouped : Discards (.operation token .binary [first, n]) := fun _ => rfl
    exact ih grouped

theorem apply_binary {op : BinaryOp} {token : String} (known : Operator.binaryToken? op = some token)
    (v w : Datum) : Engine.apply token [v, w] = Rules.reference.binary op v w := by
  cases op <;> cases known <;> cases v <;> cases w <;> rfl

theorem apply_compare {op : CompareOp} {token : String}
    (known : Operator.compareToken? op = some token) (v w : Datum) :
    Engine.apply token [v, w] = Rules.reference.compare op v w := by
  cases op <;> cases known <;> cases v <;> cases w <;> rfl

theorem apply_junction (op : BoolOp) (v w : Datum) :
    Engine.apply (Operator.boolToken op) [v, w] = Rules.both op v w := by
  cases op <;> cases v <;> cases w <;> rfl

theorem apply_minus (v : Datum) :
    Engine.apply "-" [.int 0, v] = Rules.reference.unary .minus v := by
  cases v with
  | int n => exact congrArg (fun m => Except.ok (Datum.int m)) (Int.zero_sub n)
  | truth b => rfl

theorem apply_negation (v : Datum) :
    Engine.apply "!" [v] = Rules.reference.unary .negation v := by
  cases v <;> rfl

theorem value_junction (σ : Store) (op : BoolOp) (first : Node) (rest : List Node) :
    Engine.value σ (joined (Operator.boolToken op) first rest) =
      Rules.reference.junction op (Engine.value σ first) (Engine.values σ rest) := by
  simp only [value_joined, apply_junction]
  rfl

def Settled (c : Context) (s : State) : Prop :=
  ∃ names, s.frames = [Frame.ofNames names] ∧ ∀ id, id ∈ names ↔ id ∈ c.locals

namespace Settled

variable {c : Context} {s : State}

theorem owner?_eq_none (h : Settled c s) (id : String) : s.frames.owner? id = none := by
  obtain ⟨names, frames, _⟩ := h
  rw [frames]
  by_cases bound : id ∈ names <;>
    simp [Frames.owner?, Frame.ofNames, Table.contains, bound]

theorem isBound_iff (h : Settled c s) (id : String) :
    s.frames.isBound id = true ↔ id ∈ c.locals := by
  obtain ⟨names, frames, same⟩ := h
  rw [frames, ← same]
  simp [Frames.isBound, Frame.ofNames, Table.contains]

theorem bind (h : Settled c s) {id : String} (assigned : id ∈ c.locals) :
    Settled c (s.withFrames (s.frames.bind id)) := by
  obtain ⟨names, frames, same⟩ := h
  refine ⟨names.insert id, ?_, fun other => ?_⟩
  · change s.frames.bind id = _
    rw [frames]
    rfl
  · rw [List.mem_insert_iff, same]
    constructor
    · rintro (rfl | member)
      · exact assigned
      · exact member
    · exact .inr

end Settled

theorem ranged_of_rangeOfBounds? {bounds : List Int} {start stop step : Int}
    (h : rangeOfBounds? bounds = some (start, stop, step)) (moves : step ≠ 0) :
    ranged (bounds.map .int) = .ok ((progression start stop step).map .int) := by
  unfold rangeOfBounds? at h
  split at h <;> cases h
  · rfl
  · rfl
  · exact if_neg moves

theorem valueOf_of_primitive? {value : Value} {constant : Scalar}
    (h : value.primitive? = some constant) :
    Context.valueOf (some value) = Datum.ofScalar constant := by
  cases value with
  | scalar other =>
    simp only [Value.primitive?] at h
    split at h
    · cases h
      rfl
    · cases h
  | _ => cases h

theorem valuesOf_of_primitives {items : List Value} {constants : List Scalar}
    (h : items.mapM Value.primitive? = some constants) :
    items.map (fun item => Context.valueOf (some item)) = constants.map Datum.ofScalar := by
  induction items generalizing constants with
  | nil =>
    cases h
    rfl
  | cons item items ih =>
    rw [List.mapM_cons] at h
    obtain ⟨first, found, h⟩ := Option.bind_eq_some_iff.1 h
    obtain ⟨rest, others, h⟩ := Option.bind_eq_some_iff.1 h
    cases h
    rw [List.map_cons, List.map_cons, valueOf_of_primitive? found, ih others]

section Iterators

variable {c : Context} {s : State} (settled : Settled c s) (σ : Store)

include settled

theorem value_of_staticInt? {e : Expr} {n : Int}
    (static : staticInt? s.frames c.names e = some n) :
    Rules.reference.value (c.read σ) e = .ok (.int n) := by
  unfold staticInt? at static
  split at static
  · rename_i value
    cases value <;> cases static
    rfl
  · rename_i value
    cases value <;> cases static
    rfl
  · rename_i id use
    split at static
    · cases static
    · rename_i free
      rw [settled.isBound_iff] at free
      obtain ⟨value, found, number⟩ := Option.bind_eq_some_iff.1 static
      cases value with
      | scalar constant =>
        cases constant <;> cases number
        change c.read σ id = _
        rw [Context.read_of_notMem free, found]
        rfl
      | _ => cases number
  · cases static

theorem gather_of_staticInt? {args : List Expr} {bounds : List Int}
    (static : args.mapM (staticInt? s.frames c.names) = some bounds) :
    gather (Rules.reference.values (c.read σ) args) = .ok (bounds.map .int) := by
  induction args generalizing bounds with
  | nil =>
    cases static
    rfl
  | cons e es ih =>
    rw [List.mapM_cons] at static
    obtain ⟨n, first, static⟩ := Option.bind_eq_some_iff.1 static
    obtain ⟨ns, rest, static⟩ := Option.bind_eq_some_iff.1 static
    cases static
    change (do
      let v ← Rules.reference.value (c.read σ) e
      let vs ← gather (Rules.reference.values (c.read σ) es)
      return v :: vs) = _
    rw [value_of_staticInt? settled σ first, ih rest]
    rfl

theorem elements_of_staticRange? {e : Expr} {start stop step : Int}
    (static : staticRange? s.frames c.names e = some (start, stop, step)) (moves : step ≠ 0) :
    Rules.reference.elements c σ e = .ok ((progression start stop step).map .int) := by
  unfold staticRange? at static
  split at static
  · rename_i id use args
    split at static
    · cases static
    · rename_i accepted
      simp only [Bool.or_eq_true, settled.isBound_iff, Bool.not_eq_eq_eq_not, Bool.not_true,
        not_or, Bool.not_eq_false] at accepted
      obtain ⟨bounds, found, shape⟩ := Option.bind_eq_some_iff.1 static
      simp only [Rules.elements, if_pos accepted, gather_of_staticInt? settled σ found]
      exact ranged_of_rangeOfBounds? shape moves
  · cases static

theorem elements_of_staticValues? {id : String} {use : Use} {constants : List Scalar}
    (static : staticValues? s.frames c.names id = some constants) :
    Rules.reference.elements c σ (.name id use) = gather (constants.map Datum.ofScalar) := by
  unfold staticValues? at static
  split at static
  · cases static
  · rename_i free
    rw [settled.isBound_iff] at free
    obtain ⟨value, found, shape⟩ := Option.bind_eq_some_iff.1 static
    simp only [Rules.elements, if_neg free, found]
    cases value with
    | list items | tuple items =>
      exact congrArg gather (valuesOf_of_primitives shape)
    | _ => cases shape

end Iterators

end Cascade.Meaning
