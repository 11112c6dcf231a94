import Cascade.Lowering.Call
import Cascade.Lowering.Iterator

set_option autoImplicit false

namespace Cascade.Lowering

open Source

/-- Both frames bind the name or neither does, and then it stands for the same outside. -/
structure SameAnswer (fs fs' : Frames) (names names' : Namespace) (id : String) : Prop where
  isBound : fs'.isBound id = fs.isBound id
  outside : fs.isBound id = false → names'.get? id = names.get? id

variable {fs fs' : Frames} {names names' : Namespace} {id : String}

theorem nameNode?_congr (owner : fs'.owner? id = fs.owner? id)
    (same : fs.owner? id = none → SameAnswer fs fs' names names' id) :
    nameNode? fs' names' id = nameNode? fs names id := by
  unfold nameNode?
  rw [owner]
  cases owned : fs.owner? id with
  | some place => rfl
  | none =>
    have same := same owned
    rw [same.isBound]
    cases bound : fs.isBound id with
    | true => rfl
    | false => rw [same.outside bound]

theorem moduleOf?_congr (same : SameAnswer fs fs' names names' id) (unbound : fs.isBound id = false) :
    moduleOf? names' id = moduleOf? names id := by
  unfold moduleOf?
  rw [same.outside unbound]

theorem calleeToken?_congr {callee : Expr}
    (called : ∀ id use, callee = .name id use →
      fs'.isBound id = fs.isBound id ∧ fs'.owner? id = fs.owner? id)
    (member : ∀ base use attr, callee = .member (.name base use) attr →
      SameAnswer fs fs' names names' base) :
    calleeToken? fs' names' callee = calleeToken? fs names callee := by
  unfold calleeToken?
  split
  · obtain ⟨bound, owner⟩ := called _ _ rfl
    rw [bound, owner]
  · rename_i base use attr
    have same := member base use attr rfl
    rw [same.isBound]
    cases bound : fs.isBound base with
    | true => rfl
    | false => rw [moduleOf?_congr same bound]
  · rfl

theorem calleeValue?_congr {w : World} {callee : Expr}
    (called : ∀ id use, callee = .name id use → SameAnswer fs fs' names names' id)
    (member : ∀ base use attr, callee = .member (.name base use) attr →
      SameAnswer fs fs' names names' base) :
    calleeValue? w fs' names' callee = calleeValue? w fs names callee := by
  unfold calleeValue?
  split
  · rename_i id use
    have same := called id use rfl
    rw [same.isBound]
    cases bound : fs.isBound id with
    | true => rfl
    | false => rw [same.outside bound]
  · rename_i base use attr
    have same := member base use attr rfl
    rw [same.isBound]
    cases bound : fs.isBound base with
    | true => rfl
    | false => rw [moduleOf?_congr same bound]
  · rfl

theorem staticInt?_congr {e : Expr}
    (same : ∀ id use, e = .name id use → SameAnswer fs fs' names names' id) :
    staticInt? fs' names' e = staticInt? fs names e := by
  unfold staticInt?
  split
  · rfl
  · rfl
  · rename_i id use
    have same := same id use rfl
    rw [same.isBound]
    cases bound : fs.isBound id with
    | true => rfl
    | false => rw [same.outside bound]
  · rfl

theorem mapM_congr_of_mem {α β : Type} {f g : α → Option β} {l : List α}
    (h : ∀ a ∈ l, f a = g a) : l.mapM f = l.mapM g := by
  induction l with
  | nil => rfl
  | cons a l ih =>
    rw [List.mapM_cons, List.mapM_cons, h a List.mem_cons_self,
      ih fun b inside => h b (List.mem_cons_of_mem _ inside)]

theorem staticRange?_congr {source : Expr}
    (called : ∀ id use args, source = .call (.name id use) args [] →
      SameAnswer fs fs' names names' id)
    (bounds : ∀ id use args, source = .call (.name id use) args [] → ∀ n use, .name n use ∈ args →
      SameAnswer fs fs' names names' n) :
    staticRange? fs' names' source = staticRange? fs names source := by
  unfold staticRange?
  split
  · rename_i id use args
    have same := called id use args rfl
    have ints : args.mapM (staticInt? fs' names') = args.mapM (staticInt? fs names) := by
      refine mapM_congr_of_mem fun e inside => staticInt?_congr ?_
      rintro n use' rfl
      exact bounds id use args rfl n use' inside
    rw [same.isBound, ints]
    cases bound : fs.isBound id with
    | true => rfl
    | false =>
      unfold isRange
      rw [same.outside bound]
  · rfl

theorem staticValues?_congr (same : SameAnswer fs fs' names names' id) :
    staticValues? fs' names' id = staticValues? fs names id := by
  unfold staticValues?
  rw [same.isBound]
  cases bound : fs.isBound id with
  | true => rfl
  | false => rw [same.outside bound]

end Cascade.Lowering
