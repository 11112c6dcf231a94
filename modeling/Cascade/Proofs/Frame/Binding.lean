import Cascade.Proofs.Frame.Shape
import Mathlib.Data.List.Forall2

set_option autoImplicit false

namespace Cascade

namespace Source

def Expr.mentions : Expr → List String :=
  collect (fun | name id _ => [id] | _ => []) (fun _ => true)

def Expr.mentionsList : List Expr → List String :=
  collectList (fun | name id _ => [id] | _ => []) (fun _ => true)

def Expr.mentionsLinks : List (Comparison Expr) → List String :=
  collectComparisons (fun | name id _ => [id] | _ => []) (fun _ => true)

namespace Stmt

mutual

def mentions : Stmt → List String
  | function _ params body decorators returns =>
    (headExprs params decorators returns).flatMap Expr.mentions ++ mentionsList body
  | asyncFunction _ parts body => parts.flatMap Expr.mentions ++ mentionsList body
  | classDef _ parts body => parts.flatMap Expr.mentions ++ mentionsList body
  | ret value => value.toList.flatMap Expr.mentions
  | assign targets value => targets.flatMap Expr.mentions ++ value.mentions
  | augAssign target _ value => target.mentions ++ value.mentions
  | annAssign target annotation value _ =>
    [target, annotation].flatMap Expr.mentions ++ value.toList.flatMap Expr.mentions
  | forLoop target iterator body orelse =>
    target.mentions ++ iterator.mentions ++ mentionsList body ++ mentionsList orelse
  | whileLoop test body orelse => test.mentions ++ mentionsList body ++ mentionsList orelse
  | branch test body orelse => test.mentions ++ mentionsList body ++ mentionsList orelse
  | expr value => value.mentions
  | pass => []
  | refused _ parts body => parts.flatMap Expr.mentions ++ mentionsList body

def mentionsList : List Stmt → List String
  | [] => []
  | s :: ss => mentions s ++ mentionsList ss

end

end Stmt

variable {n : String}

namespace Expr

theorem mentions_binary (op : BinaryOp) (a b : Expr) :
    (binary op a b).mentions = a.mentions ++ b.mentions := rfl

theorem mentions_junction (op : BoolOp) (first : Expr) (rest : List Expr) :
    (junction op first rest).mentions = mentionsList (first :: rest) := rfl

theorem mentions_compare (left : Expr) (op : CompareOp) (right : Expr)
    (rest : List (Comparison Expr)) :
    (compare left op right rest).mentions = left.mentions ++ mentionsLinks (⟨op, right⟩ :: rest) :=
  rfl

theorem mentions_callee_subset (callee : Expr) (args : List Expr) (keywords : List (Keyword Expr)) :
    callee.mentions ⊆ (call callee args keywords).mentions := by
  change _ ⊆ callee.mentions ++ (mentionsList args ++ collectKeywords _ _ keywords)
  exact List.subset_append_left _ _

theorem mentions_args_subset (callee : Expr) (args : List Expr) (keywords : List (Keyword Expr)) :
    mentionsList args ⊆ (call callee args keywords).mentions := by
  change _ ⊆ callee.mentions ++ (mentionsList args ++ collectKeywords _ _ keywords)
  exact List.subset_append_of_subset_right _ (List.subset_append_left _ _)

theorem mentions_body_subset (params : List (Parameter Expr)) (body : Expr) :
    body.mentions ⊆ (lambda params body).mentions := by
  change _ ⊆ collectParameters _ _ params ++ body.mentions
  exact List.subset_append_right _ _

end Expr

theorem Expr.mem_mentionsList {es : List Expr} :
    n ∈ mentionsList es ↔ ∃ e ∈ es, n ∈ e.mentions := by
  induction es with
  | nil => simp [mentionsList, collectList]
  | cons e es ih =>
    change n ∈ e.mentions ++ mentionsList es ↔ _
    rw [List.mem_append, ih]
    simp

theorem Expr.mem_mentionsLinks {links : List (Comparison Expr)} :
    n ∈ mentionsLinks links ↔ ∃ link ∈ links, n ∈ link.right.mentions := by
  induction links with
  | nil => simp [mentionsLinks, collectComparisons]
  | cons link links ih =>
    change n ∈ link.right.mentions ++ mentionsLinks links ↔ _
    rw [List.mem_append, ih]
    simp

namespace Stmt

theorem mem_mentionsList {ss : List Stmt} : n ∈ mentionsList ss ↔ ∃ st ∈ ss, n ∈ st.mentions := by
  induction ss with
  | nil => simp [mentionsList]
  | cons st ss ih =>
    change n ∈ st.mentions ++ mentionsList ss ↔ _
    rw [List.mem_append, ih]
    simp

theorem mentionsList_subset {ss ts : List Stmt} (h : ss ⊆ ts) :
    mentionsList ss ⊆ mentionsList ts := by
  intro n mentioned
  obtain ⟨st, inside, mentioned⟩ := mem_mentionsList.1 mentioned
  exact mem_mentionsList.2 ⟨st, h inside, mentioned⟩

theorem mentions_asResult (st : Stmt) : st.asResult.mentions = st.mentions := by
  unfold asResult
  split
  · split
    · rfl
    · exact List.append_nil _
  · rfl

end Stmt

namespace Routine

open Stmt

theorem mentionsList_withResult (ss : List Stmt) :
    mentionsList (withResult ss) = mentionsList ss := by
  induction ss with
  | nil => rfl
  | cons st ss ih =>
    cases ss with
    | nil => exact congrArg (· ++ []) (mentions_asResult st)
    | cons next rest => exact congrArg (st.mentions ++ ·) ih

def mentions (r : Routine) : List String :=
  mentionsList r.statements

theorem mentions_ofLambda_subset (params : List (Parameter Expr)) (value : Expr) :
    (ofLambda params value).mentions ⊆ value.mentions := by
  intro n mentioned
  change n ∈ mentionsList (withResult ([Stmt.expr value].filter _)) at mentioned
  rw [mentionsList_withResult] at mentioned
  have inside := mentionsList_subset (List.filter_subset_self _) mentioned
  rwa [show mentionsList [.expr value] = value.mentions from List.append_nil _] at inside

theorem mentions_ofFunction_subset (params : List (Parameter Expr)) (body : List Stmt)
    (decorators : List Expr) :
    (ofFunction params body decorators).mentions ⊆ mentionsList body := by
  intro n mentioned
  unfold mentions statements at mentioned
  rw [mentionsList_withResult] at mentioned
  refine mentionsList_subset ?_ mentioned
  refine List.Subset.trans (List.filter_subset_self _) ?_
  cases body with
  | nil => exact List.Subset.refl _
  | cons st ss =>
    change (if st.isDocstring then ss else st :: ss) ⊆ st :: ss
    split
    · exact List.subset_cons_self _ _
    · exact List.Subset.refl _

end Routine

end Source

open Source

/-- A closure that is still to be lowered mentions the name and does not bind it itself. -/
def Closure.Reads (c : Closure) (id n : String) : Prop :=
  c.status = .pending ∧ ∃ formals, c.routine.formals? id = .ok formals ∧
    n ∈ c.routine.mentions ∧ n ∉ c.routine.localNames formals

namespace Frame

variable {f g : Frame} {n : String}

def Binds (f : Frame) (n : String) : Prop :=
  n ∈ f.names ∨ ∃ c, f.closures.get? n = some c

theorem Binds.bind (h : f.Binds n) (id : String) : (f.bind id).Binds n := by
  rcases h with named | ⟨c, held⟩
  · exact .inl (List.mem_insert_of_mem named)
  · by_cases same : n = id
    · exact .inl (same ▸ List.mem_insert_self)
    · exact .inr ⟨c, by rw [Frame.bind, Table.get?_remove, if_neg same, held]⟩

theorem Binds.bindClosure (h : f.Binds n) (id : String) (r : Routine) :
    (f.bindClosure id r).Binds n := by
  by_cases same : n = id
  · exact .inr ⟨⟨r, .pending⟩, by rw [Frame.bindClosure, Table.get?_set, if_pos same]⟩
  · rcases h with named | ⟨c, held⟩
    · exact .inl (List.mem_filter.2 ⟨named, decide_eq_true same⟩)
    · exact .inr ⟨c, by rw [Frame.bindClosure, Table.get?_set, if_neg same, held]⟩

theorem Binds.setStatus (h : f.Binds n) (id : String) (status : ClosureStatus) :
    (f.setStatus id status).Binds n := by
  rcases h with named | ⟨c, held⟩
  · left
    unfold Frame.setStatus
    split <;> exact named
  · right
    rw [get?_closures_setStatus]
    split
    · subst_vars
      exact ⟨_, congrArg _ held⟩
    · exact ⟨c, held⟩

/-- What becomes of a frame: its bindings stay, and no closure is left that reads the name and did
not before. -/
def Hides (n : String) (f g : Frame) : Prop :=
  (f.Binds n → g.Binds n) ∧
    ∀ id c, g.closures.get? id = some c → c.Reads id n → f.closures.get? id = some c

end Frame

namespace Frames

variable {fs gs : Frames} {n : String}

def Binds (fs : Frames) (n : String) : Prop :=
  ∃ f ∈ fs, f.Binds n

/-- Every closure of the chain that reads the name sees a binding of it. -/
def Covers (n : String) : Frames → Prop
  | [] => True
  | f :: fs =>
    (∀ id c, f.closures.get? id = some c → c.Reads id n → Binds (f :: fs) n) ∧ Covers n fs

theorem isBound_of_unowned (h : fs.Binds n) (unowned : fs.owner? n = none) :
    fs.isBound n = true := by
  induction fs with
  | nil =>
    obtain ⟨f, inside, _⟩ := h
    cases inside
  | cons f fs ih =>
    unfold owner? at unowned
    unfold isBound
    split at unowned
    · cases unowned
    · rename_i free
      split at unowned
      · rename_i named
        rw [if_pos named]
      · rename_i unnamed
        rw [if_neg unnamed, if_neg free]
        refine ih ?_ (Option.map_eq_none_iff.1 unowned)
        obtain ⟨g, inside, binds⟩ := h
        rcases List.mem_cons.1 inside with rfl | inside
        · rcases binds with named | ⟨c, held⟩
          · exact absurd (List.contains_iff_mem.2 named) unnamed
          · exact absurd (Option.isSome_iff_exists.2 ⟨c, held⟩) free
        · exact ⟨g, inside, binds⟩

theorem Binds.cons (h : fs.Binds n) (f : Frame) : Binds (f :: fs) n := by
  obtain ⟨g, inside, binds⟩ := h
  exact ⟨g, List.mem_cons_of_mem _ inside, binds⟩

theorem Binds.bind (h : fs.Binds n) (id : String) : (fs.bind id).Binds n := by
  obtain ⟨g, inside, binds⟩ := h
  cases fs with
  | nil => cases inside
  | cons f fs =>
    rcases List.mem_cons.1 inside with rfl | inside
    · exact ⟨_, List.mem_cons_self, binds.bind id⟩
    · exact ⟨g, List.mem_cons_of_mem _ inside, binds⟩

theorem Binds.bindClosure (h : fs.Binds n) (id : String) (r : Routine) :
    (fs.bindClosure id r).Binds n := by
  obtain ⟨g, inside, binds⟩ := h
  cases fs with
  | nil => cases inside
  | cons f fs =>
    rcases List.mem_cons.1 inside with rfl | inside
    · exact ⟨_, List.mem_cons_self, binds.bindClosure id r⟩
    · exact ⟨g, List.mem_cons_of_mem _ inside, binds⟩

theorem Binds.of_forall₂ (h : fs.Binds n) (hides : List.Forall₂ (Frame.Hides n) fs gs) :
    gs.Binds n := by
  obtain ⟨f, inside, binds⟩ := h
  induction hides with
  | nil => cases inside
  | @cons f' g fs gs head _ ih =>
    rcases List.mem_cons.1 inside with rfl | inside
    · exact ⟨g, List.mem_cons_self, head.1 binds⟩
    · exact (ih inside).cons g

theorem Covers.of_forall₂ (h : fs.Covers n) (hides : List.Forall₂ (Frame.Hides n) fs gs) :
    gs.Covers n := by
  induction hides with
  | nil => trivial
  | cons head tail ih =>
    refine ⟨fun id c held reads => ?_, ih h.2⟩
    exact (h.1 id c (head.2 id c held reads) reads).of_forall₂ (.cons head tail)

theorem Covers.drop (h : fs.Covers n) (place : Nat) : Covers n (fs.drop place) := by
  induction place generalizing fs with
  | zero => exact h
  | succ place ih =>
    cases fs with
    | nil => exact h
    | cons f fs => exact ih h.2

theorem Covers.binds_drop (h : fs.Covers n) {place : Nat} {id : String} {c : Closure}
    (held : fs.closure? place id = some c) (reads : c.Reads id n) :
    Binds (fs.drop place) n := by
  induction place generalizing fs with
  | zero =>
    cases fs with
    | nil => cases held
    | cons f fs => exact h.1 id c held reads
  | succ place ih =>
    cases fs with
    | nil => cases held
    | cons f fs => exact ih h.2 held

theorem Covers.bind (h : fs.Covers n) (id : String) : (fs.bind id).Covers n := by
  cases fs with
  | nil => trivial
  | cons f fs =>
    refine ⟨fun other c held reads => ?_, h.2⟩
    change Table.get? (f.closures.remove id) other = some c at held
    rw [Table.get?_remove] at held
    split at held
    · cases held
    · exact (h.1 other c held reads).bind id

theorem Covers.bindClosure (h : fs.Covers n) (id : String) {r : Routine}
    (bound : n ∈ r.mentions → fs.Binds n) : (fs.bindClosure id r).Covers n := by
  cases fs with
  | nil => trivial
  | cons f fs =>
    refine ⟨fun other c held reads => ?_, h.2⟩
    change Frames.Binds (Frames.bindClosure (f :: fs) id r) n
    refine Binds.bindClosure ?_ id r
    change Table.get? (f.closures.set id ⟨r, .pending⟩) other = some c at held
    rw [Table.get?_set] at held
    split at held
    · cases held
      obtain ⟨_, formals, _, mentioned, _⟩ := reads
      exact bound mentioned
    · exact h.1 other c held reads

theorem Covers.cons_ofNames (h : fs.Covers n) (names : List String) :
    Covers n (Frame.ofNames names :: fs) :=
  ⟨fun _ _ held => (nomatch held), h⟩

end Frames

end Cascade
