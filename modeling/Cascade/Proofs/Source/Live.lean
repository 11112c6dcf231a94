import Cascade.Proofs.Source.Paths

set_option autoImplicit false

namespace Cascade.Source

namespace Expr

def isStored : Expr → Bool
  | name _ use => use = .store
  | _ => true

/-- The expressions whose values an expression takes.  A callee has no value. -/
def operands : Expr → List Expr
  | unary _ a => [a]
  | binary _ a b => [a, b]
  | junction _ a es => a :: es
  | compare a _ b links => a :: b :: links.map (·.right)
  | call _ args _ => args
  | _ => []

end Expr

namespace Stmt

def inner : Stmt → List Stmt
  | branch _ body orelse | forLoop _ _ body orelse => body ++ orelse
  | _ => []

def target? : Stmt → Option String
  | assign [.name id _] _ | augAssign (.name id _) _ _ | annAssign (.name id _) ..
  | forLoop (.name id _) _ _ _ => some id
  | _ => none

mutual

def storesTargets : Stmt → Bool
  | function _ _ body _ _ => storesTargetsList body
  | assign targets _ => targets.all Expr.isStored
  | augAssign target _ _ | annAssign target .. => target.isStored
  | forLoop target _ body orelse =>
    target.isStored && storesTargetsList body && storesTargetsList orelse
  | branch _ body orelse => storesTargetsList body && storesTargetsList orelse
  | _ => true

def storesTargetsList : List Stmt → Bool
  | [] => true
  | st :: ss => storesTargets st && storesTargetsList ss

end

variable {st part : Stmt} {ss : List Stmt} {id n : String}

theorem mem_boundNamesList : n ∈ boundNamesList ss ↔ ∃ st ∈ ss, n ∈ st.boundNames := by
  induction ss with
  | nil => simp [boundNamesList]
  | cons st ss ih =>
    change n ∈ st.boundNames ++ boundNamesList ss ↔ _
    rw [List.mem_append, ih]
    simp

theorem storesTargetsList_iff :
    storesTargetsList ss = true ↔ ∀ st ∈ ss, st.storesTargets = true := by
  induction ss with
  | nil => simp [storesTargetsList]
  | cons st ss ih =>
    change (st.storesTargets && storesTargetsList ss) = true ↔ _
    rw [Bool.and_eq_true, ih]
    simp

theorem boundNames_inner (inside : part ∈ st.inner) : part.boundNames ⊆ st.boundNames := by
  intro n bound
  unfold inner at inside
  split at inside
  · simp only [boundNames, List.mem_append, mem_boundNamesList] at inside ⊢
    grind
  · simp only [boundNames, List.mem_append, mem_boundNamesList] at inside ⊢
    grind
  · cases inside

theorem storesTargets_inner (stored : st.storesTargets = true) (inside : part ∈ st.inner) :
    part.storesTargets = true := by
  unfold inner at inside
  split at inside
  · simp only [storesTargets, Bool.and_eq_true, storesTargetsList_iff] at stored
    exact (List.mem_append.1 inside).elim (stored.1 part) (stored.2 part)
  · simp only [storesTargets, Bool.and_eq_true, storesTargetsList_iff] at stored
    exact (List.mem_append.1 inside).elim (stored.1.2 part) (stored.2 part)
  · cases inside

theorem storedNames_stored {use : Use} (stored : (Expr.name id use).isStored = true) :
    (Expr.name id use).storedNames = [id] := by
  cases of_decide_eq_true stored
  rfl

theorem target?_mem_boundNames (stored : st.storesTargets = true) (h : st.target? = some id) :
    id ∈ st.boundNames := by
  unfold target? at h
  split at h
  · cases h
    have target := List.all_eq_true.1 stored _ List.mem_cons_self
    simp [boundNames, storedNames_stored target]
  · cases h
    simp [boundNames, storedNames_stored stored]
  · cases h
    simp [boundNames, storedNames_stored stored]
  · cases h
    simp only [storesTargets, Bool.and_eq_true] at stored
    simp [boundNames, storedNames_stored stored.1.1]
  · cases h

theorem closure?_mem_boundNames {r : Routine} (stored : st.storesTargets = true)
    (h : st.closure? = some (id, r)) : id ∈ st.boundNames := by
  unfold closure? at h
  split at h
  · cases h
    exact List.mem_singleton_self _
  · cases h
    exact target?_mem_boundNames stored rfl
  · cases h
    exact target?_mem_boundNames stored rfl
  · cases h

theorem boundNames_asResult (st : Stmt) : st.asResult.boundNames = st.boundNames := by
  unfold asResult
  split
  · split
    · rfl
    · exact List.append_nil _
  · rfl

theorem storesTargets_asResult (st : Stmt) : st.asResult.storesTargets = st.storesTargets := by
  unfold asResult
  split
  · split <;> rfl
  · rfl

end Stmt

namespace Routine

inductive Runs (r : Routine) : Stmt → Prop where
  | top {st} (inside : st ∈ r.statements) : Runs r st
  | inner {st part} (outer : Runs r st) (inside : part ∈ st.inner) : Runs r part

def storesTargets (r : Routine) : Bool :=
  match r.body with
  | .block ss => Stmt.storesTargetsList ss
  | .expression _ => true

def written (r : Routine) : List Stmt :=
  match r.body with
  | .block ss => ss
  | .expression value => [.expr value]

theorem mem_withResult {ss : List Stmt} {st : Stmt} (h : st ∈ withResult ss) :
    st ∈ ss ∨ ∃ last ∈ ss, st = last.asResult := by
  induction ss with
  | nil => cases h
  | cons first ss ih =>
    cases ss with
    | nil => exact .inr ⟨first, List.mem_cons_self, List.mem_singleton.1 h⟩
    | cons next rest =>
      rcases List.mem_cons.1 h with rfl | h
      · exact .inl List.mem_cons_self
      · rcases ih h with inside | ⟨last, inside, rfl⟩
        · exact .inl (List.mem_cons_of_mem _ inside)
        · exact .inr ⟨last, List.mem_cons_of_mem _ inside, rfl⟩

theorem mem_withResult_filter {ss whole : List Stmt} {st : Stmt} (sub : ss ⊆ whole)
    (h : st ∈ withResult (ss.filter fun s => !s.isPass)) :
    ∃ origin ∈ whole, st = origin ∨ st = origin.asResult := by
  rcases mem_withResult h with inside | ⟨last, inside, rfl⟩
  · exact ⟨st, sub (List.mem_filter.1 inside).1, .inl rfl⟩
  · exact ⟨last, sub (List.mem_filter.1 inside).1, .inr rfl⟩

/-- A statement to be run is written in the body, but for the last one, which may be turned into a
result. -/
theorem mem_statements {r : Routine} {st : Stmt} (h : st ∈ r.statements) :
    ∃ origin ∈ r.written, st = origin ∨ st = origin.asResult := by
  obtain ⟨params, body, decorated⟩ := r
  cases body with
  | expression value => exact mem_withResult_filter (List.Subset.refl [Stmt.expr value]) h
  | block ss =>
    cases ss with
    | nil => cases h
    | cons first rest =>
      refine @mem_withResult_filter (if first.isDocstring then rest else first :: rest) _ _ ?_ h
      split
      · exact List.subset_cons_self _ _
      · exact List.Subset.refl _

variable {r : Routine} {st : Stmt} {formals : List String}

theorem mem_localNames {n : String} :
    n ∈ r.localNames formals ↔ n ∈ formals ∨ ∃ st ∈ r.written, n ∈ st.boundNames := by
  unfold localNames written
  rw [List.mem_append]
  cases r.body with
  | block ss => rw [Stmt.mem_boundNamesList]
  | expression value => simp [Stmt.boundNames]

theorem storesTargets_iff :
    r.storesTargets = true ↔ ∀ st ∈ r.written, st.storesTargets = true := by
  unfold storesTargets written
  cases r.body with
  | block ss => exact Stmt.storesTargetsList_iff
  | expression value => simp [Stmt.storesTargets]

theorem Runs.boundNames_subset (h : r.Runs st) : st.boundNames ⊆ r.localNames formals := by
  induction h with
  | @top st inside =>
    intro n bound
    obtain ⟨origin, inside, same⟩ := mem_statements inside
    refine mem_localNames.2 (.inr ⟨origin, inside, ?_⟩)
    rcases same with rfl | rfl
    · exact bound
    · rwa [Stmt.boundNames_asResult] at bound
  | inner _ inside ih => exact List.Subset.trans (Stmt.boundNames_inner inside) ih

theorem Runs.storesTargets (stored : r.storesTargets = true) (h : r.Runs st) :
    st.storesTargets = true := by
  induction h with
  | top inside =>
    obtain ⟨origin, inside, same⟩ := mem_statements inside
    have target := storesTargets_iff.1 stored origin inside
    rcases same with rfl | rfl
    · exact target
    · rwa [Stmt.storesTargets_asResult]
  | inner _ inside ih => exact Stmt.storesTargets_inner ih inside

end Routine

end Cascade.Source
