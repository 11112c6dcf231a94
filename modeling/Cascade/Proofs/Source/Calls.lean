import Cascade.Proofs.Source.Live
import Cascade.Source.Text

set_option autoImplicit false

namespace Cascade.Source

namespace Expr

def calleeName : Expr → List String
  | name id _ => [id]
  | _ => []

mutual

/-- The names that an expression calls.  Expressions that are refused by their kind call nothing. -/
def calls : Expr → List String
  | unary _ a => calls a
  | binary _ a b => calls a ++ calls b
  | junction _ a es => calls a ++ callsList es
  | compare a _ b links => calls a ++ (calls b ++ callsLinks links)
  | call f es _ => f.calleeName ++ (calls f ++ callsList es)
  | lambda params a => (calls a).filter fun n => n ∉ placedNames params ++ a.storedNames
  | list es | tuple es => callsList es
  | _ => []

def callsList : List Expr → List String
  | [] => []
  | e :: es => calls e ++ callsList es

def callsLinks : List (Comparison Expr) → List String
  | [] => []
  | ⟨_, e⟩ :: links => calls e ++ callsLinks links

end

end Expr

namespace Stmt

mutual

def calls : Stmt → List String
  | function _ params body _ _ =>
    (callsList body).filter fun n => n ∉ placedNames params ++ boundNamesList body
  | ret value => value.toList.flatMap Expr.calls
  | assign _ value | augAssign _ _ value => value.calls
  | annAssign _ _ value _ => value.toList.flatMap Expr.calls
  | forLoop _ source body orelse => source.calls ++ (callsList body ++ callsList orelse)
  | branch test body orelse => test.calls ++ (callsList body ++ callsList orelse)
  | expr value => value.calls
  | _ => []

def callsList : List Stmt → List String
  | [] => []
  | st :: ss => calls st ++ callsList ss

end

variable {n : String} {ss ts : List Stmt}

theorem mem_callsList : n ∈ callsList ss ↔ ∃ st ∈ ss, n ∈ st.calls := by
  induction ss with
  | nil => simp [callsList]
  | cons st ss ih =>
    change n ∈ st.calls ++ callsList ss ↔ _
    rw [List.mem_append, ih]
    simp

theorem calls_asResult (st : Stmt) : st.asResult.calls = st.calls := by
  unfold asResult
  split
  · split
    · rfl
    · exact List.append_nil _
  · rfl

end Stmt

namespace Routine

def calls (r : Routine) : List String :=
  (Stmt.callsList r.statements).filter fun n => n ∉ r.localNames (placedNames r.params)

/-- What the body of a routine calls is bound by the routine or called by it. -/
theorem mem_calls_of_mem_statements {r : Routine} {st : Stmt} {n : String}
    (inside : st ∈ r.statements) (called : n ∈ st.calls) :
    n ∈ r.localNames (placedNames r.params) ∨ n ∈ r.calls := by
  by_cases own : n ∈ r.localNames (placedNames r.params)
  · exact .inl own
  · exact .inr (List.mem_filter.2
      ⟨Stmt.mem_callsList.2 ⟨st, inside, called⟩, decide_eq_true own⟩)

theorem eq_placedNames_of_formals? {r : Routine} {name : String} {formals : List String}
    (accepted : r.formals? name = .ok formals) : formals = placedNames r.params := by
  unfold formals? at accepted
  split at accepted
  · cases accepted
  · split at accepted
    · cases accepted
    · cases accepted
      rfl

end Routine

/-- What a body may call that binds some names and has dead ones: what it binds, and what may be
called outside, but nothing dead. -/
def Routine.MayCall (own dead : List String) (may : String → Prop) (n : String) : Prop :=
  n ∉ dead ∧ (n ∈ own ∨ may n)

theorem Routine.MayCall.mono {own dead : List String} {may may' : String → Prop}
    (wider : ∀ n, may n → may' n) (n : String) (h : MayCall own dead may n) :
    MayCall own dead may' n :=
  ⟨h.1, h.2.imp_right (wider n)⟩

namespace Stmt

mutual

/-- An edit of a statement.  What is kept calls only what it may; closures under dead names and
lambda expressions that stand alone become others, the latter such that both or neither can be
written.  The body of a function that is not dead is edited in turn, with dead names of its own, and
asynchronous functions and classes become others, since they are refused. -/
inductive Edited : List String → (String → Prop) → Stmt → Stmt → Prop where
  | kept {dead may st} (quiet : ∀ n ∈ st.calls, may n) : Edited dead may st st
  | function {dead may name params body decorators returns params' body' decorators' returns'}
      (isDead : name ∈ dead) :
      Edited dead may (.function name params body decorators returns)
        (.function name params' body' decorators' returns')
  | nested {dead may inner name params body decorators returns body'}
      (edit : EditedList inner
        (Routine.MayCall (placedNames params ++ boundNamesList body) inner may) body body') :
      Edited dead may (.function name params body decorators returns)
        (.function name params body' decorators returns)
  | asyncFunction {dead may name parts body parts' body'} :
      Edited dead may (.asyncFunction name parts body) (.asyncFunction name parts' body')
  | classDef {dead may name parts body parts' body'} :
      Edited dead may (.classDef name parts body) (.classDef name parts' body')
  | assign {dead may id use params body params' body'} (isDead : id ∈ dead) :
      Edited dead may (.assign [.name id use] (.lambda params body))
        (.assign [.name id use] (.lambda params' body'))
  | annAssign {dead may id use annotation params body params' body' bare} (isDead : id ∈ dead) :
      Edited dead may (.annAssign (.name id use) annotation (some (.lambda params body)) bare)
        (.annAssign (.name id use) annotation (some (.lambda params' body')) bare)
  | lambda {dead may params body params' body'}
      (written : (Expr.lambda params' body').textFault? = (Expr.lambda params body).textFault?) :
      Edited dead may (.expr (.lambda params body)) (.expr (.lambda params' body'))
  | branch {dead may test body orelse body' orelse'} (quiet : ∀ n ∈ test.calls, may n)
      (positive : EditedList dead may body body') (negative : EditedList dead may orelse orelse') :
      Edited dead may (.branch test body orelse) (.branch test body' orelse')
  | forLoop {dead may target source body orelse body' orelse'} (quiet : ∀ n ∈ source.calls, may n)
      (inner : EditedList dead may body body') (last : EditedList dead may orelse orelse') :
      Edited dead may (.forLoop target source body orelse) (.forLoop target source body' orelse')
  | whileLoop {dead may test body orelse body' orelse'} (inner : EditedList dead may body body')
      (last : EditedList dead may orelse orelse') :
      Edited dead may (.whileLoop test body orelse) (.whileLoop test body' orelse')
  | refused {dead may kind parts body body'} (inner : EditedList dead may body body') :
      Edited dead may (.refused kind parts body) (.refused kind parts body')

inductive EditedList : List String → (String → Prop) → List Stmt → List Stmt → Prop where
  | nil {dead may} : EditedList dead may [] []
  | cons {dead may st ss st' ss'} (head : Edited dead may st st')
      (tail : EditedList dead may ss ss') : EditedList dead may (st :: ss) (st' :: ss')

end

variable {dead : List String} {may may' : String → Prop} {st st' : Stmt} {ss ss' : List Stmt}

mutual

theorem Edited.boundNames_eq {dead : List String} {may : String → Prop} {st st' : Stmt} :
    Edited dead may st st' → st'.boundNames = st.boundNames
  | .kept _ | .function _ | .nested _ | .asyncFunction | .classDef | .assign _ | .annAssign _
  | .lambda _ => rfl
  | .branch _ positive negative => by
    simp only [boundNames, positive.boundNamesList_eq, negative.boundNamesList_eq]
  | .forLoop _ inner last | .whileLoop inner last => by
    simp only [boundNames, inner.boundNamesList_eq, last.boundNamesList_eq]
  | .refused inner => by simp only [boundNames, inner.boundNamesList_eq]

theorem EditedList.boundNamesList_eq {dead : List String} {may : String → Prop}
    {ss ss' : List Stmt} : EditedList dead may ss ss' → boundNamesList ss' = boundNamesList ss
  | .nil => rfl
  | .cons head tail => by
    change boundNames _ ++ boundNamesList _ = boundNames _ ++ boundNamesList _
    rw [head.boundNames_eq, tail.boundNamesList_eq]

end

mutual

theorem Edited.mono {dead : List String} {may may' : String → Prop} {st st' : Stmt}
    (wider : ∀ n, may n → may' n) : Edited dead may st st' → Edited dead may' st st'
  | .kept quiet => .kept fun n called => wider n (quiet n called)
  | .function isDead => .function isDead
  | .nested edit => .nested (edit.mono (Routine.MayCall.mono wider))
  | .asyncFunction => .asyncFunction
  | .classDef => .classDef
  | .assign isDead => .assign isDead
  | .annAssign isDead => .annAssign isDead
  | .lambda written => .lambda written
  | .branch quiet positive negative =>
    .branch (fun n called => wider n (quiet n called)) (positive.mono wider) (negative.mono wider)
  | .forLoop quiet inner last =>
    .forLoop (fun n called => wider n (quiet n called)) (inner.mono wider) (last.mono wider)
  | .whileLoop inner last => .whileLoop (inner.mono wider) (last.mono wider)
  | .refused inner => .refused (inner.mono wider)

theorem EditedList.mono {dead : List String} {may may' : String → Prop} {ss ss' : List Stmt}
    (wider : ∀ n, may n → may' n) : EditedList dead may ss ss' → EditedList dead may' ss ss'
  | .nil => .nil
  | .cons head tail => .cons (head.mono wider) (tail.mono wider)

end

theorem Edited.isPass_eq (h : Edited dead may st st') : st'.isPass = st.isPass := by
  cases h <;> rfl

theorem Edited.isDocstring_eq (h : Edited dead may st st') : st'.isDocstring = st.isDocstring := by
  cases h <;> rfl

theorem Edited.asResult (h : Edited dead may st st') :
    Edited dead may st.asResult st'.asResult := by
  cases h with
  | kept quiet =>
    refine .kept ?_
    rwa [calls_asResult]
  | function isDead => exact .function isDead
  | nested edit => exact .nested edit
  | asyncFunction => exact .asyncFunction
  | classDef => exact .classDef
  | assign isDead => exact .assign isDead
  | annAssign isDead => exact .annAssign isDead
  | lambda written => exact .lambda written
  | branch quiet positive negative => exact .branch quiet positive negative
  | forLoop quiet inner last => exact .forLoop quiet inner last
  | whileLoop inner last => exact .whileLoop inner last
  | refused inner => exact .refused inner

theorem EditedList.kept (h : ∀ st ∈ ss, ∀ n ∈ st.calls, may n) : EditedList dead may ss ss := by
  induction ss with
  | nil => exact .nil
  | cons st ss ih =>
    refine .cons (.kept (h st List.mem_cons_self)) (ih fun st inside => ?_)
    exact h st (List.mem_cons_of_mem _ inside)

theorem EditedList.filter (h : EditedList dead may ss ss') :
    EditedList dead may (ss.filter fun s => !s.isPass) (ss'.filter fun s => !s.isPass) := by
  induction ss generalizing ss' with
  | nil =>
    cases h
    exact .nil
  | cons st ss ih =>
    cases h with
    | cons head tail =>
      rw [List.filter_cons, List.filter_cons, head.isPass_eq]
      split
      · exact .cons head (ih tail)
      · exact ih tail

theorem EditedList.withResult (h : EditedList dead may ss ss') :
    EditedList dead may (Routine.withResult ss) (Routine.withResult ss') := by
  induction ss generalizing ss' with
  | nil =>
    cases h
    exact .nil
  | cons st ss ih =>
    cases h with
    | cons head tail =>
      cases tail with
      | nil => exact .cons head.asResult .nil
      | cons next rest => exact .cons head (ih (.cons next rest))

end Stmt

namespace Routine

structure Edited (dead : List String) (may : String → Prop) (r r' : Routine) : Prop where
  params : r'.params = r.params
  decorated : r'.decorated = r.decorated
  localNames : ∀ formals, r'.localNames formals = r.localNames formals
  statements : Stmt.EditedList dead (MayCall (r.localNames (placedNames r.params)) dead may)
    r.statements r'.statements

namespace Edited

variable {dead : List String} {may may' : String → Prop} {r r' : Routine}

theorem mono (wider : ∀ n, may n → may' n) (h : Edited dead may r r') : Edited dead may' r r' :=
  ⟨h.params, h.decorated, h.localNames, h.statements.mono (MayCall.mono wider)⟩

theorem kept (quiet : ∀ n ∈ r.calls, may n) : Edited [] may r r := by
  refine ⟨rfl, rfl, fun _ => rfl, .kept fun st inside n called => ⟨List.not_mem_nil, ?_⟩⟩
  exact (mem_calls_of_mem_statements inside called).imp_right (quiet n)

theorem formals?_eq (h : Edited dead may r r') (name : String) :
    r'.formals? name = r.formals? name := by
  unfold formals?
  rw [h.params]

theorem ofFunction {params : List (Parameter Expr)} {body body' : List Stmt}
    (decorators : List Expr)
    (h : Stmt.EditedList dead (MayCall (placedNames params ++ Stmt.boundNamesList body) dead may)
      body body') :
    Edited dead may (ofFunction params body decorators) (ofFunction params body' decorators) where
  params := rfl
  decorated := rfl
  localNames formals := congrArg (formals ++ ·) h.boundNamesList_eq
  statements := by
    refine Stmt.EditedList.withResult (Stmt.EditedList.filter ?_)
    cases h with
    | nil => exact .nil
    | @cons _ _ st ss st' ss' head tail =>
      change Stmt.EditedList dead _ (if st.isDocstring then ss else st :: ss)
        (if st'.isDocstring then ss' else st' :: ss')
      rw [head.isDocstring_eq]
      split
      · exact tail
      · exact .cons head tail

end Edited

end Routine

end Cascade.Source
