import Cascade.Lowering.Operand
import Cascade.Proofs.Frame.Binding
import Cascade.Proofs.Source.Results

set_option autoImplicit false

namespace Cascade.Source

namespace Expr

def isAmong (off : List String) : Expr → Bool
  | name id _ => off.contains id
  | _ => false

mutual

/-- The expression with the value in the place of every assignment expression to one of the
names. -/
def inline (off : List String) : Expr → Expr
  | name id use => name id use
  | constant value => constant value
  | unary op a => unary op (inline off a)
  | binary op a b => binary op (inline off a) (inline off b)
  | junction op a es => junction op (inline off a) (inlineList off es)
  | compare a op b cs => compare (inline off a) op (inline off b) (inlineComparisons off cs)
  | call f es ks => call (inline off f) (inlineList off es) (inlineKeywords off ks)
  | member a attr => member (inline off a) attr
  | subscript a b => subscript (inline off a) (inline off b)
  | slice a b c => slice (inlineOption off a) (inlineOption off b) (inlineOption off c)
  | conditional a b c => conditional (inline off a) (inline off b) (inline off c)
  | lambda ps a => lambda (inlineParameters off ps) (inline off a)
  | tuple es => tuple (inlineList off es)
  | list es => list (inlineList off es)
  | set es => set (inlineList off es)
  | dict es => dict (inlineEntries off es)
  | comprehension kind a cs => comprehension kind (inline off a) (inlineClauses off cs)
  | dictComprehension a b cs =>
    dictComprehension (inline off a) (inline off b) (inlineClauses off cs)
  | named a b => bif a.isAmong off then inline off b else named (inline off a) (inline off b)
  | yield a => yield (inlineOption off a)
  | yieldFrom a => yieldFrom (inline off a)
  | await a => await (inline off a)
  | fstring es => fstring (inlineList off es)
  | formatted a conversion b => formatted (inline off a) conversion (inlineOption off b)
  | starred a => starred (inline off a)

def inlineList (off : List String) : List Expr → List Expr
  | [] => []
  | e :: es => inline off e :: inlineList off es

def inlineOption (off : List String) : Option Expr → Option Expr
  | none => none
  | some e => some (inline off e)

def inlineParameters (off : List String) : List (Parameter Expr) → List (Parameter Expr)
  | [] => []
  | ⟨kind, id, a, b⟩ :: ps =>
    ⟨kind, id, inlineOption off a, inlineOption off b⟩ :: inlineParameters off ps

def inlineKeywords (off : List String) : List (Keyword Expr) → List (Keyword Expr)
  | [] => []
  | ⟨id, a⟩ :: ks => ⟨id, inline off a⟩ :: inlineKeywords off ks

def inlineComparisons (off : List String) : List (Comparison Expr) → List (Comparison Expr)
  | [] => []
  | ⟨op, a⟩ :: cs => ⟨op, inline off a⟩ :: inlineComparisons off cs

def inlineEntries (off : List String) : List (Entry Expr) → List (Entry Expr)
  | [] => []
  | ⟨a, b⟩ :: es => ⟨inlineOption off a, inline off b⟩ :: inlineEntries off es

def inlineClauses (off : List String) : List (Clause Expr) → List (Clause Expr)
  | [] => []
  | ⟨isAsync, a, b, es⟩ :: cs =>
    ⟨isAsync, inline off a, inline off b, inlineList off es⟩ :: inlineClauses off cs

end

section Kept

variable {off : List String} {visit : Expr → List String}

theorem isAmong_of_collect (finds : ∀ id use, id ∈ visit (name id use)) {e : Expr}
    (apart : off.Disjoint (collect visit (fun _ => true) e)) : e.isAmong off = false := by
  cases e with
  | name id use =>
    refine Bool.eq_false_iff.2 fun among => ?_
    exact apart (List.contains_iff_mem.1 among) (finds id use)
  | _ => rfl

mutual

theorem inline_of_collect (finds : ∀ id use, id ∈ visit (name id use)) : ∀ (e : Expr),
    off.Disjoint (collect visit (fun _ => true) e) → inline off e = e
  | name id use, _ | constant value, _ => rfl
  | unary op a, apart | member a attr, apart | yieldFrom a, apart | await a, apart
  | starred a, apart => by
    simp only [collect, cond_true, List.disjoint_append_right] at apart
    rw [inline, inline_of_collect finds a apart.2]
  | binary op a b, apart | subscript a b, apart => by
    simp only [collect, cond_true, List.disjoint_append_right] at apart
    rw [inline, inline_of_collect finds a apart.2.1, inline_of_collect finds b apart.2.2]
  | junction op a es, apart => by
    simp only [collect, cond_true, List.disjoint_append_right] at apart
    rw [inline, inline_of_collect finds a apart.2.1, inlineList_of_collect finds es apart.2.2]
  | compare a op b cs, apart => by
    simp only [collect, cond_true, List.disjoint_append_right] at apart
    rw [inline, inline_of_collect finds a apart.2.1, inline_of_collect finds b apart.2.2.1,
      inlineComparisons_of_collect finds cs apart.2.2.2]
  | call f es ks, apart => by
    simp only [collect, cond_true, List.disjoint_append_right] at apart
    rw [inline, inline_of_collect finds f apart.2.1, inlineList_of_collect finds es apart.2.2.1,
      inlineKeywords_of_collect finds ks apart.2.2.2]
  | slice a b c, apart => by
    simp only [collect, cond_true, List.disjoint_append_right] at apart
    rw [inline, inlineOption_of_collect finds a apart.2.1,
      inlineOption_of_collect finds b apart.2.2.1, inlineOption_of_collect finds c apart.2.2.2]
  | conditional a b c, apart => by
    simp only [collect, cond_true, List.disjoint_append_right] at apart
    rw [inline, inline_of_collect finds a apart.2.1, inline_of_collect finds b apart.2.2.1,
      inline_of_collect finds c apart.2.2.2]
  | lambda ps a, apart => by
    simp only [collect, cond_true, List.disjoint_append_right] at apart
    rw [inline, inlineParameters_of_collect finds ps apart.2.1, inline_of_collect finds a apart.2.2]
  | tuple es, apart | list es, apart | set es, apart | fstring es, apart => by
    simp only [collect, cond_true, List.disjoint_append_right] at apart
    rw [inline, inlineList_of_collect finds es apart.2]
  | dict es, apart => by
    simp only [collect, cond_true, List.disjoint_append_right] at apart
    rw [inline, inlineEntries_of_collect finds es apart.2]
  | comprehension kind a cs, apart => by
    simp only [collect, cond_true, List.disjoint_append_right] at apart
    rw [inline, inline_of_collect finds a apart.2.1, inlineClauses_of_collect finds cs apart.2.2]
  | dictComprehension a b cs, apart => by
    simp only [collect, cond_true, List.disjoint_append_right] at apart
    rw [inline, inline_of_collect finds a apart.2.1, inline_of_collect finds b apart.2.2.1,
      inlineClauses_of_collect finds cs apart.2.2.2]
  | named a b, apart => by
    simp only [collect, cond_true, List.disjoint_append_right] at apart
    rw [inline, isAmong_of_collect finds apart.2.1, inline_of_collect finds a apart.2.1,
      inline_of_collect finds b apart.2.2, cond_false]
  | yield a, apart => by
    simp only [collect, cond_true, List.disjoint_append_right] at apart
    rw [inline, inlineOption_of_collect finds a apart.2]
  | formatted a conversion b, apart => by
    simp only [collect, cond_true, List.disjoint_append_right] at apart
    rw [inline, inline_of_collect finds a apart.2.1, inlineOption_of_collect finds b apart.2.2]

theorem inlineList_of_collect (finds : ∀ id use, id ∈ visit (name id use)) : ∀ (es : List Expr),
    off.Disjoint (collectList visit (fun _ => true) es) → inlineList off es = es
  | [], _ => rfl
  | e :: es, apart => by
    simp only [collectList, List.disjoint_append_right] at apart
    rw [inlineList, inline_of_collect finds e apart.1, inlineList_of_collect finds es apart.2]

theorem inlineOption_of_collect (finds : ∀ id use, id ∈ visit (name id use)) :
    ∀ (o : Option Expr), off.Disjoint (collectOption visit (fun _ => true) o) →
      inlineOption off o = o
  | none, _ => rfl
  | some e, apart => congrArg some (inline_of_collect finds e apart)

theorem inlineParameters_of_collect (finds : ∀ id use, id ∈ visit (name id use)) :
    ∀ (ps : List (Parameter Expr)), off.Disjoint (collectParameters visit (fun _ => true) ps) →
      inlineParameters off ps = ps
  | [], _ => rfl
  | ⟨kind, id, a, b⟩ :: ps, apart => by
    simp only [collectParameters, List.disjoint_append_right] at apart
    rw [inlineParameters, inlineOption_of_collect finds a apart.1,
      inlineOption_of_collect finds b apart.2.1, inlineParameters_of_collect finds ps apart.2.2]

theorem inlineKeywords_of_collect (finds : ∀ id use, id ∈ visit (name id use)) :
    ∀ (ks : List (Keyword Expr)), off.Disjoint (collectKeywords visit (fun _ => true) ks) →
      inlineKeywords off ks = ks
  | [], _ => rfl
  | ⟨id, a⟩ :: ks, apart => by
    simp only [collectKeywords, List.disjoint_append_right] at apart
    rw [inlineKeywords, inline_of_collect finds a apart.1,
      inlineKeywords_of_collect finds ks apart.2]

theorem inlineComparisons_of_collect (finds : ∀ id use, id ∈ visit (name id use)) :
    ∀ (cs : List (Comparison Expr)), off.Disjoint (collectComparisons visit (fun _ => true) cs) →
      inlineComparisons off cs = cs
  | [], _ => rfl
  | ⟨op, a⟩ :: cs, apart => by
    simp only [collectComparisons, List.disjoint_append_right] at apart
    rw [inlineComparisons, inline_of_collect finds a apart.1,
      inlineComparisons_of_collect finds cs apart.2]

theorem inlineEntries_of_collect (finds : ∀ id use, id ∈ visit (name id use)) :
    ∀ (es : List (Entry Expr)), off.Disjoint (collectEntries visit (fun _ => true) es) →
      inlineEntries off es = es
  | [], _ => rfl
  | ⟨a, b⟩ :: es, apart => by
    simp only [collectEntries, List.disjoint_append_right] at apart
    rw [inlineEntries, inlineOption_of_collect finds a apart.1,
      inline_of_collect finds b apart.2.1, inlineEntries_of_collect finds es apart.2.2]

theorem inlineClauses_of_collect (finds : ∀ id use, id ∈ visit (name id use)) :
    ∀ (cs : List (Clause Expr)), off.Disjoint (collectClauses visit (fun _ => true) cs) →
      inlineClauses off cs = cs
  | [], _ => rfl
  | ⟨isAsync, a, b, es⟩ :: cs, apart => by
    simp only [collectClauses, List.disjoint_append_right] at apart
    rw [inlineClauses, inline_of_collect finds a apart.1, inline_of_collect finds b apart.2.1,
      inlineList_of_collect finds es apart.2.2.1, inlineClauses_of_collect finds cs apart.2.2.2]

end

theorem inline_of_disjoint {e : Expr} (apart : off.Disjoint e.mentions) : inline off e = e :=
  inline_of_collect (fun _ _ => List.mem_singleton_self _) e apart

end Kept

section Stored

variable {off : List String} {m : String}

def stores : Expr → List String
  | name id .store => [id]
  | _ => []

def staysIn (e : Expr) : Bool := !e.opensScope

theorem not_mem_stores_of_isAmong {e : Expr} (among : e.isAmong off = true) (other : m ∉ off) :
    m ∉ collect stores staysIn e := by
  cases e with
  | name id use =>
    intro stored
    have same : m = id := by
      cases use with
      | store => exact List.mem_singleton.1 stored
      | load | delete => cases stored
    exact other (same ▸ List.contains_iff_mem.1 among)
  | _ => cases among

theorem mem_append_congr {xs xs' ys ys' : List String} (first : m ∈ xs' ↔ m ∈ xs)
    (second : m ∈ ys' ↔ m ∈ ys) : m ∈ xs' ++ ys' ↔ m ∈ xs ++ ys := by
  rw [List.mem_append, List.mem_append, first, second]

mutual

theorem mem_stores_inline (other : m ∉ off) : ∀ (e : Expr),
    m ∈ collect stores staysIn (inline off e) ↔ m ∈ collect stores staysIn e
  | name id use | constant value => Iff.rfl
  | lambda .. | comprehension .. | dictComprehension .. => Iff.rfl
  | unary op a | member a attr | yieldFrom a | await a | starred a => mem_stores_inline other a
  | binary op a b | subscript a b =>
    (mem_append_congr (mem_stores_inline other a) (mem_stores_inline other b) :)
  | junction op a es =>
    (mem_append_congr (mem_stores_inline other a) (mem_stores_inlineList other es) :)
  | compare a op b cs =>
    (mem_append_congr (mem_stores_inline other a) (mem_append_congr (mem_stores_inline other b)
      (mem_stores_inlineComparisons other cs)) :)
  | call f es ks =>
    (mem_append_congr (mem_stores_inline other f) (mem_append_congr (mem_stores_inlineList other es)
      (mem_stores_inlineKeywords other ks)) :)
  | slice a b c =>
    (mem_append_congr (mem_stores_inlineOption other a)
      (mem_append_congr (mem_stores_inlineOption other b) (mem_stores_inlineOption other c)) :)
  | conditional a b c =>
    (mem_append_congr (mem_stores_inline other a)
      (mem_append_congr (mem_stores_inline other b) (mem_stores_inline other c)) :)
  | tuple es | list es | set es | fstring es => mem_stores_inlineList other es
  | dict es => mem_stores_inlineEntries other es
  | named a b => by
    change _ ↔ m ∈ collect stores staysIn a ++ collect stores staysIn b
    rw [inline]
    cases among : a.isAmong off with
    | true =>
      have unbound := not_mem_stores_of_isAmong among other
      rw [cond_true, mem_stores_inline other b, List.mem_append, or_iff_right unbound]
    | false => exact (mem_append_congr (mem_stores_inline other a) (mem_stores_inline other b) :)
  | yield a => mem_stores_inlineOption other a
  | formatted a conversion b =>
    (mem_append_congr (mem_stores_inline other a) (mem_stores_inlineOption other b) :)

theorem mem_stores_inlineList (other : m ∉ off) : ∀ (es : List Expr),
    m ∈ collectList stores staysIn (inlineList off es) ↔ m ∈ collectList stores staysIn es
  | [] => Iff.rfl
  | e :: es => mem_append_congr (mem_stores_inline other e) (mem_stores_inlineList other es)

theorem mem_stores_inlineOption (other : m ∉ off) : ∀ (o : Option Expr),
    m ∈ collectOption stores staysIn (inlineOption off o) ↔ m ∈ collectOption stores staysIn o
  | none => Iff.rfl
  | some e => mem_stores_inline other e

theorem mem_stores_inlineKeywords (other : m ∉ off) : ∀ (ks : List (Keyword Expr)),
    m ∈ collectKeywords stores staysIn (inlineKeywords off ks) ↔
      m ∈ collectKeywords stores staysIn ks
  | [] => Iff.rfl
  | ⟨_, a⟩ :: ks =>
    mem_append_congr (mem_stores_inline other a) (mem_stores_inlineKeywords other ks)

theorem mem_stores_inlineComparisons (other : m ∉ off) : ∀ (cs : List (Comparison Expr)),
    m ∈ collectComparisons stores staysIn (inlineComparisons off cs) ↔
      m ∈ collectComparisons stores staysIn cs
  | [] => Iff.rfl
  | ⟨_, a⟩ :: cs =>
    mem_append_congr (mem_stores_inline other a) (mem_stores_inlineComparisons other cs)

theorem mem_stores_inlineEntries (other : m ∉ off) : ∀ (es : List (Entry Expr)),
    m ∈ collectEntries stores staysIn (inlineEntries off es) ↔
      m ∈ collectEntries stores staysIn es
  | [] => Iff.rfl
  | ⟨a, b⟩ :: es =>
    mem_append_congr (mem_stores_inlineOption other a)
      (mem_append_congr (mem_stores_inline other b) (mem_stores_inlineEntries other es))

end

theorem mem_storedNames_inline (other : m ∉ off) (e : Expr) :
    m ∈ (inline off e).storedNames ↔ m ∈ e.storedNames :=
  mem_stores_inline other e

end Stored

theorem inlineList_eq_map (off : List String) (es : List Expr) :
    inlineList off es = es.map (inline off) := by
  induction es with
  | nil => rfl
  | cons e es ih => exact congrArg (inline off e :: ·) ih

theorem inlineOption_eq_map (off : List String) (o : Option Expr) :
    inlineOption off o = o.map (inline off) := by
  cases o <;> rfl

section Apart

variable {off : List String}

def lacks (off : List String) (e : Expr) : Bool :=
  off.all fun n => !e.mentions.contains n

theorem lacks_iff {e : Expr} : e.lacks off = true ↔ off.Disjoint e.mentions := by
  simp [lacks, List.disjoint_left]

theorem disjoint_of_mem {es : List Expr} (apart : off.Disjoint (es.flatMap mentions)) {e : Expr}
    (inside : e ∈ es) : off.Disjoint e.mentions :=
  fun _ isOff mentioned => apart isOff (List.mem_flatMap.2 ⟨e, inside, mentioned⟩)

theorem all_lacks_iff {es : List Expr} :
    es.all (lacks off) = true ↔ off.Disjoint (es.flatMap mentions) := by
  rw [List.all_eq_true]
  constructor
  · intro lacking n isOff mentioned
    obtain ⟨e, inside, mentioned⟩ := List.mem_flatMap.1 mentioned
    exact lacks_iff.1 (lacking e inside) isOff mentioned
  · exact fun apart e inside => lacks_iff.2 (disjoint_of_mem apart inside)

theorem inlineList_of_disjoint {es : List Expr} (apart : off.Disjoint (es.flatMap mentions)) :
    inlineList off es = es := by
  rw [inlineList_eq_map]
  refine (List.map_congr_left fun e inside => ?_).trans (List.map_id es)
  exact inline_of_disjoint (disjoint_of_mem apart inside)

theorem inlineOption_of_disjoint {o : Option Expr}
    (apart : off.Disjoint (o.toList.flatMap mentions)) : inlineOption off o = o := by
  cases o with
  | none => rfl
  | some e =>
    rw [Option.toList_some, List.flatMap_singleton] at apart
    exact congrArg some (inline_of_disjoint apart)

theorem inlineParameters_of_disjoint {params : List (Parameter Expr)}
    (apart : off.Disjoint ((Stmt.headExprs params [] none).flatMap mentions)) :
    inlineParameters off params = params := by
  induction params with
  | nil => rfl
  | cons p params ih =>
    obtain ⟨kind, id, annotation, initial⟩ := p
    simp only [Stmt.headExprs, List.flatMap_cons, List.append_nil, Option.toList_none,
      List.flatMap_append, List.disjoint_append_right] at apart ih
    rw [inlineParameters, inlineOption_of_disjoint apart.1.1, inlineOption_of_disjoint apart.1.2,
      ih apart.2]

end Apart

end Expr

namespace Stmt

mutual

def inline (off : List String) : Stmt → Stmt
  | function name params body decorators returns =>
    function name (Expr.inlineParameters off params) (inlineList off body)
      (Expr.inlineList off decorators) (Expr.inlineOption off returns)
  | asyncFunction name parts body =>
    asyncFunction name (Expr.inlineList off parts) (inlineList off body)
  | classDef name parts body => classDef name (Expr.inlineList off parts) (inlineList off body)
  | ret value => ret (Expr.inlineOption off value)
  | assign targets value => assign (Expr.inlineList off targets) (value.inline off)
  | augAssign target op value => augAssign (target.inline off) op (value.inline off)
  | annAssign target annotation value bare =>
    annAssign (target.inline off) (Expr.inline off annotation) (Expr.inlineOption off value) bare
  | forLoop target source body orelse =>
    forLoop (target.inline off) (source.inline off) (inlineList off body) (inlineList off orelse)
  | whileLoop test body orelse =>
    whileLoop (test.inline off) (inlineList off body) (inlineList off orelse)
  | branch test body orelse =>
    branch (test.inline off) (inlineList off body) (inlineList off orelse)
  | expr value => expr (value.inline off)
  | pass => pass
  | refused kind parts body => refused kind (Expr.inlineList off parts) (inlineList off body)

def inlineList (off : List String) : List Stmt → List Stmt
  | [] => []
  | s :: ss => inline off s :: inlineList off ss

end

section Bound

variable {off : List String} {m : String}

theorem mem_flatMap_inline (other : m ∉ off) (es : List Expr) :
    m ∈ (es.map (Expr.inline off)).flatMap Expr.storedNames ↔ m ∈ es.flatMap Expr.storedNames := by
  simp only [List.flatMap_map, List.mem_flatMap, Expr.mem_storedNames_inline other]

mutual

theorem mem_boundNames_inline (other : m ∉ off) : ∀ (st : Stmt),
    m ∈ (st.inline off).boundNames ↔ m ∈ st.boundNames
  | function .. | asyncFunction .. | classDef .. | pass => Iff.rfl
  | ret value => by
    simp only [inline, boundNames, Expr.inlineOption_eq_map, Option.toList_map,
      mem_flatMap_inline other]
  | assign targets value => by
    have whole := mem_flatMap_inline other (targets ++ [value])
    rw [List.map_append] at whole
    simp only [inline, boundNames, Expr.inlineList_eq_map]
    exact whole
  | augAssign target op value => mem_flatMap_inline other [target, value]
  | annAssign target annotation value bare => by
    simp only [inline, boundNames, Expr.inlineOption_eq_map, Option.toList_map]
    exact mem_flatMap_inline other (target :: annotation :: value.toList)
  | forLoop target source body orelse => by
    have header := mem_flatMap_inline other [target, source]
    simp only [inline, boundNames, List.mem_append, mem_boundNamesList_inline other]
    rw [← header]
    rfl
  | whileLoop test body orelse | branch test body orelse => by
    simp only [inline, boundNames, List.mem_append, mem_boundNamesList_inline other,
      Expr.mem_storedNames_inline other]
  | expr value => Expr.mem_storedNames_inline other value
  | refused kind parts body => by
    simp only [inline, boundNames, List.mem_append, mem_boundNamesList_inline other,
      Expr.inlineList_eq_map, mem_flatMap_inline other]

theorem mem_boundNamesList_inline (other : m ∉ off) : ∀ (ss : List Stmt),
    m ∈ boundNamesList (inlineList off ss) ↔ m ∈ boundNamesList ss
  | [] => Iff.rfl
  | st :: ss =>
    Expr.mem_append_congr (mem_boundNames_inline other st) (mem_boundNamesList_inline other ss)

end

end Bound

section Kept

variable {off : List String}

mutual

theorem inline_of_disjoint : ∀ (st : Stmt), off.Disjoint st.mentions → st.inline off = st
  | function name params body decorators returns, apart => by
    simp only [mentions, headExprs, List.flatMap_append, List.disjoint_append_right] at apart
    have head : off.Disjoint ((headExprs params [] none).flatMap Expr.mentions) := by
      simpa only [headExprs, List.append_nil, Option.toList_none] using apart.1.1.1
    rw [inline, Expr.inlineParameters_of_disjoint head, inlineList_of_disjoint body apart.2,
      Expr.inlineList_of_disjoint apart.1.1.2, Expr.inlineOption_of_disjoint apart.1.2]
  | asyncFunction name parts body, apart | classDef name parts body, apart
  | refused kind parts body, apart => by
    simp only [mentions, List.disjoint_append_right] at apart
    rw [inline, Expr.inlineList_of_disjoint apart.1, inlineList_of_disjoint body apart.2]
  | ret value, apart => congrArg ret (Expr.inlineOption_of_disjoint apart)
  | assign targets value, apart => by
    simp only [mentions, List.disjoint_append_right] at apart
    rw [inline, Expr.inlineList_of_disjoint apart.1, Expr.inline_of_disjoint apart.2]
  | augAssign target op value, apart => by
    simp only [mentions, List.disjoint_append_right] at apart
    rw [inline, Expr.inline_of_disjoint apart.1, Expr.inline_of_disjoint apart.2]
  | annAssign target annotation value bare, apart => by
    simp only [mentions, List.flatMap_cons, List.flatMap_nil, List.append_nil,
      List.disjoint_append_right] at apart
    rw [inline, Expr.inline_of_disjoint apart.1.1, Expr.inline_of_disjoint apart.1.2,
      Expr.inlineOption_of_disjoint apart.2]
  | forLoop target source body orelse, apart => by
    simp only [mentions, List.disjoint_append_right] at apart
    rw [inline, Expr.inline_of_disjoint apart.1.1.1, Expr.inline_of_disjoint apart.1.1.2,
      inlineList_of_disjoint body apart.1.2, inlineList_of_disjoint orelse apart.2]
  | whileLoop test body orelse, apart | branch test body orelse, apart => by
    simp only [mentions, List.disjoint_append_right] at apart
    rw [inline, Expr.inline_of_disjoint apart.1.1, inlineList_of_disjoint body apart.1.2,
      inlineList_of_disjoint orelse apart.2]
  | expr value, apart => congrArg expr (Expr.inline_of_disjoint apart)
  | pass, _ => rfl

theorem inlineList_of_disjoint : ∀ (ss : List Stmt),
    off.Disjoint (mentionsList ss) → inlineList off ss = ss
  | [], _ => rfl
  | st :: ss, apart => by
    rw [mentionsList, List.disjoint_append_right] at apart
    rw [inlineList, inline_of_disjoint st apart.1, inlineList_of_disjoint ss apart.2]

end

end Kept

end Stmt

end Cascade.Source
