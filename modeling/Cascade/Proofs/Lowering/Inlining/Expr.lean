import Cascade.Proofs.Lowering.Inlining.Basic

set_option autoImplicit false

namespace Cascade.Lowering

open Source

variable {host host' : Host} {id : FunctionId} {spare : Bool} {off : List String}
  {below below' : Descent} {names : Namespace} {s s' : State}

theorem exprs_guided (guides : Guides id spare below below') {es : List Expr}
    (exposed : Expr.exposesList spare off es = true) (paired : Paired id off s s') :
    Guided id off (exprs below names es s) (exprs below' names (Expr.inlineList off es) s') := by
  induction es generalizing s s' with
  | nil => exact .ok paired
  | cons e es ih =>
    rw [Expr.exposesList, Bool.and_eq_true] at exposed
    exact exprs_cons_coupled (C := guiding id off) (w := ()) (guides.expr names e exposed.1 paired)
      fun _ _ paired => ih exposed.2 paired

/-- Only an assignment expression becomes a constant. -/
theorem named_of_negated?_inline {e : Expr} (differs : negated? (e.inline off) ≠ negated? e) :
    ∃ target value, e = .named target value := by
  cases e with
  | named target value => exact ⟨target, value, rfl⟩
  | _ => exact absurd rfl differs

theorem unary_guided (guides : Guides id spare below below') {op : UnaryOp} {e : Expr}
    (exposed : (Expr.unary op e).exposes spare off = true) (paired : Paired id off s s') :
    Guided id off (unary below names op e s) (unary below' names op (e.inline off) s') := by
  rw [Expr.exposes, Bool.and_eq_true] at exposed
  by_cases sign : op = .minus → negated? (e.inline off) = negated? e
  · exact unary_coupled (C := guiding id off) (w := ()) paired sign
      (fun _ => guides.expr names e exposed.1 paired) fun _ => trivial
  · -- The number is folded into the minus sign, the assignment expression is a level further.
    obtain ⟨rfl, differs⟩ := Classical.not_imp.1 sign
    obtain ⟨target, value, rfl⟩ := named_of_negated?_inline differs
    have room : spare = true := by
      cases becomes : negated? ((Expr.named target value).inline off) with
      | none => exact absurd becomes differs
      | some folded =>
        rw [becomes, Bool.or_eq_true] at exposed
        simpa using exposed.2.resolve_right Bool.false_ne_true
    change Guided id off ((below.expr names (.named target value) >>= _) s) _
    rw [bind_of_error (guides.askExpr room names target value s)]
    exact .asked

theorem comparisons_guided (guides : Guides id spare below below') {whole whole' left : Expr}
    {links : List (Comparison Expr)} (exposed : left.exposes spare off = true)
    (others : Expr.exposesLinks spare off links = true) (paired : Paired id off s s') :
    Guided id off (comparisons below names whole left links s)
      (comparisons below' names whole' (left.inline off) (Expr.inlineComparisons off links)
        s') := by
  induction links generalizing left s s' with
  | nil => exact .ok paired
  | cons link links ih =>
    obtain ⟨op, right⟩ := link
    rw [Expr.exposesLinks, Bool.and_eq_true] at others
    exact comparisons_cons_coupled (C := guiding id off) (w := ()) paired
      (fun _ => guides.expr names left exposed paired)
      (fun _ _ _ paired => guides.expr names right others.1 paired)
      (fun _ _ _ _ paired => ih others.1 others.2 paired) fun _ => trivial

/-- Routines that take each other's place inside the frames that they were defined in. -/
theorem inChildFrame_guided (guides : Guides id spare below below') {r r' : Routine}
    {formals : List String} {place : Nat} (inlined : r.Inlined spare off r')
    (paired : Paired id off s s') :
    Guided id off (inChildFrame place (frameOf r formals) (below.body names r.statements) s)
      (inChildFrame place (frameOf r' formals) (below'.body names r'.statements) s') :=
  .inFrames paired (.cons (.ofNames (inlined.localNames formals)) (paired.frames.drop place))
    (guides.body names inlined.statements) fun after => paired.frames.rejoin after place

theorem callLambda_guided (guides : Guides id spare below below')
    {params : List (Parameter Expr)} {body : Expr} {args : List Expr}
    (exposed : body.exposesAlone spare off = true)
    (others : Expr.exposesList spare off args = true) (paired : Paired id off s s') :
    Guided id off (callLambda below names params body args s)
      (callLambda below' names params (body.inline off) (Expr.inlineList off args) s') := by
  have inlined : (Routine.ofLambda params body).Inlined spare off
      (Routine.ofLambda params (body.inline off)) := Routine.inlined_inline exposed
  refine callLambda_coupled (C := guiding id off) (w := ()) paired ?_
    (fun _ _ paired => inChildFrame_guided guides inlined paired)
    fun _ _ paired => exprs_guided guides others paired
  rw [paired.lambdas_eq]
  exact .of_formals?_eq inlined.decorated (inlined.formals?_eq _) fun _ => trivial

theorem callClosure_guided (guides : Guides id spare below below') {name : String} {place : Nat}
    {args : List Expr} (exposed : Expr.exposesList spare off args = true)
    (paired : Paired id off s s') :
    Guided id off (callClosure below names name place args s)
      (callClosure below' names name place (Expr.inlineList off args) s') := by
  refine callClosure_coupled (C := guiding id off) (w := ()) (exprs_guided guides exposed paired) ?_
  intro ns t t' _ _ _ paired
  rw [paired.frames.closure?_eq]
  cases held : t.frames.closure? place name with
  | none => exact .none
  | some c =>
    obtain ⟨r, status⟩ := c
    cases status with
    | active | lowered => exact .begun nofun
    | pending =>
      have kept : r.Inlined spare off r := Routine.inlined_self (paired.frames.clean held)
      have begun := (paired.withFrames (paired.frames.setStatus place name .active)).registered
        (.closure name)
      refine .pending (.lowerOnce ?_)
      exact closure_coupled (C := guiding id off) (w := ()) begun
        (.of_formals?_eq rfl rfl fun _ => trivial)
        fun _ _ => inChildFrame_guided guides kept begun

theorem callFunction_guided (guides : Guides id spare below below') {other : FunctionId}
    {requested : String} {args : List Expr} (exposed : Expr.exposesList spare off args = true)
    (paired : Paired id off s s') :
    Guided id off (callFunction below names other requested args s)
      (callFunction below' names other requested (Expr.inlineList off args) s') := by
  refine callFunction_coupled (C := guiding id off) (w := ()) (exprs_guided guides exposed paired)
    (fun paired => by rw [paired.aliases_eq]) ?_ ?_
  · rintro v d e ns os rfl same
    rw [List.forall₂_eq_eq_eq] at same
    rw [same]
  · intro ns t t' _ _ unrecorded _ paired
    refine guides.function other requested ?_ paired
    rintro rfl
    obtain ⟨name, settled⟩ := paired.settled
    exact absurd (unrecorded.symm.trans settled) nofun

theorem callValue_guided (replaces : Replaces id host host')
    (guides : Guides id spare below below') {callee : Expr} {args : List Expr}
    (apart : off.Disjoint callee.mentions) (exposed : Expr.exposesList spare off args = true)
    (paired : Paired id off s s') :
    Guided id off (callValue host below names callee args s)
      (callValue host' below' names callee (Expr.inlineList off args) s') := by
  refine callValue_coupled (C := guiding id off) (w := ()) paired ?_
  rw [replaces.calledBy?, calledBy?_of_sameBut host paired.frames apart]
  cases calledBy? host s.frames names callee with
  | none => exact .inl ⟨rfl, rfl, trivial⟩
  | some target => exact .inr ⟨_, _, _, rfl, rfl, callFunction_guided guides exposed paired⟩

theorem isStarred_inline {e : Expr} (starred : e.isStarred = true) :
    (e.inline off).isStarred = true := by
  cases e with
  | starred => rfl
  | _ => cases starred

theorem flexible_inline {args : List Expr} {keywords : List (Keyword Expr)}
    (flexible : (!keywords.isEmpty || args.any Expr.isStarred) = true) :
    (!(Expr.inlineKeywords off keywords).isEmpty ||
      (Expr.inlineList off args).any Expr.isStarred) = true := by
  rw [Bool.or_eq_true] at flexible ⊢
  refine flexible.imp (fun given => ?_) fun starred => ?_
  · cases keywords with
    | nil => cases given
    | cons => rfl
  · obtain ⟨e, inside, starred⟩ := List.any_eq_true.1 starred
    rw [Expr.inlineList_eq_map]
    exact List.any_eq_true.2 ⟨_, List.mem_map_of_mem inside, isStarred_inline starred⟩

theorem call_guided (replaces : Replaces id host host') (guides : Guides id spare below below')
    {callee : Expr} {args : List Expr} {keywords : List (Keyword Expr)}
    (exposed : (Expr.call callee args keywords).exposes spare off = true)
    (paired : Paired id off s s') :
    Guided id off (call host below names callee args keywords s)
      (call host' below' names (callee.inline off) (Expr.inlineList off args)
        (Expr.inlineKeywords off keywords) s') := by
  rw [Expr.exposes, Bool.and_eq_true] at exposed
  cases flexible : !(Expr.inlineKeywords off keywords).isEmpty ||
      (Expr.inlineList off args).any Expr.isStarred with
  | true =>
    unfold call
    rw [if_pos flexible]
    exact .failed
  | false =>
    have rigid : (!keywords.isEmpty || args.any Expr.isStarred) = false :=
      Bool.eq_false_iff.2 fun h => Bool.eq_false_iff.1 flexible (flexible_inline h)
    have operator {token : String} :
        Guided id off ((do operation token (← exprs below names args) : Lower Node) s)
          ((do operation token (← exprs below' names (Expr.inlineList off args)) : Lower Node)
            s') :=
      .bind (exprs_guided guides exposed.2 paired) fun {ns t t'} _ paired =>
        have made : (guiding id off).Ends [] () (operation token ns t) (operation token ns t') :=
          operation_coupled paired (List.forall₂_eq_eq_eq ▸ rfl) (List.nil_subset _) fun _ => trivial
        made
    cases plain : callee.isLambda with
    | true =>
      refine call_coupled (C := guiding id off) (w := ()) paired (flexible.trans rigid.symm)
        (.inr ⟨plain, Expr.isLambda_inline plain⟩) ?_ ?_ (fun _ => trivial) (fun _ _ => operator)
        ?_ ?_ ?_
      · cases callee <;> cases plain
        rfl
      · rintro word use rfl
        cases plain
      · rintro params body params' body' _ rfl ⟨⟩
        obtain ⟨head, body⟩ := Bool.and_eq_true_iff.1 exposed.1
        rw [Expr.inlineParameters_of_disjoint (Expr.all_lacks_iff.1 head)]
        exact callLambda_guided guides body exposed.2 paired
      · rintro word use place _ rfl
        cases plain
      · intro _ _ _ _
        cases callee <;> cases plain
        exact .failed
    | false =>
      have apart := Expr.disjoint_of_exposesCallee plain exposed.1
      rw [Expr.inline_of_disjoint apart]
      refine call_coupled (C := guiding id off) (w := ()) paired (flexible.trans rigid.symm)
        (.inl rfl) (calleeToken?_of_sameBut paired.frames apart) ?_ (fun _ => trivial)
        (fun _ _ => operator) ?_ ?_ ?_
      · rintro word use rfl
        exact paired.frames.owner?_eq (List.disjoint_singleton.1 apart)
      · rintro params body _ _ _ rfl
        cases plain
      · rintro word use place _ rfl _
        exact callClosure_guided guides exposed.2 paired
      · intro _ _ _ _
        exact callValue_guided replaces guides apart exposed.2 paired

theorem expr_guided (replaces : Replaces id host host') (guides : Guides id spare below below')
    {e : Expr} (exposed : e.exposes spare off = true) (paired : Paired id off s s') :
    Guided id off (expr host below names e s) (expr host' below' names (e.inline off) s') := by
  cases e with
  | named target value => exact .asked
  | binary op left right =>
    rw [Expr.exposes, Bool.and_eq_true] at exposed
    exact binary_coupled (C := guiding id off) (w := ()) paired
      (fun _ => guides.expr names left exposed.1 paired)
      (fun _ _ _ paired => guides.expr names right exposed.2 paired) fun _ => trivial
  | unary op operand => exact unary_guided guides exposed paired
  | junction op first rest =>
    rw [Expr.exposes, Bool.and_eq_true] at exposed
    exact junction_coupled (C := guiding id off) (w := ())
      (guides.expr names first exposed.1 paired)
      fun _ _ paired => exprs_guided guides exposed.2 paired
  | compare left op right rest =>
    rw [Expr.exposes, Bool.and_eq_true] at exposed
    have links : Expr.exposesLinks spare off (⟨op, right⟩ :: rest) = true := exposed.2
    exact compare_coupled (C := guiding id off) (w := ())
      (comparisons_guided guides exposed.1 links paired)
  | call callee args keywords => exact call_guided replaces guides exposed paired
  | name word use =>
    have other := Expr.not_mem_of_exposes exposed
    change Guided id off (ofExcept (nameNode? s.frames names word) s)
      (ofExcept (nameNode? s'.frames names word) s')
    rw [nameNode?_congr (paired.frames.owner?_eq other)
      fun _ => sameAnswer_of_sameBut paired.frames other]
    exact ofExcept_coupled (C := guiding id off) (w := ()) paired (fun _ => rfl) fun _ => trivial
  | constant value =>
    exact ofExcept_coupled (C := guiding id off) (w := ()) paired (fun _ => rfl) fun _ => trivial
  | _ => exact .failed

end Cascade.Lowering
