import Cascade.Proofs.Lowering.Completion
import Cascade.Proofs.Lowering.Grammar
import Cascade.Proofs.Lowering.Links
import Cascade.Proofs.Lowering.Origins

set_option autoImplicit false

namespace Cascade

namespace Node

mutual

def callees : Node → List String
  | literal _ | symbol _ | range .. => []
  | operation _ _ operands => calleesList operands
  | function _ _ body => calleesList body
  | call callee operands definition => callee :: (calleesList operands ++ calleesOption definition)
  | assign _ value => callees value
  | branch condition body orelse => callees condition ++ (calleesList body ++ calleesElse orelse)
  | otherwise body => calleesList body
  | loop _ iterator body => callees iterator ++ calleesList body
  | ret value => calleesOption value
  | sequence values => calleesList values

def calleesList : List Node → List String
  | [] => []
  | n :: ns => callees n ++ calleesList ns

def calleesOption : Option Node → List String
  | none => []
  | some n => callees n

def calleesElse : Option (List Node) → List String
  | none => []
  | some ns => calleesList ns

end

def Meets (ms : List Mark) (names : List String) : Prop :=
  ∀ name ∈ names, .definition name ∈ ms ∨ .reference name ∈ ms

theorem Meets.mono {ms ms' : List Mark} {names : List String} (h : Meets ms names)
    (more : ms ⊆ ms') : Meets ms' names :=
  fun name inside => (h name inside).imp (@more _) (@more _)

theorem Meets.append {ms ms' : List Mark} {names names' : List String} (h : Meets ms names)
    (h' : Meets ms' names') : Meets (ms ++ ms') (names ++ names') :=
  List.forall_mem_append.2 ⟨h.mono (List.subset_append_left _ _),
    h'.mono (List.subset_append_right _ _)⟩

theorem Meets.nil (ms : List Mark) : Meets ms [] :=
  List.forall_mem_nil _

theorem meets_list {ns : List Node} (each : ∀ n ∈ ns, Meets n.marks n.callees) :
    Meets (marksList ns) (calleesList ns) := by
  induction ns with
  | nil => exact .nil _
  | cons n ns ih =>
    obtain ⟨head, tail⟩ := List.forall_mem_cons.1 each
    exact head.append (ih tail)

/-- In a program that obeys the grammar, a call that carries a definition goes by its name. -/
theorem Fits.meets {role : Role} {n : Node} (fits : Fits role n) : Meets n.marks n.callees := by
  induction fits with
  | literal | symbol | ret | range => exact .nil _
  | operation _ _ _ _ each | sequence _ _ each => exact meets_list each
  | call _ each =>
    refine List.forall_mem_cons.2 ⟨.inr ?_, (meets_list each).append (.nil _)⟩
    exact List.mem_append_right _ List.mem_cons_self
  | definingCall _ _ each definition =>
    refine List.forall_mem_cons.2 ⟨.inl ?_, (meets_list each).append definition⟩
    exact List.mem_append_right _ List.mem_cons_self
  | expression _ value | assign _ value | retValue _ value => exact value
  | branch _ _ test each => exact test.append ((meets_list each).append (.nil []))
  | branchElse _ _ _ test each others =>
    exact test.append ((meets_list each).append (meets_list others))
  | loop _ _ header each => exact header.append (meets_list each)
  | function _ _ each => exact (meets_list each).mono (List.subset_cons_self _ _)

end Node

namespace Lowering

open Source State

/-- The sign that stands before a number is not in the name of lambda expressions. -/
theorem ne_lambdaName_of_mem {text : String} (inside : '_' ∈ text.toList) : text ≠ lambdaName := by
  rintro rfl
  revert inside
  decide

theorem numbered_ne_lambdaName (base : String) (n : Nat) :
    Aliases.numbered base n ≠ lambdaName := by
  refine ne_lambdaName_of_mem ?_
  simp [Aliases.numbered, String.toList_append]

theorem lambdaAlias_ne_lambdaName (n : Nat) : lambdaAlias n ≠ lambdaName := by
  refine ne_lambdaName_of_mem ?_
  simp [lambdaAlias, String.toList_append]

theorem requested_of_aliasFor {s : State} {id : FunctionId} {requested : String}
    (anonymous : s.aliasFor id requested = lambdaName) : requested = lambdaName := by
  have allotted := Aliases.allotted_allot (s.aliases.map (·.2)) requested
  change Aliases.Allotted _ _ (s.aliasFor id requested) at allotted
  generalize s.aliasFor id requested = name at allotted anonymous
  cases allotted with
  | requested => exact anonymous
  | numbered => exact absurd anonymous (numbered_ne_lambdaName _ _)

/-- A call that begins a definition under the name of lambda expressions: of a function that was
marked under it, or by that name itself, which is no identifier. -/
inductive NamelessCall (host : Host) (names : Namespace) (s : State) : Expr → Prop where
  | marked {callee args id given word t}
      (entered : Enters host names (.expr (.call callee args [])) s (.function id lambdaName) t)
      (value : calleeValue? host.world s.frames names callee = some (.marked id given, word))
      (nameless : host.world.markedName id given = lambdaName) :
      NamelessCall host names s (.call callee args [])
  | function {callee args id t}
      (entered : Enters host names (.expr (.call callee args [])) s (.function id lambdaName) t)
      (value : calleeValue? host.world s.frames names callee = some (.function id, lambdaName)) :
      NamelessCall host names s (.call callee args [])
  | closure {use args ss t}
      (entered : Enters host names (.expr (.call (.name lambdaName use) args [])) s (.body ss) t) :
      NamelessCall host names s (.call (.name lambdaName use) args [])

section Nameless

variable {host : Host} {e : EntryPoint} {d : Definition} {active : List Activation}
  {names : Namespace} {s t final : State}

theorem namelessCall_of_enters {callee : Expr} {args : List Expr} {id : FunctionId}
    (entered : Enters host names (.expr (.call callee args [])) s (.function id lambdaName) t) :
    NamelessCall host names s (.call callee args []) := by
  have entered' := entered
  cases entered' with
  | function _ _ _ called =>
    obtain ⟨⟨value, word⟩, found, called⟩ := Option.bind_eq_some_iff.1 called
    dsimp only at called
    split at called
    · cases value with
      | marked other given =>
        obtain ⟨rfl, nameless⟩ := Prod.mk.inj (Option.some.inj called)
        exact .marked entered found nameless
      | function other =>
        obtain ⟨rfl, chosen⟩ := Prod.mk.inj (Option.some.inj called)
        split at chosen
        · subst chosen
          exact .function entered found
        · rename_i own
          exact absurd chosen own
      | _ => cases called
    · cases called

/-- A function is the entry point, or it is called. -/
theorem Reaches.function_inv {id : FunctionId} {requested : String}
    (h : Reaches host e active names (.function id requested) s) :
    (id = e.id ∧ requested = e.name) ∨ ∃ callee args r,
      Reaches host e active names (.expr (.call callee args [])) r ∧
        Enters host names (.expr (.call callee args [])) r (.function id requested) s := by
  cases h with
  | entry => exact .inl ⟨rfl, rfl⟩
  | within before entered =>
    have entered' := entered
    cases entered' with
    | function => exact .inr ⟨_, _, _, before, entered⟩

theorem namelessCall_of_begins {entry : Entry} (named : e.name ≠ lambdaName)
    (begun : Begins host e entry) (anonymous : entry.name = lambdaName) :
    ∃ active names x s, Reaches host e active names (.expr x) s ∧ NamelessCall host names s x := by
  cases begun with
  | function reached =>
    obtain rfl := requested_of_aliasFor anonymous
    rcases reached.function_inv with ⟨_, same⟩ | ⟨callee, args, r, call, entered⟩
    · exact absurd same.symm named
    · exact ⟨_, _, _, _, call, namelessCall_of_enters entered⟩
  | closure reached entered =>
    cases anonymous
    exact ⟨_, _, _, _, reached, .closure entered⟩
  | lambda => exact absurd anonymous (lambdaAlias_ne_lambdaName _)

theorem Reaches.mem_entries (run : host.run e = .ok d final) {id : FunctionId} {requested : String}
    (h : Reaches host e active names (.function id requested) s) :
    .function id (s.aliasFor id requested) ∈ final.entries := by
  obtain ⟨s', _, _, same, lowered, rest⟩ := h.completes run
  rw [← aliasFor_of_silent same]
  cases lowered with
  | function _ _ _ inner =>
    exact (inner.precedes.entries.trans rest.entries).subset List.mem_cons_self

/-- An alias that is recorded is the name of a definition. -/
theorem mem_entryNames_of_aliases (consistent : Consistent final) {name : String}
    (recorded : name ∈ final.aliases.map (·.2)) : name ∈ final.entryNames := by
  rw [← consistent.runs, List.map_reverse, List.mem_reverse] at recorded
  refine final.entryNames_perm.mem_iff.2 (List.mem_append_left _ ?_)
  exact recorded

theorem NamelessCall.mem_entryNames (run : host.run e = .ok d final) {x : Expr}
    (reached : Reaches host e active names (.expr x) s) (h : NamelessCall host names s x) :
    lambdaName ∈ final.entryNames := by
  have function {callee : Expr} {args : List Expr} {id : FunctionId} {t : State}
      (reached : Reaches host e active names (.expr (.call callee args [])) s)
      (entered : Enters host names (.expr (.call callee args [])) s (.function id lambdaName) t) :
      lambdaName ∈ final.entryNames := by
    obtain ⟨_, called⟩ := reached.enters entered
    have begun := called.mem_entries run
    have allotted := Aliases.allotted_allot (t.aliases.map (·.2)) lambdaName
    change Aliases.Allotted _ _ (t.aliasFor id lambdaName) at allotted
    generalize t.aliasFor id lambdaName = name at allotted begun
    cases allotted with
    | requested => exact List.mem_map_of_mem begun
    | numbered clash =>
      -- An earlier function has the name already.
      refine mem_entryNames_of_aliases (Host.run_consistent run) ?_
      exact ((called.precedes run).aliases.map (·.2)).subset clash
  cases h with
  | marked entered => exact function reached entered
  | function entered => exact function reached entered
  | closure entered =>
    obtain ⟨_, body⟩ := reached.enters entered
    have later := (body.precedes run).entries
    cases entered with
    | closure => exact List.mem_map_of_mem (later.subset List.mem_cons_self)

end Nameless

end Lowering

namespace Host

open Lowering Node Source

variable {h : Host} {e : EntryPoint} {d : Definition} {s : State} {value : Value}
  {name : Option String} {maxDepth : Option Int}

theorem callees_subset (run : h.run e = .ok d s) : d.node.callees ⊆ d.node.definitions := by
  intro callee inside
  have fits : Fits .definition d.node := fitAll_singleton.1 (run_sound run).fits
  rcases fits.meets callee inside with defined | referred
  · exact mem_definedNames.2 defined
  · exact references_subset run (List.mem_filterMap.2 ⟨_, referred, rfl⟩)

theorem name_ne_of_entryPoint (entry : h.entry? value name maxDepth = .ok e) :
    e.name ≠ lambdaName := by
  unfold entry? at entry
  split at entry
  · cases entry
  dsimp only at entry
  split at entry
  · cases entry
  split at entry
  · cases entry
  rename_i named
  split at entry
  · cases entry
    exact named
  · split at entry
    · cases entry
      exact named
    · cases entry

/-- A lowered program has a definition or a call under the name of lambda expressions exactly if the
lowering comes to a call that begins one. -/
theorem anonymous_iff (lowered : h.lower value name maxDepth = .ok d) :
    ∃ e, h.entry? value name maxDepth = .ok e ∧
      (lambdaName ∈ d.node.definitions ∨ lambdaName ∈ d.node.callees ↔
        ∃ active names x s, Reaches h e active names (.expr x) s ∧ NamelessCall h names s x) := by
  obtain ⟨e, s, entry, run⟩ := lower_eq_ok.1 lowered
  refine ⟨e, entry, ?_, ?_⟩
  · intro found
    have defined : lambdaName ∈ d.node.definitions := found.elim id (@callees_subset _ _ _ _ run _)
    obtain ⟨begun, inside, anonymous⟩ := List.mem_map.1 ((definitions_perm run).subset defined)
    exact namelessCall_of_begins (name_ne_of_entryPoint entry) (begins_of_mem_entries run inside)
      anonymous
  · rintro ⟨active, names, x, r, reached, nameless⟩
    exact .inl ((definitions_perm run).mem_iff.2 (nameless.mem_entryNames run reached))

/-- The functions `h = udf(lambda y: y)`, marked under the given name if any, and
`def f(x): return h(x)`. -/
def markedLambda (given : Option String) : Host where
  world :=
    { modules := [("m", ⟨.user, [("f", .function "f"), ("h", .marked "h" given)]⟩)]
      functions :=
        [("f", ⟨"m", some "m", "f", "f", [], [], .body [.function "f"
          [⟨.positional, "x", none, none⟩]
          [.ret (some (.call (.name "h" .load) [.name "x" .load] []))] [] none]⟩),
        ("h", ⟨"m", some "m", lambdaName, lambdaName, ["y"], [], .body
          [.assign [.name "h" .store] (.call (.name "udf" .load)
            [.lambda [⟨.positional, "y", none, none⟩] (.name "y" .load)] [])]⟩)] }
  settings := ⟨[]⟩

/-- Under a name of its own the function is called by it, and no call is nameless. -/
theorem named_not_anonymous :
    ∃ d, (markedLambda (some "h")).lower (.function "f") none (some 100) = .ok d ∧
      ¬ ∃ active names x s, Reaches (markedLambda (some "h")) ⟨"f", "f", 100⟩ active names (.expr x)
        s ∧ NamelessCall (markedLambda (some "h")) names s x := by
  obtain ⟨d, lowered, found⟩ := exists_of_toOption
    (show ((markedLambda (some "h")).lower (.function "f") none (some 100)).toOption.map
      (fun d => (d.node.definitions, d.node.callees)) = some (["f", "h"], ["h"]) by
        decide +kernel)
  obtain ⟨e, entry, iff⟩ := anonymous_iff lowered
  have start : Host.entry? (markedLambda (some "h")) (.function "f") none (some 100) =
      .ok ⟨"f", "f", 100⟩ := by
    decide +kernel
  cases start.symm.trans entry
  obtain ⟨definitions, callees⟩ := Prod.mk.inj found
  refine ⟨d, lowered, fun nameless => ?_⟩
  have anonymous := iff.2 nameless
  rw [definitions, callees] at anonymous
  revert anonymous
  decide

/-- Marked without a name, the function is defined and called under that of lambda expressions. -/
theorem unnamed_anonymous :
    ∃ d, (markedLambda none).lower (.function "f") none (some 100) = .ok d ∧
      (d.node.definitions, d.node.callees) = (["f", lambdaName], [lambdaName]) :=
  exists_of_toOption (by decide +kernel)

end Host

end Cascade
