import Cascade.World.Provenance

set_option autoImplicit false

/-!
# How deep user code may be nested

The chain of scopes of a function has one scope for the function itself, one for each function
around it and one for its module.  A chain is built for up to `maxScopeChain` functions around, but
the way outwards ends one scope before the module of the longest chains.
-/
namespace Cascade

namespace Text

def localsWord : List Char := ".<locals>.".toList

theorem localsWord_eq :
    localsWord = ['.', '<', 'l', 'o', 'c', 'a', 'l', 's', '>', '.'] := by
  decide

theorem splitAfter_skip (word front cs : List Char) :
    splitAfter word front.length (front ++ cs) = splitAfter word 0 cs := by
  induction front with
  | nil => rfl
  | cons c front ih => exact ih

theorem splitAfter_word {word : List Char} (filled : word ≠ []) (cs : List Char) :
    splitAfter word 0 (word ++ cs) = [] :: splitAfter word 0 cs := by
  obtain ⟨c, front, rfl⟩ := List.exists_cons_of_ne_nil filled
  have found : (c :: front).isPrefixOf (c :: (front ++ cs)) = true :=
    List.isPrefixOf_iff_prefix.2 (List.prefix_append (c :: front) cs)
  rw [List.cons_append, splitAfter, if_pos found]
  exact congrArg ([] :: ·) (splitAfter_skip (c :: front) front cs)

/-- Where the word does not begin, a character belongs to the next piece. -/
theorem splitAfter_cons {word cs piece : List Char} {pieces : List (List Char)} {c : Char}
    (absent : word.isPrefixOf (c :: cs) = false)
    (rest : splitAfter word 0 cs = piece :: pieces) :
    splitAfter word 0 (c :: cs) = (c :: piece) :: pieces := by
  rw [splitAfter, if_neg (by rw [absent]; exact Bool.false_ne_true), rest]

theorem localsWord_absent {c : Char} {cs : List Char} (next : cs.head? ≠ some '<') :
    localsWord.isPrefixOf (c :: cs) = false := by
  rw [localsWord_eq]
  cases cs with
  | nil => simp [List.isPrefixOf]
  | cons d cs =>
    have other : ('<' == d) = false := by
      rw [beq_eq_false_iff_ne]
      rintro rfl
      exact next rfl
    simp [List.isPrefixOf, other]

/-- A label without the sign `<` is the first piece of what it begins. -/
theorem splitAfter_label {label rest piece : List Char} {pieces : List (List Char)}
    (plain : '<' ∉ label) (next : rest.head? ≠ some '<')
    (split : splitAfter localsWord 0 rest = piece :: pieces) :
    splitAfter localsWord 0 (label ++ rest) = (label ++ piece) :: pieces := by
  induction label with
  | nil => exact split
  | cons c label ih =>
    have inner : '<' ∉ label := fun inside => plain (List.mem_cons_of_mem c inside)
    refine splitAfter_cons (localsWord_absent ?_) (ih inner)
    cases label with
    | nil => exact next
    | cons d label =>
      intro same
      cases Option.some.inj same
      exact inner List.mem_cons_self

end Text

def nestedQualname (outer : List String) (name : String) : String :=
  String.ofList (outer.flatMap (fun label => label.toList ++ Text.localsWord) ++ name.toList)

open Text in
theorem splitAfter_nestedQualname {outer : List String} {name : String}
    (plain : ∀ label ∈ outer, '<' ∉ label.toList) (plainName : '<' ∉ name.toList) :
    splitAfter localsWord 0
        (outer.flatMap (fun label => label.toList ++ localsWord) ++ name.toList) =
      outer.map String.toList ++ [name.toList] := by
  induction outer with
  | nil =>
    have nothing : ([] : List Char).head? ≠ some '<' := by simp
    have whole := splitAfter_label plainName nothing rfl
    rwa [List.append_nil] at whole
  | cons label outer ih =>
    have inner := ih fun other inside => plain other (List.mem_cons_of_mem _ inside)
    rw [List.flatMap_cons, List.append_assoc, List.append_assoc]
    have filled : localsWord ≠ [] := by
      rw [localsWord_eq]
      exact List.cons_ne_nil _ _
    have next : (localsWord ++ (outer.flatMap (fun label => label.toList ++ localsWord) ++
        name.toList)).head? ≠ some '<' := by
      rw [localsWord_eq]
      simp
    have split := splitAfter_label (plain label List.mem_cons_self) next
      (splitAfter_word filled _)
    rw [split, List.append_nil, inner]
    rfl

/-- The functions around a function are read off its qualified name. -/
theorem enclosingLabels_nestedQualname {outer : List String} {name : String}
    (plain : ∀ label ∈ outer, '<' ∉ label.toList) (plainName : '<' ∉ name.toList) :
    enclosingLabels (nestedQualname outer name) = outer := by
  have split := splitAfter_nestedQualname plain plainName
  have text : (nestedQualname outer name).toList =
      outer.flatMap (fun label => label.toList ++ Text.localsWord) ++ name.toList :=
    String.toList_ofList
  change ((Text.splitAfter Text.localsWord 0 (nestedQualname outer name).toList).map
    String.ofList).dropLast = outer
  rw [text, split, List.map_append, List.map_map]
  simp

def Function.nesting (f : Function) : Nat :=
  (enclosingLabels f.qualname).length

namespace Value

def functionId? : Value → Option FunctionId
  | function id | marked id _ => some id
  | _ => none

end Value

namespace Scope

def anonymous (label : String) : Scope :=
  ⟨label, none, false⟩

theorem find?_anonymous (labels : List String) :
    (labels.map anonymous).find? isModule = none := by
  rw [List.find?_eq_none]
  intro s inside
  obtain ⟨label, _, rfl⟩ := List.mem_map.1 inside
  exact Bool.false_ne_true

/-- The way outwards ends before the module if more scopes than the bound lie before it. -/
theorem isUserCode_append (labels : List String) {m : Scope} (module : m.isModule = true) :
    isUserCode (labels.map anonymous ++ [m]) =
      (decide (labels.length ≤ maxScopeChain) && m.isGlobal) := by
  unfold isUserCode
  by_cases short : labels.length ≤ maxScopeChain
  · have whole : (labels.map anonymous ++ [m]).length ≤ maxScopeChain + 1 := by
      rw [List.length_append, List.length_map, List.length_singleton]
      omega
    rw [List.take_of_length_le whole, List.find?_append, find?_anonymous, Option.none_or,
      List.find?_singleton, module, decide_eq_true short]
    rfl
  · have cut : maxScopeChain + 1 ≤ (labels.map anonymous).length := by
      rw [List.length_map]
      omega
    rw [List.take_append_of_le_length cut, ← List.map_take, find?_anonymous,
      decide_eq_false short]
    rfl

end Scope

namespace Host

variable {h : Host} {f : Function} {chain : List Scope}

theorem moduleScope_isModule (h : Host) (name : String) : (h.moduleScope name).isModule = true := by
  unfold moduleScope
  split <;> rfl

theorem moduleScope_isGlobal (h : Host) (name : String) :
    (h.moduleScope name).isGlobal = !h.isLibraryModule name := by
  unfold moduleScope
  split <;> simp_all

/-- What the chain of a function looks like when there is one. -/
theorem functionScopes?_eq_ok (built : h.functionScopes? f = .ok chain) :
    ∃ name, f.moduleName = some name ∧ f.nesting ≤ maxScopeChain ∧
      chain = (f.qualname :: (enclosingLabels f.qualname).reverse).map Scope.anonymous ++
        [h.moduleScope name] := by
  unfold functionScopes? at built
  split at built
  · cases built
  · cases built
  · rename_i name _ found
    dsimp only at built
    split at built
    · cases built
    · rename_i shallow
      cases built
      exact ⟨name, found, Nat.not_lt.1 shallow, rfl⟩

theorem scopes?_of_functionId? {value : Value} {id : FunctionId}
    (holds : value.functionId? = some id) :
    h.scopes? value = h.functionScopes? (h.world.function id) := by
  unfold Value.functionId? at holds
  split at holds
  · cases holds
    rfl
  · cases holds
    rfl
  · cases holds

theorem isUserDefined_eq {value : Value} {id : FunctionId} {name : String}
    (holds : value.functionId? = some id) (found : (h.world.function id).moduleName = some name)
    (built : h.scopes? value = .ok chain) :
    h.isUserDefined value =
      (decide ((h.world.function id).nesting < maxScopeChain) && !h.isLibraryModule name) := by
  have scopes := built
  rw [scopes?_of_functionId? holds] at scopes
  obtain ⟨other, same, _, rfl⟩ := functionScopes?_eq_ok scopes
  cases Option.some.inj (found.symm.trans same)
  unfold isUserDefined
  rw [built]
  dsimp only
  rw [Scope.isUserCode_append _ (moduleScope_isModule h name), moduleScope_isGlobal,
    List.length_cons, List.length_reverse]
  rfl

/-- A function for which a chain of scopes is built is recognised as user code exactly if its module
belongs to no library, unless as many functions as allowed stand around it: these are taken for
library code whatever their module is. -/
theorem user_code_recognized_iff {value : Value} {id : FunctionId}
    (holds : value.functionId? = some id) (built : h.scopes? value = .ok chain) :
    ∃ name, (h.world.function id).moduleName = some name ∧
      (h.world.function id).nesting ≤ maxScopeChain ∧
      ((h.isUserDefined value = true ↔ h.isLibraryModule name = false) ↔
        h.isLibraryModule name = true ∨ (h.world.function id).nesting < maxScopeChain) := by
  have scopes := built
  rw [scopes?_of_functionId? holds] at scopes
  obtain ⟨name, found, bounded, _⟩ := functionScopes?_eq_ok scopes
  refine ⟨name, found, bounded, ?_⟩
  rw [isUserDefined_eq holds found built]
  cases h.isLibraryModule name with
  | true => simp
  | false => simp

/-- A program of one module of the user's, with a function inside a number of others. -/
def nestedIn (levels : Nat) : Host where
  world :=
    { modules := [("m", ⟨.user, []⟩)]
      functions := [("g", ⟨"m", some "m", "g", nestedQualname (List.replicate levels "f") "g", [],
        [], .missing⟩)] }
  settings := ⟨[]⟩

theorem nestedIn_nesting (levels : Nat) :
    ((nestedIn levels).world.function "g").nesting = levels := by
  have labels : enclosingLabels (nestedQualname (List.replicate levels "f") "g") =
      List.replicate levels "f" := by
    refine enclosingLabels_nestedQualname (fun label inside => ?_) (by decide)
    rw [List.eq_of_mem_replicate inside]
    decide
  change (enclosingLabels (nestedQualname (List.replicate levels "f") "g")).length = levels
  rw [labels, List.length_replicate]

theorem nestedIn_scopes? {levels : Nat} (shallow : levels ≤ maxScopeChain) :
    ∃ chain, (nestedIn levels).scopes? (.function "g") = .ok chain := by
  have bounded := Nat.not_lt.2 (Nat.le_trans (Nat.le_of_eq (nestedIn_nesting levels)) shallow)
  exact ⟨_, if_neg bounded⟩

theorem nestedIn_isLibraryModule (levels : Nat) :
    (nestedIn levels).isLibraryModule "m" = false := by
  change (nestedIn 0).isLibraryModule "m" = false
  decide +kernel

theorem nestedIn_moduleName (levels : Nat) :
    ((nestedIn levels).world.function "g").moduleName = some "m" := rfl

/-- The last depth at which user code is recognised. -/
theorem recognized_in_255 : (nestedIn 255).isUserDefined (.function "g") = true := by
  obtain ⟨chain, built⟩ := nestedIn_scopes? (show 255 ≤ maxScopeChain by decide)
  obtain ⟨name, found, _, exactly⟩ := user_code_recognized_iff rfl built
  rw [nestedIn_moduleName] at found
  cases Option.some.inj found
  have shallow : ((nestedIn 255).world.function "g").nesting < maxScopeChain := by
    rw [nestedIn_nesting]
    decide
  exact (exactly.2 (.inr shallow)).2 (nestedIn_isLibraryModule 255)

/-- The chain of a function inside 256 others is built and ends at a module of the user's, but the
function is taken for library code. -/
theorem not_recognized_in_256 :
    (∃ chain, (nestedIn 256).scopes? (.function "g") = .ok chain) ∧
      (nestedIn 256).isLibraryModule "m" = false ∧
      (nestedIn 256).isUserDefined (.function "g") = false := by
  obtain ⟨chain, built⟩ := nestedIn_scopes? (Nat.le_refl maxScopeChain)
  refine ⟨⟨chain, built⟩, nestedIn_isLibraryModule 256, ?_⟩
  rw [isUserDefined_eq rfl (nestedIn_moduleName 256) built, nestedIn_nesting]
  rfl

end Host

end Cascade
