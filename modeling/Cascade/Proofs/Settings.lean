import Cascade.Proofs.Table
import Cascade.Settings
import Cascade.World.Provenance
import Mathlib.Data.List.DropRight

set_option autoImplicit false

namespace Cascade

namespace Text

variable {isSeparator drop : Char → Bool} {cs piece : List Char}

theorem splitWhere_of_forall_not (plain : ∀ c ∈ piece, isSeparator c = false) :
    splitWhere isSeparator piece = [piece] := by
  induction piece with
  | nil => rfl
  | cons c piece ih =>
    have first := plain c List.mem_cons_self
    have rest := ih fun d inside => plain d (List.mem_cons_of_mem c inside)
    rw [splitWhere, first, rest]
    rfl

/-- A separator ends the piece before it. -/
theorem splitWhere_append_cons {separator : Char} (plain : ∀ c ∈ piece, isSeparator c = false)
    (cut : isSeparator separator = true) (rest : List Char) :
    splitWhere isSeparator (piece ++ separator :: rest) = piece :: splitWhere isSeparator rest := by
  induction piece with
  | nil => rw [List.nil_append, splitWhere, if_pos cut]
  | cons c piece ih =>
    have first := plain c List.mem_cons_self
    have tail := ih fun d inside => plain d (List.mem_cons_of_mem c inside)
    rw [List.cons_append, splitWhere, first, tail]
    rfl

/-- A piece holds characters of the text, and none of them is a separator. -/
theorem mem_of_mem_splitWhere (found : piece ∈ splitWhere isSeparator cs) :
    ∀ c ∈ piece, c ∈ cs ∧ isSeparator c = false := by
  induction cs generalizing piece with
  | nil =>
    intro c inside
    rw [splitWhere, List.mem_singleton] at found
    simp [found] at inside
  | cons d cs ih =>
    intro c inside
    rw [splitWhere] at found
    split at found
    · rcases List.mem_cons.1 found with rfl | later
      · simp at inside
      · exact (ih later c inside).imp_left (List.mem_cons_of_mem d)
    next plain =>
      have own : d ∈ d :: cs ∧ isSeparator d = false :=
        ⟨List.mem_cons_self, by simpa using plain⟩
      split at found
      · rw [List.mem_singleton.1 found, List.mem_singleton] at inside
        exact inside ▸ own
      next first pieces split =>
        rw [split] at ih
        rcases List.mem_cons.1 found with rfl | later
        · rcases List.mem_cons.1 inside with rfl | inside
          · exact own
          · exact (ih List.mem_cons_self c inside).imp_left (List.mem_cons_of_mem d)
        · exact (ih (List.mem_cons_of_mem _ later) c inside).imp_left (List.mem_cons_of_mem d)

theorem trimChars_eq_rdropWhile (drop : Char → Bool) (cs : List Char) :
    trimChars drop cs = (cs.dropWhile drop).rdropWhile drop := rfl

theorem mem_of_mem_trimChars {c : Char} (inside : c ∈ trimChars drop cs) : c ∈ cs := by
  rw [trimChars_eq_rdropWhile] at inside
  exact (List.dropWhile_suffix drop).subset ((List.rdropWhile_prefix drop _).subset inside)

/-- What is left after trimming begins and ends with characters that stay. -/
theorem trimChars_ends (drop : Char → Bool) (cs : List Char) :
    (trimChars drop cs).head?.any drop = false ∧ (trimChars drop cs).getLast?.any drop = false := by
  rw [trimChars_eq_rdropWhile]
  set front := cs.dropWhile drop with trimmed
  constructor
  · have start : front.head?.any drop = false := by
      rw [trimmed]
      have := List.head?_dropWhile_not drop cs
      cases shape : (cs.dropWhile drop).head? with
      | none => rfl
      | some c => simpa [shape] using this
    obtain ⟨back, whole⟩ := List.rdropWhile_prefix drop front
    cases shape : front.rdropWhile drop with
    | nil => rfl
    | cons c rest =>
      rw [shape] at whole
      rw [← whole] at start
      exact start
  · cases shape : (front.rdropWhile drop).getLast? with
    | none => rfl
    | some c =>
      have filled : front.rdropWhile drop ≠ [] := by
        rintro empty
        simp [empty] at shape
      have last := List.rdropWhile_last_not drop front filled
      rw [List.getLast?_eq_some_getLast filled] at shape
      rw [Option.some.inj shape] at last
      simpa using last

theorem trimChars_eq_self (first : cs.head?.any drop = false) (last : cs.getLast?.any drop = false) :
    trimChars drop cs = cs := by
  rw [trimChars_eq_rdropWhile]
  have front : cs.dropWhile drop = cs := by
    cases cs with
    | nil => rfl
    | cons c cs =>
      have keeps : drop c = false := first
      rw [List.dropWhile_cons, keeps]
      rfl
  rw [front, List.rdropWhile_eq_self_iff]
  intro filled
  rw [List.getLast?_eq_some_getLast filled] at last
  simpa using last

end Text

namespace Settings

/-- A name that a module list can hold: not empty, without a separator inside and without white
space around it. -/
def isModuleName (name : String) : Bool :=
  name ≠ "" && name.toList.all (fun c => !(c == ',' || c == ':')) &&
    !name.toList.head?.any Text.isBlank && !name.toList.getLast?.any Text.isBlank

theorem isModuleName_iff (name : String) :
    isModuleName name = true ↔
      name ≠ "" ∧ (∀ c ∈ name.toList, (c == ',' || c == ':') = false) ∧
        name.toList.head?.any Text.isBlank = false ∧
        name.toList.getLast?.any Text.isBlank = false := by
  simp [isModuleName, and_assoc]

theorem isModuleName_of_mem_splitModules {raw name : String} (found : name ∈ splitModules raw) :
    isModuleName name = true := by
  obtain ⟨inside, filled⟩ := List.mem_filter.1 found
  obtain ⟨piece, cut, rfl⟩ := List.mem_map.1 inside
  have ends := Text.trimChars_ends Text.isBlank piece
  rw [isModuleName_iff, String.toList_ofList]
  refine ⟨by simpa using filled, fun c kept => ?_, ends⟩
  exact (Text.mem_of_mem_splitWhere cut c (Text.mem_of_mem_trimChars kept)).2

/-- The names of a list hold only characters of its text. -/
theorem isStorable_of_mem_splitModules {raw name : String} (storable : isStorable raw = true)
    (found : name ∈ splitModules raw) : isStorable name = true := by
  obtain ⟨piece, cut, rfl⟩ := List.mem_map.1 (List.mem_filter.1 found).1
  simp only [isStorable, Bool.not_eq_true', List.contains_eq_mem, decide_eq_false_iff_not,
    String.toList_ofList] at storable ⊢
  intro kept
  exact storable (Text.mem_of_mem_splitWhere cut _ (Text.mem_of_mem_trimChars kept)).1

/-- The first name of a joined list stands before a separator. -/
theorem toList_joinModules_cons_cons (name next : String) (names : List String) :
    (joinModules (name :: next :: names)).toList =
      name.toList ++ ':' :: (joinModules (next :: names)).toList := by
  simp [joinModules, String.toList_intercalate]

theorem isStorable_joinModules (names : List String) :
    isStorable (joinModules names) = true ↔ ∀ name ∈ names, isStorable name = true := by
  induction names with
  | nil => simp [joinModules, isStorable]
  | cons name names ih =>
    cases names with
    | nil => simp [joinModules]
    | cons next names =>
      rw [List.forall_mem_cons, ← ih]
      simp [isStorable, toList_joinModules_cons_cons]

theorem pieces_joinModules {names : List String} (filled : names ≠ [])
    (good : ∀ name ∈ names, isModuleName name = true) :
    Text.splitWhere (fun c => c == ',' || c == ':') (joinModules names).toList =
      names.map String.toList := by
  induction names with
  | nil => exact absurd rfl filled
  | cons name names ih =>
    have plain := ((isModuleName_iff name).1 (good name List.mem_cons_self)).2.1
    cases names with
    | nil =>
      have single : joinModules [name] = name := by simp [joinModules]
      rw [single, Text.splitWhere_of_forall_not plain]
      rfl
    | cons next names =>
      have rest := ih (List.cons_ne_nil next names) fun n inside =>
        good n (List.mem_cons_of_mem name inside)
      rw [toList_joinModules_cons_cons, Text.splitWhere_append_cons plain rfl, rest]
      rfl

/-- A list of module names, and only such a list, is read as it was written. -/
theorem splitModules_joinModules (names : List String) :
    splitModules (joinModules names) = names ↔ ∀ name ∈ names, isModuleName name = true := by
  constructor
  · intro same name inside
    exact isModuleName_of_mem_splitModules (same ▸ inside)
  · intro good
    cases shape : names with
    | nil => rfl
    | cons first rest =>
      rw [← shape, splitModules, pieces_joinModules (by simp [shape]) good, List.map_map]
      have kept : ∀ name ∈ names,
          String.ofList (Text.trimChars Text.isBlank name.toList) = name ∧ name ≠ "" := by
        intro name inside
        obtain ⟨filled, -, first, last⟩ := (isModuleName_iff name).1 (good name inside)
        rw [Text.trimChars_eq_self first last, String.ofList_toList]
        exact ⟨rfl, filled⟩
      have same : names.map ((fun piece => String.ofList (Text.trimChars Text.isBlank piece)) ∘
          String.toList) = names :=
        (List.map_congr_left fun name inside => (kept name inside).1).trans (List.map_id names)
      rw [same]
      exact List.filter_eq_self.2 fun name inside => by simpa using (kept name inside).2

theorem get?_put_some (s : Settings) (name value other : String) :
    (s.put name (some value)).get? other = if other = name then some value else s.get? other :=
  Table.get?_set s.values name other value

/-- A list of names is accepted if each of its names is. -/
theorem accept_joinModules {names : List String} (t : Settings)
    (storable : ∀ name ∈ names, isStorable name = true) : accept (joinModules names) t = .ok t := by
  rw [accept, if_pos ((isStorable_joinModules names).2 storable)]

theorem accept_joinModules_eq_error {names : List String} (t : Settings) :
    accept (joinModules names) t = .error .nullCharacter ↔
      ∃ name ∈ names, isStorable name = false := by
  constructor
  · intro refused
    by_contra none
    push Not at none
    rw [accept_joinModules t fun name inside => by simpa using none name inside] at refused
    cases refused
  · rintro ⟨name, inside, bad⟩
    have text : ¬ isStorable (joinModules names) = true := by
      rw [isStorable_joinModules]
      intro all
      simp [all name inside] at bad
    rw [accept, if_neg text]

theorem eq_of_accept {value : String} {s t : Settings} (accepted : accept value s = .ok t) :
    isStorable value = true ∧ t = s := by
  unfold accept at accepted
  split at accepted
  next storable => exact ⟨storable, by cases accepted; rfl⟩
  next => cases accepted

theorem userModules_setUserModules (s : Settings) (names : List String) :
    (s.setUserModules names).userModules = splitModules (joinModules names) := by
  simp [userModules, setUserModules, get?_put_some]

theorem libraryModules_setLibraryModules (s : Settings) (names : List String) :
    (s.setLibraryModules names).libraryModules =
      ownModules ++ splitModules (joinModules names) := by
  simp [libraryModules, setLibraryModules, get?_put_some]

theorem mem_libraryModules {s : Settings} {name : String} (found : name ∈ s.libraryModules) :
    name = "transmog" ∨ name ∈ splitModules ((s.get? libraryModulesVariable).getD "") := by
  simpa [libraryModules, ownModules] using found

theorem isStorable_of_mem_libraryModules {s : Settings} {name : String}
    (storable : isStorable ((s.get? libraryModulesVariable).getD "") = true)
    (found : name ∈ s.libraryModules) : isStorable name = true := by
  rcases mem_libraryModules found with rfl | configured
  · decide +kernel
  · exact isStorable_of_mem_splitModules storable configured

theorem libraryModules_written_back (s : Settings) :
    (s.setLibraryModules s.libraryModules).libraryModules = ownModules ++ s.libraryModules := by
  rw [libraryModules_setLibraryModules, (splitModules_joinModules s.libraryModules).2]
  intro name found
  rcases mem_libraryModules found with rfl | configured
  · decide +kernel
  · exact isModuleName_of_mem_splitModules configured

/-- The built-in names in front of a list that begins with them match what the list matches. -/
theorem matchesModule_ownModules_append (name : String) (s : Settings) :
    Cascade.matchesModule name (ownModules ++ s.libraryModules) =
      Cascade.matchesModule name s.libraryModules := by
  simp [matchesModule, libraryModules]

def holdsModules (s : Settings) : Bool :=
  (s.get? userModulesVariable).all isStorable && (s.get? libraryModulesVariable).all isStorable

theorem isStorable_getD {s : Settings} {name : String}
    (held : (s.get? name).all isStorable = true) : isStorable ((s.get? name).getD "") = true := by
  cases found : s.get? name with
  | none => rfl
  | some raw => simpa [found] using held

/-- A module list that is read, written back and read again is the same list, with the built-in names
in front once more where the list always begins with them, and no other variable changes.  Any list
of names is refused or read as it was written exactly as its names are. -/
theorem modules_written_back (s : Settings) (held : s.holdsModules = true) :
    (∃ t, s.setUserModules? s.userModules = .ok t ∧ t.userModules = s.userModules ∧
      ∀ name ≠ userModulesVariable, t.get? name = s.get? name) ∧
    (∃ t, s.setLibraryModules? s.libraryModules = .ok t ∧
      t.libraryModules = ownModules ++ s.libraryModules ∧
      (∀ name, matchesModule name t.libraryModules = matchesModule name s.libraryModules) ∧
      ∀ name ≠ libraryModulesVariable, t.get? name = s.get? name) ∧
    (∀ names, (∃ t, s.setUserModules? names = .ok t ∧ t.userModules = names) ↔
      ∀ name ∈ names, isModuleName name = true ∧ isStorable name = true) ∧
    ∀ names, s.setUserModules? names = .error .nullCharacter ↔
      ∃ name ∈ names, isStorable name = false := by
  obtain ⟨user, library⟩ := (Bool.and_eq_true _ _).mp held
  refine ⟨⟨s.setUserModules s.userModules, ?_, ?_, ?_⟩,
    ⟨s.setLibraryModules s.libraryModules, ?_, ?_, ?_, ?_⟩, fun names => ?_, fun names => ?_⟩
  · exact accept_joinModules _ fun name => isStorable_of_mem_splitModules (isStorable_getD user)
  · rw [userModules_setUserModules, splitModules_joinModules]
    exact fun name => isModuleName_of_mem_splitModules
  · intro name other
    rw [setUserModules, get?_put_some, if_neg other]
  · exact accept_joinModules _ fun name => isStorable_of_mem_libraryModules (isStorable_getD library)
  · exact libraryModules_written_back s
  · intro name
    rw [libraryModules_written_back, matchesModule_ownModules_append]
  · intro name other
    rw [setLibraryModules, get?_put_some, if_neg other]
  · constructor
    · rintro ⟨t, accepted, same⟩ name inside
      obtain ⟨storable, rfl⟩ := eq_of_accept accepted
      rw [userModules_setUserModules, splitModules_joinModules] at same
      exact ⟨same name inside, (isStorable_joinModules names).1 storable name inside⟩
    · intro good
      refine ⟨s.setUserModules names, accept_joinModules _ fun name inside => (good name inside).2, ?_⟩
      rw [userModules_setUserModules, splitModules_joinModules]
      exact fun name inside => (good name inside).1
  · exact accept_joinModules_eq_error _

/-- A list with empty names, with white space and with both separators. -/
def sampleModules : Settings :=
  ⟨[(userModulesVariable, " app.udfs ,, app.more: jobs:"), (libraryModulesVariable, "vendor")]⟩

theorem modules_written_back_sample :
    sampleModules.holdsModules = true ∧
    sampleModules.userModules = ["app.udfs", "app.more", "jobs"] ∧
    (∃ t, sampleModules.setUserModules? sampleModules.userModules = .ok t ∧
      t.userModules = sampleModules.userModules) ∧
    ∃ t, sampleModules.setUserModules? ["a.b", "c"] = .ok t ∧ t.userModules = ["a.b", "c"] := by
  have held : sampleModules.holdsModules = true := by decide +kernel
  obtain ⟨⟨t, accepted, same, -⟩, -, names, -⟩ := modules_written_back sampleModules held
  exact ⟨held, by decide +kernel, ⟨t, accepted, same⟩, (names ["a.b", "c"]).2 (by decide +kernel)⟩

/-- The list of libraries, written back and read again, is longer. -/
theorem libraryModules_written_back_longer :
    ∃ t, (⟨[]⟩ : Settings).setLibraryModules? (⟨[]⟩ : Settings).libraryModules = .ok t ∧
      (⟨[]⟩ : Settings).libraryModules = ["transmog"] ∧
      t.libraryModules = ["transmog", "transmog"] :=
  ⟨_, accept_joinModules _ (by decide +kernel), rfl, by decide +kernel⟩

end Settings

end Cascade
