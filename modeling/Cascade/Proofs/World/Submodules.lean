import Cascade.World.Provenance

set_option autoImplicit false

namespace Cascade

def components (name : String) : List String :=
  (name.toList.splitOn '.').map String.ofList

def submodule (name inner : String) : String :=
  name ++ "." ++ inner

theorem toList_submodule (name inner : String) :
    (submodule name inner).toList = name.toList ++ '.' :: inner.toList := by
  simp [submodule]

theorem intercalate_components (name : String) : ".".intercalate (components name) = name := by
  have texts : (components name).map String.toList = name.toList.splitOn '.' := by
    simp [components, Function.comp_def]
  have whole : ".".toList.intercalate (name.toList.splitOn '.') = name.toList :=
    List.intercalate_splitOn '.'
  rw [← String.toList_inj, String.toList_intercalate, texts, whole]

theorem components_ne_nil (name : String) : components name ≠ [] := by
  simp [components]

theorem components_submodule (name inner : String) :
    components (submodule name inner) = components name ++ components inner := by
  rw [components, toList_submodule, List.splitOn_append_cons_self, List.map_append]
  rfl

/-- The path of a module begins that of a name exactly if the name is the module or inside it. -/
theorem components_prefix_iff {m name : String} :
    components m <+: components name ↔ name = m ∨ ∃ inner, name = submodule m inner := by
  constructor
  · rintro ⟨more, whole⟩
    cases more with
    | nil =>
      rw [List.append_nil] at whole
      rw [← intercalate_components name, ← whole, intercalate_components]
      exact .inl rfl
    | cons first rest =>
      refine .inr ⟨".".intercalate (first :: rest), ?_⟩
      have joined := String.intercalate_append_of_ne_nil (s := ".") (components_ne_nil m)
        (List.cons_ne_nil first rest)
      rw [whole, intercalate_components, intercalate_components] at joined
      exact joined
  · rintro (rfl | ⟨inner, rfl⟩)
    · exact List.prefix_rfl
    · rw [components_submodule]
      exact List.prefix_append _ _

theorem isPrefixOf_iff_submodule {m name : String} :
    (m ++ ".").toList.isPrefixOf name.toList = true ↔ ∃ inner, name = submodule m inner := by
  have dotted : (m ++ ".").toList = m.toList ++ ['.'] := String.toList_append
  rw [List.isPrefixOf_iff_prefix, dotted]
  constructor
  · rintro ⟨rest, whole⟩
    refine ⟨String.ofList rest, String.toList_inj.1 ?_⟩
    rw [toList_submodule, ← whole, String.toList_ofList, List.append_assoc]
    rfl
  · rintro ⟨inner, rfl⟩
    rw [toList_submodule]
    exact ⟨inner.toList, List.append_assoc _ _ _⟩

theorem matchesModule_iff {name : String} {modules : List String} :
    matchesModule name modules = true ↔ ∃ m ∈ modules, components m <+: components name := by
  simp only [matchesModule, List.any_eq_true, Bool.or_eq_true, beq_iff_eq,
    isPrefixOf_iff_submodule, components_prefix_iff]

/-- What is matched by a list is matched with everything inside it. -/
theorem matchesModule_submodule {name : String} {modules : List String}
    (matched : matchesModule name modules = true) (inner : String) :
    matchesModule (submodule name inner) modules = true := by
  obtain ⟨m, listed, begins⟩ := matchesModule_iff.1 matched
  refine matchesModule_iff.2 ⟨m, listed, begins.trans ?_⟩
  rw [components_submodule]
  exact List.prefix_append _ _

namespace Host

/-- The main module has no dot in its name, so nothing inside a module is the main module. -/
theorem submodule_ne_main (name inner : String) : submodule name inner ≠ "__main__" := by
  intro same
  have dot : '.' ∈ (submodule name inner).toList := by
    rw [toList_submodule]
    exact List.mem_append_right _ List.mem_cons_self
  rw [same] at dot
  revert dot
  decide

/-- Where the list of libraries matches, the list of user modules decides. -/
theorem isLibraryModule_of_matches {h : Host} {name : String} (other : name ≠ "__main__")
    (listed : matchesModule name h.settings.libraryModules = true) :
    h.isLibraryModule name = !matchesModule name h.settings.userModules := by
  rw [isLibraryModule, if_neg other, listed]
  cases matchesModule name h.settings.userModules <;> rfl

/-- A module list matches a name exactly if the components of one of its names begin those of the
name, so it matches all that is inside what it matches.  What the list of libraries matches, other
than the main module, belongs to a library with all that is inside it, as far as the list of user
modules does not match. -/
theorem modules_match_by_components (name : String) (modules : List String) :
    (matchesModule name modules = true ↔ ∃ m ∈ modules, components m <+: components name) ∧
    (matchesModule name modules = true →
      ∀ inner, matchesModule (submodule name inner) modules = true) ∧
    ∀ h : Host, name ≠ "__main__" → matchesModule name h.settings.libraryModules = true →
      h.isLibraryModule name = !matchesModule name h.settings.userModules ∧
      ∀ inner, h.isLibraryModule (submodule name inner) =
        !matchesModule (submodule name inner) h.settings.userModules := by
  refine ⟨matchesModule_iff, matchesModule_submodule, fun h other listed => ⟨?_, fun inner => ?_⟩⟩
  · exact isLibraryModule_of_matches other listed
  · exact isLibraryModule_of_matches (submodule_ne_main name inner)
      (matchesModule_submodule listed inner)

/-- Libraries `vendor` and `.local`, of which `vendor.app` is the user's. -/
def vendored : Host where
  world := ⟨[], []⟩
  settings := ⟨[(Settings.userModulesVariable, "vendor.app"),
    (Settings.libraryModulesVariable, "vendor:.local")]⟩

theorem vendored_match_by_components :
    vendored.settings.libraryModules = ["transmog", "vendor", ".local"] ∧
    (components "vendor.app.jobs" = ["vendor", "app", "jobs"] ∧
      components ".local." = ["", "local", ""]) ∧
    (matchesModule "vendor.app.jobs" ["vendor.app"] = true ∧
      ¬ matchesModule "vendor.apps" ["vendor.app"] = true) ∧
    vendored.isLibraryModule "vendor.apps" = true ∧
    vendored.isLibraryModule (submodule ".local" "") = true ∧
    vendored.isLibraryModule (submodule "vendor" "app") = false := by
  obtain ⟨_, inner, _⟩ := modules_match_by_components "vendor.app" ["vendor.app"]
  obtain ⟨exactly, _, apps⟩ := modules_match_by_components "vendor.apps" ["vendor.app"]
  obtain ⟨_, _, hidden⟩ := modules_match_by_components ".local" []
  obtain ⟨_, _, vendor⟩ := modules_match_by_components "vendor" []
  refine ⟨by decide +kernel, by decide +kernel, ⟨inner (by decide +kernel) "jobs", ?_⟩, ?_, ?_, ?_⟩
  · rw [exactly]
    decide +kernel
  · rw [(apps vendored (by decide) (by decide +kernel)).1]
    decide +kernel
  · rw [(hidden vendored (by decide) (by decide +kernel)).2]
    decide +kernel
  · rw [(vendor vendored (by decide) (by decide +kernel)).2]
    decide +kernel

end Host

end Cascade
