import Cascade.Node.Basic
import Mathlib.Tactic.Tauto

set_option autoImplicit false

namespace Cascade

inductive Mark where
  | definition (name : String)
  | reference (name : String)
deriving DecidableEq

namespace Mark

def defined? : Mark → Option String
  | definition name => some name
  | reference _ => none

def referred? : Mark → Option String
  | definition _ => none
  | reference name => some name

end Mark

def definedNames (ms : List Mark) : List String :=
  ms.filterMap Mark.defined?

def referredNames (ms : List Mark) : List String :=
  ms.filterMap Mark.referred?

def ahead : List Mark → List String
  | [] => []
  | .definition name :: ms => (ahead ms).filter (· ≠ name)
  | .reference name :: ms => name :: ahead ms

namespace Node

mutual

/-- The marks of a node, in reading order.  A call without definition refers to its function where
the definition would stand, behind the operands. -/
def marks : Node → List Mark
  | literal _ | symbol _ | range .. => []
  | operation _ _ operands => marksList operands
  | function name _ body => .definition name :: marksList body
  | call callee operands definition => marksList operands ++ callMarks callee definition
  | assign _ value => marks value
  | branch condition body orelse => marks condition ++ (marksList body ++ elseMarks orelse)
  | otherwise body => marksList body
  | loop _ iterator body => marks iterator ++ marksList body
  | ret value => valueMarks value
  | sequence values => marksList values

def marksList : List Node → List Mark
  | [] => []
  | n :: ns => marks n ++ marksList ns

def callMarks (callee : String) : Option Node → List Mark
  | none => [.reference callee]
  | some definition => marks definition

def elseMarks : Option (List Node) → List Mark
  | none => []
  | some body => marksList body

def valueMarks : Option Node → List Mark
  | none => []
  | some value => marks value

end

def definitions (n : Node) : List String :=
  definedNames n.marks

def references (n : Node) : List String :=
  referredNames n.marks

end Node

structure Site where
  before : List Mark
  callee : String
  operands : List Node
  definition : Node

namespace Site

def after (ms : List Mark) (site : Site) : Site :=
  { site with before := ms ++ site.before }

/-- An operand of the call refers to a function that is first defined in the call's own
definition, which is read later. -/
def RefersAhead (site : Site) (name : String) : Prop :=
  name ∉ definedNames site.before ∧ name ∈ ahead (Node.marksList site.operands) ∧
    name ∈ site.definition.definitions

end Site

namespace Node

mutual

def sites : Node → List Site
  | literal _ | symbol _ | range .. => []
  | operation _ _ operands => sitesList operands
  | function name _ body => (sitesList body).map (Site.after [.definition name])
  | call callee operands definition => callSites callee operands (sitesList operands) definition
  | assign _ value => sites value
  | branch condition body orelse =>
    sites condition ++ (sitesList body ++ (elseSites orelse).map (Site.after (marksList body))).map
      (Site.after (marks condition))
  | otherwise body => sitesList body
  | loop _ iterator body => sites iterator ++ (sitesList body).map (Site.after (marks iterator))
  | ret value => valueSites value
  | sequence values => sitesList values

def sitesList : List Node → List Site
  | [] => []
  | n :: ns => sites n ++ (sitesList ns).map (Site.after (marks n))

def callSites (callee : String) (operands : List Node) (inner : List Site) :
    Option Node → List Site
  | none => inner
  | some definition =>
    ⟨[], callee, operands, definition⟩ ::
      (inner ++ (sites definition).map (Site.after (marksList operands)))

def elseSites : Option (List Node) → List Site
  | none => []
  | some body => sitesList body

def valueSites : Option Node → List Site
  | none => []
  | some value => sites value

end

end Node

@[simp] theorem definedNames_nil : definedNames [] = [] := rfl

@[simp] theorem definedNames_definition (name : String) (ms : List Mark) :
    definedNames (.definition name :: ms) = name :: definedNames ms := rfl

@[simp] theorem definedNames_reference (name : String) (ms : List Mark) :
    definedNames (.reference name :: ms) = definedNames ms := rfl

@[simp] theorem definedNames_append (xs ys : List Mark) :
    definedNames (xs ++ ys) = definedNames xs ++ definedNames ys :=
  List.filterMap_append

theorem mem_definedNames {name : String} {ms : List Mark} :
    name ∈ definedNames ms ↔ .definition name ∈ ms := by
  induction ms with
  | nil => simp
  | cons m ms ih => cases m <;> simp [ih]

theorem mem_ahead_append {name : String} {xs ys : List Mark} :
    name ∈ ahead (xs ++ ys) ↔ name ∈ ahead xs ∨ (name ∉ definedNames xs ∧ name ∈ ahead ys) := by
  induction xs with
  | nil => simp [ahead]
  | cons m ms ih =>
    cases m with
    | definition other =>
      simp only [List.cons_append, ahead, List.mem_filter, ih, definedNames_definition,
        List.mem_cons, decide_eq_true_eq]
      tauto
    | reference other =>
      simp only [List.cons_append, ahead, List.mem_cons, ih, definedNames_reference]
      tauto

/-- A name is ahead exactly if some call refers to it with no definition of it read before. -/
theorem mem_ahead_iff {name : String} {ms : List Mark} :
    name ∈ ahead ms ↔ ∃ pre post, ms = pre ++ .reference name :: post ∧
      .definition name ∉ pre := by
  constructor
  · intro h
    induction ms with
    | nil => simp [ahead] at h
    | cons m ms ih =>
      cases m with
      | definition other =>
        simp only [ahead, List.mem_filter, decide_eq_true_eq] at h
        obtain ⟨pre, post, rfl, undefined⟩ := ih h.1
        refine ⟨.definition other :: pre, post, rfl, ?_⟩
        simp only [List.mem_cons, Mark.definition.injEq, not_or]
        exact ⟨h.2, undefined⟩
      | reference other =>
        rcases List.mem_cons.1 h with rfl | h
        · exact ⟨[], ms, rfl, List.not_mem_nil⟩
        · obtain ⟨pre, post, rfl, undefined⟩ := ih h
          exact ⟨.reference other :: pre, post, rfl, by simpa using undefined⟩
  · rintro ⟨pre, post, rfl, undefined⟩
    rw [mem_ahead_append]
    right
    rw [mem_definedNames]
    exact ⟨undefined, List.mem_cons_self⟩

theorem mem_referredNames_of_ahead {name : String} {ms : List Mark} (h : name ∈ referredNames ms) :
    name ∈ definedNames ms ∨ name ∈ ahead ms := by
  induction ms with
  | nil => simp [referredNames] at h
  | cons m ms ih =>
    cases m with
    | definition other =>
      by_cases same : name = other
      · exact .inl (by simp [same])
      · rcases ih h with defined | later
        · exact .inl (by simp [defined])
        · exact .inr (by simp [ahead, later, same])
    | reference other =>
      rcases List.mem_cons.1 h with rfl | h
      · exact .inr List.mem_cons_self
      · rcases ih h with defined | later
        · exact .inl defined
        · exact .inr (List.mem_cons_of_mem _ later)

namespace Node

@[simp] theorem marksList_append (ns ms : List Node) :
    marksList (ns ++ ms) = marksList ns ++ marksList ms := by
  induction ns with
  | nil => simp [marksList]
  | cons n ns ih => simp [marksList, ih]

@[simp] theorem marksList_singleton (n : Node) : marksList [n] = marks n := by
  simp [marksList]

end Node

namespace Site

@[simp] theorem after_nil : after [] = id := rfl

theorem after_after (xs ys : List Mark) (site : Site) :
    (site.after ys).after xs = site.after (xs ++ ys) := by
  simp [after]

theorem refersAhead_after {ms : List Mark} {site : Site} {name : String}
    (fresh : name ∉ definedNames ms) (h : site.RefersAhead name) :
    (site.after ms).RefersAhead name := by
  refine ⟨?_, h.2⟩
  simp only [after, definedNames_append, List.mem_append, not_or]
  exact ⟨fresh, h.1⟩

end Site

namespace Node

@[simp] theorem sitesList_append (ns ms : List Node) :
    sitesList (ns ++ ms) = sitesList ns ++ (sitesList ms).map (Site.after (marksList ns)) := by
  induction ns with
  | nil => simp [sitesList, marksList]
  | cons n ns ih => simp [sitesList, marksList, ih, Function.comp_def, Site.after_after]

@[simp] theorem sitesList_singleton (n : Node) : sitesList [n] = sites n := by
  simp [sitesList]

end Node

def Site.In (site : Site) (ms : List Mark) : Prop :=
  ∃ post, ms = site.before ++ (Node.marksList site.operands ++ (site.definition.marks ++ post))

namespace Site

theorem In.append_right {site : Site} {ms : List Mark} (h : site.In ms) (more : List Mark) :
    site.In (ms ++ more) := by
  obtain ⟨post, rfl⟩ := h
  exact ⟨post ++ more, by simp⟩

theorem In.after {site : Site} {ms : List Mark} (h : site.In ms) (earlier : List Mark) :
    (site.after earlier).In (earlier ++ ms) := by
  obtain ⟨post, rfl⟩ := h
  exact ⟨post, by simp [Site.after]⟩

theorem In.map_after {site : Site} {ms earlier : List Mark} {sites : List Site}
    (all : ∀ site ∈ sites, site.In ms) (h : site ∈ sites.map (Site.after earlier)) :
    site.In (earlier ++ ms) := by
  obtain ⟨inner, member, rfl⟩ := List.mem_map.1 h
  exact (all inner member).after earlier

/-- Operands that refer ahead make the whole reading do so. -/
theorem In.mem_ahead {site : Site} {ms : List Mark} {name : String} (h : site.In ms)
    (refers : site.RefersAhead name) : name ∈ ahead ms := by
  obtain ⟨post, rfl⟩ := h
  rw [mem_ahead_append, mem_ahead_append]
  exact .inr ⟨refers.1, .inl refers.2.1⟩

theorem In.mem_definedNames {site : Site} {ms : List Mark} {name : String} (h : site.In ms)
    (defined : name ∈ site.definition.definitions) : name ∈ definedNames ms := by
  obtain ⟨post, rfl⟩ := h
  simp only [definedNames_append, List.mem_append]
  exact .inr (.inr (.inl defined))

end Site

namespace Node

mutual

theorem sites_in : ∀ (n : Node), ∀ site ∈ n.sites, site.In n.marks
  | literal _, _, h | symbol _, _, h | range .., _, h => by simp [sites] at h
  | operation _ _ operands, site, h => sitesList_in operands site h
  | function name _ body, site, h => by
    have placed : site.In ([.definition name] ++ marksList body) :=
      Site.In.map_after (sitesList_in body) h
    exact placed
  | call callee operands none, site, h => (sitesList_in operands site h).append_right _
  | call callee operands (some definition), site, h => by
    rcases List.mem_cons.1 h with rfl | h
    · exact ⟨[], by simp [marks, callMarks]⟩
    · rcases List.mem_append.1 h with h | h
      · exact (sitesList_in operands site h).append_right _
      · exact Site.In.map_after (sites_in definition) h
  | assign _ value, site, h => sites_in value site h
  | branch condition body orelse, site, h => by
    rcases List.mem_append.1 h with h | h
    · exact (sites_in condition site h).append_right _
    · refine Site.In.map_after (fun inner member => ?_) h
      rcases List.mem_append.1 member with member | member
      · exact (sitesList_in body inner member).append_right _
      · cases orelse with
        | none => simp [elseSites] at member
        | some other => exact Site.In.map_after (sitesList_in other) member
  | otherwise body, site, h => sitesList_in body site h
  | loop _ iterator body, site, h => by
    rcases List.mem_append.1 h with h | h
    · exact (sites_in iterator site h).append_right _
    · exact Site.In.map_after (sitesList_in body) h
  | ret none, site, h => by simp [sites, valueSites] at h
  | ret (some value), site, h => sites_in value site h
  | sequence values, site, h => sitesList_in values site h

theorem sitesList_in : ∀ (ns : List Node), ∀ site ∈ sitesList ns, site.In (marksList ns)
  | [], _, h => by simp [sitesList] at h
  | n :: ns, site, h => by
    rcases List.mem_append.1 h with h | h
    · exact (sites_in n site h).append_right _
    · exact Site.In.map_after (sitesList_in ns) h

end

end Node

end Cascade
