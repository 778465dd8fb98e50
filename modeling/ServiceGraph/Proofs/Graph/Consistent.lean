import ServiceGraph.Proofs.Conflict
import ServiceGraph.Proofs.Graph.WellFormed

/-!
A file without errors declares a complete and consistent graph (`Analysis.consistent_of_clean`).

What is required is spread over all steps. Some of it is a problem at once, like a URI without a scheme;
for the rest the notes of the draft have a finding, or binding has an outcome, and both are only put
into words at the end. The proof collects, step by step, that nothing that counts is lost on the way.
-/

namespace ServiceGraph

open Syntax

/-! ## 1. Consistent graphs -/

namespace Resource

/-- A scheme, a colon and something behind it on the same line. -/
def HasScheme (uri : String) : Prop :=
  ∃ first scheme next rest, uri.toList = first :: (scheme ++ ':' :: next :: rest) ∧
    first.isAlpha = true ∧ (∀ c ∈ scheme, isSchemePart c = true) ∧ next ≠ '\n'

theorem hasScheme_of_isUri {uri : String} (h : isUri uri = true) : HasScheme uri := by
  unfold isUri at h
  cases hu : uri.toList with
  | nil => simp [hu] at h
  | cons first others =>
    rw [hu] at h
    obtain ⟨hfirst, hrest⟩ := (Bool.and_eq_true _ _).mp h
    split at hrest
    · rename_i next rest hdrop
      refine ⟨first, others.takeWhile isSchemePart, next, rest, ?_, hfirst, fun c hc => ?_, ?_⟩
      · rw [hu, ← hdrop, List.takeWhile_append_dropWhile]
      · exact List.mem_takeWhile_imp hc
      · simpa using hrest
    · cases hrest

end Resource

/-- Everything that is named is there, once, and nothing that is said is impossible. -/
structure Graph.Consistent (g : Graph) : Prop where
  operationNames : (g.operations.map (·.name)).Nodup
  promptNames : (g.prompts.map (·.name)).Nodup
  resourceNames : (g.resources.map (·.name)).Nodup
  resourceUris : (g.resources.map (·.uri)).Nodup
  groupNames : (g.groups.map (·.name)).Nodup
  members : ∀ group ∈ g.groups, ∀ name ∈ group.operations, ∃ o ∈ g.operations, o.name = name
  flags : ∀ o ∈ g.operations, ¬ (o.flags.readOnly = true ∧ o.flags.destructive = true)
  operationHandlers : ∀ o ∈ g.operations, o.handler?.isSome
  promptHandlers : ∀ p ∈ g.prompts, p.isDynamic = true → p.handler?.isSome
  resourceHandlers : ∀ r ∈ g.resources, r.isDynamic = true → r.handler?.isSome
  placeholders : ∀ p ∈ g.prompts, ∀ text, p.content = .template text →
    ∀ name, Template.Uses text name → ∃ a ∈ p.arguments, a.name = name
  uris : ∀ r ∈ g.resources, Resource.HasScheme r.uri
  dynamic : ∀ r ∈ g.resources, r.isTemplate = true ∨ r.subscribable = true → r.content = .dynamic
  bounds : ∀ n, g.HasNode n → n.constraints.Ordered
  defaults : ∀ fields, g.HasNode (.object fields) → ∀ f ∈ fields, ∀ value ∈ f.default?,
    f.schema.objection? value = none

/-! ## 2. Outcomes of binding -/

namespace Scope

variable (scope : Scope) {g : LocatedGraph}

theorem mem_outcomes_of_operation {l : Located Operation} (h : l ∈ g.operations) :
    (scope.bindOperation l).2 ∈ (scope.bind g).2 :=
  List.mem_append_left _ (List.mem_append_left _
    (List.mem_map_of_mem (List.mem_map_of_mem h)))

theorem mem_outcomes_of_prompt {l : Located Prompt} (h : l ∈ g.prompts) {o : Outcome}
    (ho : (scope.bindPrompt l).2 = some o) : o ∈ (scope.bind g).2 :=
  List.mem_append_left _ (List.mem_append_right _
    (List.mem_filterMap.mpr ⟨_, List.mem_map_of_mem h, ho⟩))

theorem mem_outcomes_of_resource {l : Located Resource} (h : l ∈ g.resources) {o : Outcome}
    (ho : (scope.bindResource l).2 = some o) : o ∈ (scope.bind g).2 :=
  List.mem_append_right _ (List.mem_filterMap.mpr ⟨_, List.mem_map_of_mem h, ho⟩)

end Scope

/-! ## 3. Analyses without errors -/

namespace Analysis

/-- What is wrong with the declarations of a file and their implementations. -/
def problems (a : Analysis) : List Diagnostic :=
  a.shapeProblems ++ a.commentProblems ++ a.typeProblems ++ a.conflicts

/-- None of the problems is an error. -/
def Clean (a : Analysis) : Prop := ∀ d ∈ a.problems, d.isError = false

variable {f : SourceFile}

namespace Clean

theorem errorFree (h : (ofFile f).Clean) : Note.ErrorFree (Draft.contentsOf (context f)).notes := by
  intro d hd
  apply h d
  refine List.mem_append_left _ (List.mem_append_right _ ?_)
  rw [typeProblems_ofFile]
  exact Note.problem_mem_diagnostics hd

theorem conflicts (h : (ofFile f).Clean) : Conflict.Clean (ofFile f).conflicts :=
  fun d hd => h d (List.mem_append_right _ hd)

/-- What the checks of the whole graph found, each by itself. -/
structure Checked (a : Analysis) : Prop where
  operationNames : Conflict.Clean (Conflict.duplicatesAfter [] "operation name"
    (Conflict.named Operation.name "name" a.contents.operations))
  promptNames : Conflict.Clean (Conflict.duplicatesAfter [] "prompt name"
    (Conflict.named Prompt.name "name" a.contents.prompts))
  resourceNames : Conflict.Clean (Conflict.duplicatesAfter [] "resource name"
    (Conflict.named Resource.name "name" a.contents.resources))
  resourceUris : Conflict.Clean (Conflict.duplicatesAfter [] "resource uri"
    (Conflict.named Resource.uri "uri" a.contents.resources))
  groupNames : Conflict.Clean (Conflict.duplicatesAfter [] "capability group name"
    (Conflict.named Group.name "name" a.contents.groups))
  flags : ∀ o ∈ a.contents.operations, Conflict.Clean (Conflict.flags o)
  members : ∀ g ∈ a.contents.groups,
    Conflict.Clean (Conflict.members (a.contents.operations.map (·.value.name)) g)
  templates : ∀ p ∈ a.contents.prompts, Conflict.Clean (Conflict.template p)
  findings : ∀ finding ∈ a.draft.findings, (Conflict.ofFinding finding).isError = false
  outcomes : ∀ o ∈ a.outcomes, o.isBound = true

theorem checked (h : (ofFile f).Clean) : Checked (ofFile f) := by
  have hall := h.conflicts
  simp only [conflicts_ofFile, Conflict.all, Conflict.duplicates, Conflict.clean_append,
    Conflict.clean_flatMap] at hall
  obtain ⟨⟨⟨⟨⟨⟨⟨⟨⟨h₁, h₂⟩, h₃⟩, h₄⟩, h₅⟩, hflags⟩, hmembers⟩, htemplates⟩, hfindings⟩, houtcomes⟩ := hall
  refine ⟨h₁, h₂, h₃, h₄, h₅, hflags, hmembers, htemplates, fun finding hf => ?_, fun o ho => ?_⟩
  · exact hfindings _ (List.mem_map_of_mem hf)
  · exact Conflict.isBound_of_outcome fun d hd =>
      houtcomes d (List.mem_filterMap.mpr ⟨o, ho, hd⟩)

/-- None of the findings of the draft is an error. -/
theorem not_mem_notes (h : (ofFile f).Clean) {finding : Finding}
    (he : (Conflict.ofFinding finding).isError = true) :
    .finding finding ∉ (Draft.contentsOf (context f)).notes := by
  intro hn
  have hmem : finding ∈ (ofFile f).draft.findings := by
    rw [findings_ofFile]
    exact Note.finding_mem_findings hn
  rw [h.checked.findings finding hmem] at he
  cases he

theorem handler?_of_operation (h : (ofFile f).Clean) {o : Operation}
    (ho : o ∈ (ofFile f).graph.operations) : o.handler?.isSome := by
  obtain ⟨l₀, hl₀, rfl⟩ := exists_draft_operation ho
  have hbound := h.checked.outcomes
  rw [outcomes_ofFile] at hbound
  exact hbound _ (Scope.mem_outcomes_of_operation _ hl₀)

theorem handler?_of_prompt (h : (ofFile f).Clean) {p : Prompt}
    (hp : p ∈ (ofFile f).graph.prompts) (hd : p.isDynamic = true) : p.handler?.isSome := by
  obtain ⟨l₀, hl₀, rfl⟩ := exists_draft_prompt hp
  have hbound := h.checked.outcomes
  rw [outcomes_ofFile] at hbound
  have hmem := fun o => Scope.mem_outcomes_of_prompt (Scope.ofFile f) hl₀ (o := o)
  unfold Scope.bindPrompt at hd hmem ⊢
  split at hd
  · rename_i hdynamic
    rw [if_pos hdynamic]
    exact hbound _ (hmem _ (by rw [if_pos hdynamic]))
  · rename_i hstatic
    exact absurd hd hstatic

theorem handler?_of_resource (h : (ofFile f).Clean) {r : Resource}
    (hr : r ∈ (ofFile f).graph.resources) (hd : r.isDynamic = true) : r.handler?.isSome := by
  obtain ⟨l₀, hl₀, rfl⟩ := exists_draft_resource hr
  have hbound := h.checked.outcomes
  rw [outcomes_ofFile] at hbound
  have hmem := fun o => Scope.mem_outcomes_of_resource (Scope.ofFile f) hl₀ (o := o)
  unfold Scope.bindResource at hd hmem ⊢
  split at hd
  · rename_i hdynamic
    rw [if_pos hdynamic]
    exact hbound _ (hmem _ (by rw [if_pos hdynamic]))
  · rename_i hstatic
    exact absurd hd hstatic

/-- A bound resource is one of the draft with a handler. -/
theorem resource_of_draft {r : Resource} (hr : r ∈ (ofFile f).graph.resources) :
    ∃ r₀ : Resource, r₀.Sound (Draft.contentsOf (context f)).notes ∧ r.uri = r₀.uri ∧
      r.subscribable = r₀.subscribable ∧ r.content = r₀.content := by
  obtain ⟨l₀, hl₀, rfl⟩ := exists_draft_resource hr
  refine ⟨l₀.value, Draft.resource_sound hl₀, ?_⟩
  unfold Scope.bindResource
  split <;> exact ⟨rfl, rfl, rfl⟩

end Clean

/-- **A file without errors has a consistent graph.** -/
theorem consistent_of_clean (f : SourceFile) (h : (ofFile f).Clean) :
    (ofFile f).graph.Consistent where
  operationNames := by
    rw [operations_graph]
    exact Conflict.nodup_of_duplicates h.checked.operationNames
  promptNames := by
    rw [prompts_graph]
    exact Conflict.nodup_of_duplicates h.checked.promptNames
  resourceNames := by
    rw [resources_graph]
    exact Conflict.nodup_of_duplicates h.checked.resourceNames
  resourceUris := by
    rw [resources_graph]
    exact Conflict.nodup_of_duplicates h.checked.resourceUris
  groupNames := by
    rw [groups_graph]
    exact Conflict.nodup_of_duplicates h.checked.groupNames
  members group hg name hname := by
    rw [groups_graph] at hg
    rw [operations_graph]
    obtain ⟨l, hl, rfl⟩ := List.mem_map.mp hg
    have hknown := Conflict.known_of_members (h.checked.members l hl) name hname
    obtain ⟨o, ho, rfl⟩ := List.mem_map.mp hknown
    exact ⟨o.value, List.mem_map_of_mem ho, rfl⟩
  flags o ho := by
    rw [operations_graph] at ho
    obtain ⟨l, hl, rfl⟩ := List.mem_map.mp ho
    exact Conflict.not_both_of_flags (h.checked.flags l hl)
  operationHandlers o ho := h.handler?_of_operation ho
  promptHandlers p hp := h.handler?_of_prompt hp
  resourceHandlers r hr := h.handler?_of_resource hr
  placeholders p hp text htext name huses := by
    rw [prompts_graph] at hp
    obtain ⟨l, hl, rfl⟩ := List.mem_map.mp hp
    exact Conflict.isArgument_of_template (h.checked.templates l hl) htext huses
  uris r hr := by
    obtain ⟨r₀, hsound, huri, -, -⟩ := Clean.resource_of_draft hr
    rw [huri]
    exact Resource.hasScheme_of_isUri (hsound.uri h.errorFree)
  dynamic r hr hd := by
    obtain ⟨r₀, hsound, huri, hsubscribable, hcontent⟩ := Clean.resource_of_draft hr
    rw [hcontent]
    rw [Resource.isTemplate, huri, hsubscribable] at hd
    exact hsound.dynamic h.errorFree hd
  bounds n hn := by
    rcases (accounted_of_hasNode f hn).ordered with hordered | ⟨low, high, span, subject, hnote⟩
    · exact hordered
    · exact absurd hnote (h.not_mem_notes Conflict.isError_contradictory)
  defaults fields hn field hfield value hvalue := by
    rw [Option.eq_none_iff_forall_ne_some]
    intro reason hreason
    obtain ⟨span, subject, hnote⟩ :=
      (accounted_of_hasNode f hn).defaults fields rfl field hfield value hvalue reason hreason
    exact h.not_mem_notes Conflict.isError_defaultViolation hnote

end Analysis

/-! ## 4. A file without errors -/

namespace Sample

/-- A field with a type. -/
def field (name : String) (type : TypeExpr) : Field :=
  ⟨name, false, false, some type, none, .origin⟩

def text (value : String) : TypeExpr := .literal .origin (.string value)

/-- An interface that extends a marker. -/
def interface (name marker : String) (fields : List Field) : Item :=
  .shape ⟨name, .interface, [.reference .origin marker []], .object .origin fields [], none, true,
    .origin, .origin⟩

/-- The parameter of the greeter, with bounds and a default. -/
def whom : Field :=
  ⟨"whom", true, false, some (.keyword .origin "string"),
    some ⟨"/** @minLength 1\n * @maxLength 5\n * @default \"you\" */", .origin⟩, .origin⟩

def greeter : SourceFile where
  items := [
    interface "Greeter" "Service" [field "name" (text "greeter"), field "version" (text "1")],
    interface "Greet" "Operation"
      [field "name" (text "greet"), field "params" (.object .origin [whom] [])],
    interface "Welcome" "Prompt"
      [field "name" (text "welcome"), field "template" (text "Hi \x7b\x7bwhom\x7d\x7d"),
       field "args" (.object .origin [field "whom" (.keyword .origin "string")] [])],
    interface "Greetings" "CapabilityGroup"
      [field "name" (text "greetings"), field "tools" (.tuple .origin [text "greet"])],
    .binding ⟨"greet", .function ⟨1, 0, false⟩, true, .origin⟩]
  errors := []

set_option maxRecDepth 10000 in
theorem greeter_clean : (Analysis.ofFile greeter).Clean := by
  have hnone : (Analysis.ofFile greeter).problems = [] := by cbv
  intro d hd
  rw [hnone] at hd
  cases hd

theorem greeter_consistent :
    (Analysis.ofFile greeter).Clean ∧ (Analysis.ofFile greeter).graph.Consistent :=
  ⟨greeter_clean, Analysis.consistent_of_clean greeter greeter_clean⟩

end Sample

end ServiceGraph
