import ServiceGraph.Proofs.Emission.Stubs
import ServiceGraph.Proofs.Graph.Consistent
import ServiceGraph.Proofs.Related

/-!
Graphs that are bound to stubs.

A file without errors and a file with the same names and the stubs of its handlers bind everything alike exactly if
no stub gets in the way of another one (`Analysis.bindings_stubs_iff`). That is not always so: two names of one function
are one implementation, but two stubs.
-/

namespace ServiceGraph

open Syntax Emission

/-! ## 1. Binding graphs -/

/-- No handler of a graph is found under the names of the descriptors of another one. -/
structure Graph.Unrivalled (g : Graph) : Prop where
  operations : ∀ o ∈ g.operations, ∀ h ∈ o.handler?, Resolution.Unrivalled (handlers g) o.name h
  prompts : ∀ p ∈ g.prompts, p.isDynamic = true → ∀ h ∈ p.handler?,
    Resolution.Unrivalled (handlers g) p.name h
  resources : ∀ r ∈ g.resources, r.isDynamic = true → ∀ h ∈ r.handler?,
    Resolution.Unrivalled (handlers g) r.name h

/-- Everything that needs a handler has one. -/
structure Graph.Bound (g : Graph) : Prop where
  operations : ∀ o ∈ g.operations, o.handler?.isSome
  prompts : ∀ p ∈ g.prompts, p.isDynamic = true → p.handler?.isSome
  resources : ∀ r ∈ g.resources, r.isDynamic = true → r.handler?.isSome

/-- Everything that needs a handler, by its name, with the handler that it has. -/
def Graph.bindings (g : Graph) : List (String × Option Handler) :=
  g.operations.map (fun o => (o.name, o.handler?)) ++
    ((g.prompts.filter (·.isDynamic)).map (fun p => (p.name, p.handler?)) ++
      (g.resources.filter (·.isDynamic)).map fun r => (r.name, r.handler?))

theorem Graph.mem_bindings {g : Graph} {b : String × Option Handler} :
    b ∈ g.bindings ↔ (∃ o ∈ g.operations, (o.name, o.handler?) = b) ∨
      (∃ p ∈ g.prompts, p.isDynamic = true ∧ (p.name, p.handler?) = b) ∨
        ∃ r ∈ g.resources, r.isDynamic = true ∧ (r.name, r.handler?) = b := by
  simp only [bindings, List.mem_append, List.mem_map, List.mem_filter, and_assoc]

theorem Graph.forall_mem_bindings {g : Graph} {P : String × Option Handler → Prop} :
    (∀ b ∈ g.bindings, P b) ↔ (∀ o ∈ g.operations, P (o.name, o.handler?)) ∧
      (∀ p ∈ g.prompts, p.isDynamic = true → P (p.name, p.handler?)) ∧
        ∀ r ∈ g.resources, r.isDynamic = true → P (r.name, r.handler?) := by
  simp only [bindings, List.forall_mem_append, List.forall_mem_map, List.mem_filter, and_imp]

theorem Graph.bound_iff {g : Graph} : g.Bound ↔ ∀ b ∈ g.bindings, b.2.isSome := by
  rw [forall_mem_bindings]
  exact ⟨fun h => ⟨h.operations, h.prompts, h.resources⟩, fun h => ⟨h.1, h.2.1, h.2.2⟩⟩

theorem Graph.unrivalled_iff {g : Graph} :
    g.Unrivalled ↔ ∀ b ∈ g.bindings, ∀ h ∈ b.2, Resolution.Unrivalled (handlers g) b.1 h := by
  rw [forall_mem_bindings]
  exact ⟨fun h => ⟨h.operations, h.prompts, h.resources⟩, fun h => ⟨h.1, h.2.1, h.2.2⟩⟩

theorem mem_handlers {g : Graph} {h : Handler} : h ∈ handlers g ↔
    (∃ o ∈ g.operations, o.handler? = some h) ∨ (∃ p ∈ g.prompts, p.handler? = some h) ∨
      ∃ r ∈ g.resources, r.handler? = some h := by
  simp [handlers, List.mem_filterMap]

namespace Scope

variable (s : Scope)

/-- Binding without places. -/
def boundOperation (o : Operation) : Operation :=
  let takesParameters := (o.params.fields?.map (!·.isEmpty)).getD false
  { o with handler? := (Resolution.ofName s o.name takesParameters).handler? }

def boundPrompt (p : Prompt) : Prompt :=
  if p.isDynamic then
    { p with handler? := (Resolution.ofName s p.name (!p.arguments.isEmpty)).handler? }
  else p

def boundResource (r : Resource) : Resource :=
  if r.isDynamic then { r with handler? := (Resolution.ofName s r.name r.isTemplate).handler? } else r

def bindGraph (g : Graph) : Graph :=
  { g with
    operations := g.operations.map s.boundOperation
    prompts := g.prompts.map s.boundPrompt
    resources := g.resources.map s.boundResource }

theorem graph_bind (g : LocatedGraph) : (s.bind g).1.graph = s.bindGraph g.graph := by
  have hprompt : ∀ l : Located Prompt, (s.bindPrompt l).1.value = s.boundPrompt l.value := by
    intro l
    unfold bindPrompt boundPrompt
    split <;> rfl
  have hresource : ∀ l : Located Resource, (s.bindResource l).1.value = s.boundResource l.value := by
    intro l
    unfold bindResource boundResource
    split <;> rfl
  simp only [bind, bindGraph, LocatedGraph.graph, List.map_map, Function.comp_def, hprompt, hresource]
  rfl

variable {s}

/-- A handler is a binding or a member, under one of the spellings of its descriptor's name. -/
theorem exists_place_of_handler? {name : String} {takesParameters : Bool} {h : Handler}
    (hbound : (Resolution.ofName s name takesParameters).handler? = some h) :
    (∃ b ∈ s.bindings, h = .topLevel b.name ∧ b.name ∈ Naming.variants name) ∨
      ∃ m ∈ s.members, h = .defaultMember m.name ∧ m.name ∈ Naming.variants name := by
  unfold Resolution.ofName at hbound
  dsimp only at hbound
  split at hbound
  · cases hbound
  · rename_i single hsingle
    have hlabel := Resolution.eq_of_handler?_ofImplementation hbound
    have hmem := Resolution.mem_of_mem_differing (hsingle ▸ List.mem_singleton_self single)
    obtain ⟨spelling, hspelling, hfound⟩ := List.mem_flatMap.mp hmem
    rcases List.mem_append.mp hfound with hfound | hfound
    · obtain ⟨b, hb, rfl⟩ := Option.map_eq_some_iff.mp (Option.mem_toList.mp hfound)
      obtain rfl : b.name = spelling := by simpa using List.find?_some hb
      exact .inl ⟨b, List.mem_of_find?_eq_some hb, hlabel, hspelling⟩
    · obtain ⟨m, hm, rfl⟩ := Option.map_eq_some_iff.mp (Option.mem_toList.mp hfound)
      obtain rfl : m.name = spelling := by simpa using List.find?_some hm
      exact .inr ⟨m, List.mem_of_find?_eq_some hm, hlabel, hspelling⟩
  · cases hbound

/-- A handler is found under its name. -/
theorem localName_mem_variants
    (hplain : ∀ b ∈ s.bindings, (Handler.topLevel b.name).defaultMemberName? = none)
    {name : String} {takesParameters : Bool} {h : Handler}
    (hbound : (Resolution.ofName s name takesParameters).handler? = some h) :
    h.localName ∈ Naming.variants name := by
  rcases exists_place_of_handler? hbound with ⟨b, hb, rfl, hname⟩ | ⟨m, -, rfl, hname⟩
  · rw [Handler.localName, hplain b hb]
    exact hname
  · rwa [Handler.localName_defaultMember]

end Scope

/-! ## 2. Analyses -/

namespace Analysis

variable {f e : SourceFile} {methods : List Member}

/-- Every binding of a graph is a resolution of its name. -/
theorem exists_resolution_of_mem_bindings : ∀ b ∈ (ofFile f).graph.bindings,
    ∃ takesParameters, (Resolution.ofName (Scope.ofFile f) b.1 takesParameters).handler? = b.2 := by
  refine Graph.forall_mem_bindings.mpr ⟨fun o ho => ?_, fun p hp hdynamic => ?_, fun r hr hdynamic => ?_⟩
  · obtain ⟨l, -, rfl⟩ := exists_draft_operation ho
    exact ⟨_, rfl⟩
  · obtain ⟨l, -, rfl⟩ := exists_draft_prompt hp
    unfold Scope.bindPrompt at hdynamic ⊢
    split
    · exact ⟨_, rfl⟩
    · rename_i hstatic
      rw [if_neg hstatic] at hdynamic
      exact absurd hdynamic hstatic
  · obtain ⟨l, -, rfl⟩ := exists_draft_resource hr
    unfold Scope.bindResource at hdynamic ⊢
    split
    · exact ⟨_, rfl⟩
    · rename_i hstatic
      rw [if_neg hstatic] at hdynamic
      exact absurd hdynamic hstatic

/-- What is not dynamic is not bound. -/
theorem isDynamic_of_prompt_handler {p : Prompt} (hp : p ∈ (ofFile f).graph.prompts) {h : Handler}
    (hh : p.handler? = some h) : p.isDynamic = true := by
  obtain ⟨l, hl, rfl⟩ := exists_draft_prompt hp
  unfold Scope.bindPrompt at hh ⊢
  split at hh
  · rename_i hdynamic
    rw [if_pos hdynamic]
    exact hdynamic
  · rw [(Draft.prompt_sound (sound_annotations f) hl).unbound] at hh
    cases hh

theorem isDynamic_of_resource_handler {r : Resource} (hr : r ∈ (ofFile f).graph.resources) {h : Handler}
    (hh : r.handler? = some h) : r.isDynamic = true := by
  obtain ⟨l, hl, rfl⟩ := exists_draft_resource hr
  unfold Scope.bindResource at hh ⊢
  split at hh
  · rename_i hdynamic
    rw [if_pos hdynamic]
    exact hdynamic
  · rw [(Draft.resource_sound hl).unbound] at hh
    cases hh

/-- Every handler is that of a binding. -/
theorem mem_handlers_iff {h : Handler} :
    h ∈ handlers (ofFile f).graph ↔ ∃ name, (name, some h) ∈ (ofFile f).graph.bindings := by
  rw [mem_handlers]
  constructor
  · rintro (⟨o, ho, hh⟩ | ⟨p, hp, hh⟩ | ⟨r, hr, hh⟩)
    · exact ⟨o.name, Graph.mem_bindings.mpr (.inl ⟨o, ho, by rw [hh]⟩)⟩
    · exact ⟨p.name, Graph.mem_bindings.mpr
        (.inr (.inl ⟨p, hp, isDynamic_of_prompt_handler hp hh, by rw [hh]⟩))⟩
    · exact ⟨r.name, Graph.mem_bindings.mpr
        (.inr (.inr ⟨r, hr, isDynamic_of_resource_handler hr hh, by rw [hh]⟩))⟩
  · rintro ⟨name, hmem⟩
    rcases Graph.mem_bindings.mp hmem with ⟨o, ho, heq⟩ | ⟨p, hp, -, heq⟩ | ⟨r, hr, -, heq⟩
    · exact .inl ⟨o, ho, congrArg Prod.snd heq⟩
    · exact .inr (.inl ⟨p, hp, congrArg Prod.snd heq⟩)
    · exact .inr (.inr ⟨r, hr, congrArg Prod.snd heq⟩)

/-- A handler is found in the file. -/
theorem exists_resolution_of_mem_handlers {h : Handler} (hmem : h ∈ handlers (ofFile f).graph) :
    ∃ name takesParameters, (name, some h) ∈ (ofFile f).graph.bindings ∧
      (Resolution.ofName (Scope.ofFile f) name takesParameters).handler? = some h := by
  obtain ⟨name, hname⟩ := mem_handlers_iff.mp hmem
  obtain ⟨takesParameters, hbound⟩ := exists_resolution_of_mem_bindings _ hname
  exact ⟨name, takesParameters, hname, hbound⟩

/-- The handlers of the top level have the names of bindings. -/
theorem exists_binding_of_mem_topLevelNames {name : String} (hmem : name ∈ topLevelNames (handlers (ofFile f).graph)) :
    ∃ b ∈ f.bindings, b.name = name := by
  obtain ⟨h, hh, hnone, rfl⟩ := mem_topLevelNames.mp hmem
  obtain ⟨_, _, -, hbound⟩ := exists_resolution_of_mem_handlers hh
  rcases Scope.exists_place_of_handler? hbound with ⟨b, hb, rfl, -⟩ | ⟨m, -, rfl, -⟩
  · exact ⟨b, hb, rfl⟩
  · rw [Handler.defaultMemberName?_defaultMember] at hnone
    cases hnone

theorem bound_of_clean (h : (ofFile f).Clean) : (ofFile f).graph.Bound where
  operations _ ho := h.handler?_of_operation ho
  prompts _ hp := h.handler?_of_prompt hp
  resources _ hr := h.handler?_of_resource hr

/-- **A file with the names of a bound graph and the stubs of its handlers binds them alike exactly if no stub gets in
the way of another one.** -/
theorem bindings_stubs_iff (hplain : ∀ b ∈ f.bindings, (Handler.topLevel b.name).defaultMemberName? = none)
    (hbound : (ofFile f).graph.Bound) (he : DeclaresStubs (handlers (ofFile f).graph) methods e)
    (hnames : (ofFile e).graph.bindings.map Prod.fst = (ofFile f).graph.bindings.map Prod.fst) :
    (ofFile e).graph.bindings = (ofFile f).graph.bindings ↔ (ofFile f).graph.Unrivalled := by
  -- One name, with the handler that it has in `f`.
  have hone : ∀ name h, (name, some h) ∈ (ofFile f).graph.bindings → ∀ takesParameters,
      (Resolution.ofName (Scope.ofFile e) name takesParameters).handler? = some h ↔
        Resolution.Unrivalled (handlers (ofFile f).graph) name h := by
    intro name h hmem takesParameters
    obtain ⟨_, hfound⟩ := exists_resolution_of_mem_bindings _ hmem
    exact Resolution.handler?_ofName_stubs_iff he (mem_handlers_iff.mpr ⟨name, hmem⟩)
      (Scope.localName_mem_variants hplain hfound) takesParameters
  rw [Graph.unrivalled_iff]
  constructor
  · rintro hsame ⟨name, _⟩ hmem h rfl
    have hagain := hmem
    rw [← hsame] at hagain
    obtain ⟨takesParameters, hfound⟩ := exists_resolution_of_mem_bindings _ hagain
    exact (hone name h hmem takesParameters).mp hfound
  · intro hrivals
    have hrelated : List.Forall₂ Eq ((ofFile e).graph.bindings.map Prod.fst)
        ((ofFile f).graph.bindings.map Prod.fst) := by rwa [List.forall₂_eq_eq_eq]
    rw [List.forall₂_map_left_iff, List.forall₂_map_right_iff] at hrelated
    have heq := (forall₂_mem hrelated).imp (S := Eq) fun b c hmem => by
      obtain ⟨name, found?⟩ := b
      obtain ⟨_, bound?⟩ := c
      obtain ⟨hb, hc, rfl⟩ := hmem
      obtain ⟨h, rfl⟩ := Option.isSome_iff_exists.mp (Graph.bound_iff.mp hbound _ hc)
      obtain ⟨takesParameters, hfound⟩ := exists_resolution_of_mem_bindings _ hb
      exact congrArg (name, ·) (hfound.symm.trans ((hone name h hc takesParameters).mpr (hrivals _ hc h rfl)))
    rwa [List.forall₂_eq_eq_eq] at heq

end Analysis

end ServiceGraph
