import Mathlib.Data.List.Basic
import ServiceGraph.Analysis
import ServiceGraph.Proofs.Descriptor.Draft

/-!
What holds of every graph, also of that of a file full of errors (`Analysis.ofFile_wellFormed`).

The nodes of a graph are those of the schemas of its operations and of the arguments of its prompts. They
are accounted for by the notes of the draft, and binding changes nothing about them: it only fills in the
handlers of operations and of what is dynamic.
-/

namespace ServiceGraph

open Syntax

/-! ## 1. The schemas of a graph -/

namespace Graph

/-- All schemas of a graph that are no part of another one. The arguments of a prompt count as one
object. -/
def roots (g : Graph) : List Schema :=
  g.operations.flatMap Operation.roots ++ g.prompts.flatMap Prompt.roots

/-- A node of one of the schemas of a graph. -/
def HasNode (g : Graph) (n : Schema) : Prop := ∃ root ∈ g.roots, n.IsNode root

end Graph

/-! ## 2. Binding -/

namespace Scope

variable {scope : Scope} {g : LocatedGraph}

@[simp] theorem roots_bindOperation (l : Located Operation) :
    (scope.bindOperation l).1.value.roots = l.value.roots := rfl

theorem roots_bindPrompt (l : Located Prompt) :
    (scope.bindPrompt l).1.value.roots = l.value.roots := by
  unfold bindPrompt
  split <;> rfl

@[simp] theorem site_bindPrompt (l : Located Prompt) : (scope.bindPrompt l).1.site = l.site := by
  unfold bindPrompt
  split <;> rfl

@[simp] theorem site_bindResource (l : Located Resource) :
    (scope.bindResource l).1.site = l.site := by
  unfold bindResource
  split <;> rfl

/-- Binding keeps all schemas. -/
theorem roots_bind (scope : Scope) (g : LocatedGraph) :
    (scope.bind g).1.graph.roots = g.graph.roots := by
  simp only [Graph.roots, LocatedGraph.graph, bind, List.map_map, List.flatMap_map]
  congr 1
  exact List.flatMap_congr fun l _ => roots_bindPrompt l

theorem mem_operations_bind {l : Located Operation} (h : l ∈ (scope.bind g).1.operations) :
    ∃ l₀ ∈ g.operations, l = (scope.bindOperation l₀).1 := by
  obtain ⟨x, hx, rfl⟩ := List.mem_map.mp h
  obtain ⟨l₀, hl₀, rfl⟩ := List.mem_map.mp hx
  exact ⟨l₀, hl₀, rfl⟩

theorem mem_prompts_bind {l : Located Prompt} (h : l ∈ (scope.bind g).1.prompts) :
    ∃ l₀ ∈ g.prompts, l = (scope.bindPrompt l₀).1 := by
  obtain ⟨x, hx, rfl⟩ := List.mem_map.mp h
  obtain ⟨l₀, hl₀, rfl⟩ := List.mem_map.mp hx
  exact ⟨l₀, hl₀, rfl⟩

theorem mem_resources_bind {l : Located Resource} (h : l ∈ (scope.bind g).1.resources) :
    ∃ l₀ ∈ g.resources, l = (scope.bindResource l₀).1 := by
  obtain ⟨x, hx, rfl⟩ := List.mem_map.mp h
  obtain ⟨l₀, hl₀, rfl⟩ := List.mem_map.mp hx
  exact ⟨l₀, hl₀, rfl⟩

end Scope

/-! ## 3. Analyses -/

namespace Analysis

section

variable (a : Analysis)

theorem operations_graph : a.graph.operations = a.contents.operations.map (·.value) := rfl

theorem prompts_graph : a.graph.prompts = a.contents.prompts.map (·.value) := rfl

theorem resources_graph : a.graph.resources = a.contents.resources.map (·.value) := rfl

theorem groups_graph : a.graph.groups = a.contents.groups.map (·.value) := rfl

end

variable (f : SourceFile)

/-- What the types of a file are read against. -/
def context : TypeContext :=
  let catalog := (ShapeCatalog.ofFile f).1
  ⟨catalog, Prod.fst <| Annotation.ofShapes (catalog.shapes.map (·.decl))⟩

/-- An analysis without its intermediate pairs. -/
theorem ofFile_eq : ofFile f =
    { file := f
      catalog := (context f).catalog
      annotations := (context f).annotations
      draft := ⟨(Draft.contentsOf (context f)).value,
        Note.findings (Draft.contentsOf (context f)).notes⟩
      contents := ((Scope.ofFile f).bind (Draft.contentsOf (context f)).value).1
      outcomes := ((Scope.ofFile f).bind (Draft.contentsOf (context f)).value).2
      readProblems := f.errors.map fun e => ⟨.unreadable, e.span, e.message⟩
      shapeProblems := (ShapeCatalog.ofFile f).2
      commentProblems := Prod.snd <| Annotation.ofShapes ((context f).catalog.shapes.map (·.decl))
      typeProblems := Note.diagnostics (Draft.contentsOf (context f)).notes
      conflicts := Conflict.all ((Scope.ofFile f).bind (Draft.contentsOf (context f)).value).1
        (Note.findings (Draft.contentsOf (context f)).notes)
        ((Scope.ofFile f).bind (Draft.contentsOf (context f)).value).2 } := by
  unfold ofFile context
  generalize ShapeCatalog.ofFile f = c
  generalize Scope.ofFile f = scope
  obtain ⟨catalog, problems⟩ := c
  simp only [Draft.ofCatalog]

theorem catalog_ofFile : (ofFile f).catalog = (context f).catalog := by rw [ofFile_eq]

theorem contents_ofFile :
    (ofFile f).contents = ((Scope.ofFile f).bind (Draft.contentsOf (context f)).value).1 := by
  rw [ofFile_eq]

theorem outcomes_ofFile :
    (ofFile f).outcomes = ((Scope.ofFile f).bind (Draft.contentsOf (context f)).value).2 := by
  rw [ofFile_eq]

theorem typeProblems_ofFile :
    (ofFile f).typeProblems = Note.diagnostics (Draft.contentsOf (context f)).notes := by
  rw [ofFile_eq]

theorem findings_ofFile :
    (ofFile f).draft.findings = Note.findings (Draft.contentsOf (context f)).notes := by
  rw [ofFile_eq]

theorem conflicts_ofFile : (ofFile f).conflicts =
    Conflict.all (ofFile f).contents (ofFile f).draft.findings (ofFile f).outcomes := by
  rw [ofFile_eq]

theorem sound_annotations : (context f).annotations.Every (·.tags.Sound) :=
  Annotation.sound_ofShapes _

theorem graph_ofFile : (ofFile f).graph =
    ((Scope.ofFile f).bind (Draft.contentsOf (context f)).value).1.graph := by
  rw [graph, contents_ofFile]

variable {f}

/-- The operations of a graph are those of its draft, bound. -/
theorem exists_draft_operation {o : Operation} (h : o ∈ (ofFile f).graph.operations) :
    ∃ l ∈ (Draft.contentsOf (context f)).value.operations,
      ((Scope.ofFile f).bindOperation l).1.value = o := by
  rw [operations_graph, contents_ofFile] at h
  obtain ⟨l, hl, rfl⟩ := List.mem_map.mp h
  obtain ⟨l₀, hl₀, rfl⟩ := Scope.mem_operations_bind hl
  exact ⟨l₀, hl₀, rfl⟩

theorem exists_draft_prompt {p : Prompt} (h : p ∈ (ofFile f).graph.prompts) :
    ∃ l ∈ (Draft.contentsOf (context f)).value.prompts,
      ((Scope.ofFile f).bindPrompt l).1.value = p := by
  rw [prompts_graph, contents_ofFile] at h
  obtain ⟨l, hl, rfl⟩ := List.mem_map.mp h
  obtain ⟨l₀, hl₀, rfl⟩ := Scope.mem_prompts_bind hl
  exact ⟨l₀, hl₀, rfl⟩

theorem exists_draft_resource {r : Resource} (h : r ∈ (ofFile f).graph.resources) :
    ∃ l ∈ (Draft.contentsOf (context f)).value.resources,
      ((Scope.ofFile f).bindResource l).1.value = r := by
  rw [resources_graph, contents_ofFile] at h
  obtain ⟨l, hl, rfl⟩ := List.mem_map.mp h
  obtain ⟨l₀, hl₀, rfl⟩ := Scope.mem_resources_bind hl
  exact ⟨l₀, hl₀, rfl⟩

variable (f)

/-- Every node of a graph is accounted for by the notes of its draft. -/
theorem accounted_of_hasNode {n : Schema} (h : (ofFile f).graph.HasNode n) :
    n.Accounted (Draft.contentsOf (context f)).notes := by
  obtain ⟨root, hroot, hn⟩ := h
  have hroot' : root ∈ (Draft.contentsOf (context f)).value.graph.roots := by
    rw [← Scope.roots_bind (Scope.ofFile f), ← graph_ofFile]
    exact hroot
  have htable := sound_annotations f
  rcases List.mem_append.mp hroot' with hr | hr
  · obtain ⟨o, ho, hr⟩ := List.mem_flatMap.mp hr
    obtain ⟨l, hl, rfl⟩ := List.mem_map.mp ho
    exact (Draft.operation_sound htable hl).schemas root hr n hn
  · obtain ⟨p, hp, hr⟩ := List.mem_flatMap.mp hr
    obtain ⟨l, hl, rfl⟩ := List.mem_map.mp hp
    exact (Draft.prompt_sound htable hl).schemas root hr n hn

variable {f}

/-- A site is that of a shape which declares a descriptor of a kind and a name. -/
def DeclaredAt (a : Analysis) (kind : ShapeKind) (name : String) (site : Site) : Prop :=
  ∃ s ∈ a.catalog.shapes, s.kind = kind ∧ (s.requiredText? "name").value = some name ∧
    { site with items := [] } = Site.ofShape s

/-- What holds of a graph and its sites, whatever is wrong with the file. -/
structure WellFormed (a : Analysis) : Prop where
  params : ∀ o ∈ a.graph.operations, ∃ fields, o.params = .object fields
  bounds : ∀ n, a.graph.HasNode n → n.constraints.minimum?.isSome ∨ n.constraints.maximum?.isSome →
    ∃ c, n = .leaf .number c ∨ n = .leaf .integer c
  lengths : ∀ n, a.graph.HasNode n →
    n.constraints.minLength?.isSome ∨ n.constraints.maxLength?.isSome →
    ∃ c, n = .leaf .string c ∨ ∃ items, n = .list items c
  texts : ∀ n, a.graph.HasNode n → n.constraints.pattern?.isSome ∨ n.constraints.format?.isSome →
    ∃ c, n = .leaf .string c
  values : ∀ values, a.graph.HasNode (.enumeration values) → values ≠ [] ∧ values.Nodup
  warned : ∀ reason, a.graph.HasNode (.unsupported reason) →
    ∃ d ∈ a.typeProblems, d.code.text = "W0801" ∧
      d.message = reason ++ " cannot be translated to a schema"
  arguments : ∀ p ∈ a.graph.prompts, (p.arguments.map (·.name)).Nodup
  templates : ∀ p ∈ a.graph.prompts, p.isDynamic = false → p.handler? = none
  statics : ∀ r ∈ a.graph.resources, r.isDynamic = false → r.handler? = none
  operationSites : List.Forall₂ (fun o site => a.DeclaredAt .operation o.name site)
    a.graph.operations (a.contents.operations.map (·.site))
  promptSites : List.Forall₂ (fun p site => a.DeclaredAt .prompt p.name site)
    a.graph.prompts (a.contents.prompts.map (·.site))
  resourceSites : List.Forall₂ (fun r site => a.DeclaredAt .resource r.name site)
    a.graph.resources (a.contents.resources.map (·.site))
  groupSites : List.Forall₂
    (fun g site => a.DeclaredAt .group g.name site ∧ site.items.length = g.operations.length)
    a.graph.groups (a.contents.groups.map (·.site))

/-- The lists of values and of sites of located descriptors are parallel. -/
theorem forall₂_located {α : Type} {R : α → Site → Prop} :
    ∀ (ls : List (Located α)), (∀ l ∈ ls, R l.value l.site) →
      List.Forall₂ R (ls.map (·.value)) (ls.map (·.site))
  | [], _ => .nil
  | l :: rest, h =>
    .cons (h l List.mem_cons_self) (forall₂_located rest fun l hl => h l (List.mem_cons_of_mem _ hl))

theorem mem_catalog_of_mem_declaring {s : ShapeInfo} (h : s ∈ Draft.declaring (context f).catalog) :
    s ∈ (ofFile f).catalog.shapes := by
  rw [catalog_ofFile]
  exact Draft.mem_shapes_of_mem_declaring h

theorem operation_declaredAt {l : Located Operation} (h : l ∈ (ofFile f).contents.operations) :
    (ofFile f).DeclaredAt .operation l.value.name l.site := by
  rw [contents_ofFile] at h
  obtain ⟨l₀, hl₀, rfl⟩ := Scope.mem_operations_bind h
  obtain ⟨s, hs, hk, ho, hsite⟩ := Draft.exists_operation hl₀
  rw [Operation.value_ofShape, Option.map_eq_some_iff] at ho
  obtain ⟨name, hname, ho⟩ := ho
  refine ⟨s, mem_catalog_of_mem_declaring hs, hk, ?_, ?_⟩
  · rw [hname]
    exact congrArg some (congrArg Operation.name ho)
  · change { l₀.site with items := [] } = _
    rw [hsite]
    rfl

theorem prompt_declaredAt {l : Located Prompt} (h : l ∈ (ofFile f).contents.prompts) :
    (ofFile f).DeclaredAt .prompt l.value.name l.site := by
  rw [contents_ofFile] at h
  obtain ⟨l₀, hl₀, rfl⟩ := Scope.mem_prompts_bind h
  obtain ⟨s, hs, hk, hp, hsite⟩ := Draft.exists_prompt hl₀
  rw [Prompt.value_ofShape, Option.map_eq_some_iff] at hp
  obtain ⟨name, hname, hp⟩ := hp
  refine ⟨s, mem_catalog_of_mem_declaring hs, hk, ?_, ?_⟩
  · have hbound : ((Scope.ofFile f).bindPrompt l₀).1.value.name = l₀.value.name := by
      unfold Scope.bindPrompt
      split <;> rfl
    rw [hname, hbound]
    exact congrArg some (congrArg Prompt.name hp)
  · rw [Scope.site_bindPrompt, hsite]
    rfl

theorem resource_declaredAt {l : Located Resource} (h : l ∈ (ofFile f).contents.resources) :
    (ofFile f).DeclaredAt .resource l.value.name l.site := by
  rw [contents_ofFile] at h
  obtain ⟨l₀, hl₀, rfl⟩ := Scope.mem_resources_bind h
  obtain ⟨s, hs, hk, hr, hsite⟩ := Draft.exists_resource hl₀
  rw [Resource.value_ofShape, Option.bind_eq_some_iff] at hr
  obtain ⟨uri, -, hr⟩ := hr
  obtain ⟨name, hname, hr⟩ := Option.map_eq_some_iff.mp hr
  refine ⟨s, mem_catalog_of_mem_declaring hs, hk, ?_, ?_⟩
  · have hbound : ((Scope.ofFile f).bindResource l₀).1.value.name = l₀.value.name := by
      unfold Scope.bindResource
      split <;> rfl
    rw [hname, hbound]
    exact congrArg some (congrArg Resource.name hr)
  · rw [Scope.site_bindResource, hsite]
    rfl

theorem group_declaredAt {l : Located Group} (h : l ∈ (ofFile f).contents.groups) :
    (ofFile f).DeclaredAt .group l.value.name l.site ∧
      l.site.items.length = l.value.operations.length := by
  rw [contents_ofFile] at h
  have hdraft : l ∈ (Draft.contentsOf (context f)).value.groups := h
  obtain ⟨s, hs, hk, hg, hsite⟩ := Draft.exists_group hdraft
  have hlength := Group.length_items hg
  rw [Group.value_ofShape, Option.map_eq_some_iff] at hg
  obtain ⟨name, hname, hg⟩ := hg
  refine ⟨⟨s, mem_catalog_of_mem_declaring hs, hk, ?_, hsite⟩, hlength⟩
  rw [hname]
  exact congrArg (fun found => some found.1.name) hg

/-- The handlers of prompts are those of dynamic ones. -/
theorem handler?_of_template {p : Prompt} (hp : p ∈ (ofFile f).graph.prompts)
    (hd : p.isDynamic = false) : p.handler? = none := by
  obtain ⟨l₀, hl₀, rfl⟩ := exists_draft_prompt hp
  have hunbound := (Draft.prompt_sound (sound_annotations f) hl₀).unbound
  unfold Scope.bindPrompt at hd ⊢
  split at hd
  · rename_i hdynamic
    exact absurd (hdynamic.symm.trans hd) (by simp)
  · rename_i hdynamic
    rw [if_neg hdynamic]
    exact hunbound

/-- The handlers of resources are those of dynamic ones. -/
theorem handler?_of_static {r : Resource} (hr : r ∈ (ofFile f).graph.resources)
    (hd : r.isDynamic = false) : r.handler? = none := by
  obtain ⟨l₀, hl₀, rfl⟩ := exists_draft_resource hr
  have hunbound := (Draft.resource_sound hl₀).unbound
  unfold Scope.bindResource at hd ⊢
  split at hd
  · rename_i hdynamic
    exact absurd (hdynamic.symm.trans hd) (by simp)
  · rename_i hdynamic
    rw [if_neg hdynamic]
    exact hunbound

end Analysis

namespace Schema

theorem exists_leaf_of_isNumber {n : Schema} (h : n.isNumber = true) :
    ∃ c, n = .leaf .number c ∨ n = .leaf .integer c := by
  cases n with
  | leaf kind c => cases kind <;> simp_all [isNumber, LeafKind.isNumeric]
  | _ => simp [isNumber] at h

theorem exists_of_isSized {n : Schema} (h : n.isSized = true) :
    ∃ c, n = .leaf .string c ∨ ∃ items, n = .list items c := by
  cases n with
  | leaf kind c => cases kind <;> simp_all [isSized]
  | list items c => exact ⟨c, .inr ⟨items, rfl⟩⟩
  | _ => simp [isSized] at h

theorem exists_leaf_of_isText {n : Schema} (h : n.isText = true) : ∃ c, n = .leaf .string c := by
  cases n with
  | leaf kind c => cases kind <;> simp_all [isText]
  | _ => simp [isText] at h

/-- Bounds are only on numbers. -/
theorem Placed.isNumber {n : Schema} (h : n.Placed)
    (hb : n.constraints.minimum?.isSome ∨ n.constraints.maximum?.isSome) : n.isNumber = true := by
  by_contra hn
  have hnone := h.bounds (Bool.eq_false_iff.mpr hn)
  simp [hnone.1, hnone.2] at hb

/-- Lengths are only on texts and lists. -/
theorem Placed.isSized {n : Schema} (h : n.Placed)
    (hb : n.constraints.minLength?.isSome ∨ n.constraints.maxLength?.isSome) : n.isSized = true := by
  by_contra hn
  have hnone := h.lengths (Bool.eq_false_iff.mpr hn)
  simp [hnone.1, hnone.2] at hb

/-- Patterns and formats are only on texts. -/
theorem Placed.isText {n : Schema} (h : n.Placed)
    (hb : n.constraints.pattern?.isSome ∨ n.constraints.format?.isSome) : n.isText = true := by
  by_contra hn
  have hnone := h.texts (Bool.eq_false_iff.mpr hn)
  simp [hnone.1, hnone.2] at hb

end Schema

namespace Analysis

/-- **The graph of any file is well formed**, and its sites belong to its descriptors. -/
theorem ofFile_wellFormed (f : SourceFile) : (ofFile f).WellFormed where
  params o ho := by
    obtain ⟨l₀, hl₀, rfl⟩ := exists_draft_operation ho
    exact (Draft.operation_sound (sound_annotations f) hl₀).params
  bounds n hn hb := Schema.exists_leaf_of_isNumber ((accounted_of_hasNode f hn).placed.isNumber hb)
  lengths n hn hb := Schema.exists_of_isSized ((accounted_of_hasNode f hn).placed.isSized hb)
  texts n hn hb := Schema.exists_leaf_of_isText ((accounted_of_hasNode f hn).placed.isText hb)
  values values hn := (accounted_of_hasNode f hn).values values rfl
  warned reason hn := by
    obtain ⟨span, hwarned⟩ := (accounted_of_hasNode f hn).warned reason rfl
    obtain ⟨d, hd, hcode, hmessage⟩ := Draft.exists_unsupported hwarned
    refine ⟨d, hd, ?_, hmessage⟩
    rw [hcode]
    rfl
  arguments p hp := by
    have hroot : Schema.object p.arguments ∈ (ofFile f).graph.roots :=
      List.mem_append_right _ (List.mem_flatMap.mpr ⟨p, hp, List.mem_cons_self⟩)
    exact (accounted_of_hasNode f ⟨_, hroot, .self⟩).names p.arguments rfl
  templates p hp := handler?_of_template hp
  statics r hr := handler?_of_static hr
  operationSites := by
    rw [operations_graph]
    exact forall₂_located _ fun _ hl => operation_declaredAt hl
  promptSites := by
    rw [prompts_graph]
    exact forall₂_located _ fun _ hl => prompt_declaredAt hl
  resourceSites := by
    rw [resources_graph]
    exact forall₂_located _ fun _ hl => resource_declaredAt hl
  groupSites := by
    rw [groups_graph]
    exact forall₂_located _ fun _ hl => group_declaredAt hl

end Analysis

end ServiceGraph
