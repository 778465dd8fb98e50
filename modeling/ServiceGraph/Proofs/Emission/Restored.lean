import ServiceGraph.Proofs.Emission.Descriptors
import ServiceGraph.Proofs.Graph.Stubs

/-!
A written graph is restored (`Emission.essence_ofText_file`): what is analysed from its file is the graph itself, but
for the handlers and for the blanks around the lines of descriptions.
-/

namespace ServiceGraph

open Syntax Written Emission WrittenInterface

/-! ## 1. Handlers -/

/-- Binding changes handlers only. -/
theorem Scope.essence_bindGraph (s : Scope) (g : Graph) : (s.bindGraph g).essence = g.essence := by
  have hprompt : ∀ p : Prompt, (s.boundPrompt p).essence = p.essence := by
    intro p
    unfold boundPrompt
    split <;> rfl
  have hresource : ∀ r : Resource, (s.boundResource r).essence = r.essence := by
    intro r
    unfold boundResource
    split <;> rfl
  simp only [bindGraph, Graph.essence, List.map_map, Function.comp_def, hprompt, hresource]
  rfl

theorem Analysis.essence_graph (f : SourceFile) :
    (ofFile f).graph.essence = (Draft.contentsOf (context f)).value.graph.essence := by
  rw [graph_ofFile, Scope.graph_bind, Scope.essence_bindGraph]

namespace Emission

variable {g : Graph}

/-! ## 2. Descriptors of a kind -/

namespace Descriptor

def service? : Descriptor → Option Service
  | .service s => some s
  | _ => none

def operation? : Descriptor → Option Operation
  | .operation o => some o
  | _ => none

def prompt? : Descriptor → Option Prompt
  | .prompt p => some p
  | _ => none

def resource? : Descriptor → Option Resource
  | .resource r => some r
  | _ => none

def group? : Descriptor → Option Group
  | .group g => some g
  | _ => none

end Descriptor

section

open Descriptor

theorem service?_descriptors (g : Graph) : (descriptors g).filterMap service? = g.service?.toList := by
  cases hs : g.service? <;>
  simp [descriptors, hs, Function.comp_def, service?]

theorem operation?_descriptors (g : Graph) : (descriptors g).filterMap operation? = g.operations := by
  cases hs : g.service? <;>
  simp [descriptors, hs, Function.comp_def, List.filterMap_cons, operation?]

theorem prompt?_descriptors (g : Graph) : (descriptors g).filterMap prompt? = g.prompts := by
  cases hs : g.service? <;>
  simp [descriptors, hs, Function.comp_def, List.filterMap_cons, prompt?]

theorem resource?_descriptors (g : Graph) : (descriptors g).filterMap resource? = g.resources := by
  cases hs : g.service? <;>
  simp [descriptors, hs, Function.comp_def, List.filterMap_cons, resource?]

theorem group?_descriptors (g : Graph) : (descriptors g).filterMap group? = g.groups := by
  cases hs : g.service? <;>
  simp [descriptors, hs, Function.comp_def, List.filterMap_cons, group?]

end

/-! ## 3. Drafts -/

namespace Descriptor

open LocatedGraph

variable {ctx : TypeContext} {d : Descriptor} {s : ShapeInfo}

theorem Reads.essence_serviceOf? (h : d.Reads ctx s) :
    (serviceOf? ctx s).map (fun l => l.value.essence) = d.service?.map Service.essence := by
  unfold serviceOf?
  rw [h.kind]
  cases d with
  | service service => simpa [Descriptor.kind, Descriptor.service?, Function.comp_def] using h.service
  | operation o | prompt p | resource r | group g => rfl

theorem Reads.essence_operationOf? (hwritable : d.Writable) (h : d.Reads ctx s) :
    (operationOf? ctx s).map (fun l => l.value.essence) = d.operation?.map Operation.essence := by
  unfold operationOf?
  rw [h.kind]
  cases d with
  | operation o => simpa [Descriptor.kind, Descriptor.operation?, Function.comp_def] using h.operation hwritable
  | service s | prompt p | resource r | group g => rfl

theorem Reads.essence_promptOf? (hwritable : d.Writable) (h : d.Reads ctx s) :
    (promptOf? ctx s).map (fun l => l.value.essence) = d.prompt?.map Prompt.essence := by
  unfold promptOf?
  rw [h.kind]
  cases d with
  | prompt p => simpa [Descriptor.kind, Descriptor.prompt?, Function.comp_def] using h.prompt hwritable
  | service s | operation o | resource r | group g => rfl

theorem Reads.essence_resourceOf? (hwritable : d.Writable) (h : d.Reads ctx s) :
    (resourceOf? ctx s).map (fun l => l.value.essence) = d.resource?.map Resource.essence := by
  unfold resourceOf?
  rw [h.kind]
  cases d with
  | resource r => simpa [Descriptor.kind, Descriptor.resource?, Function.comp_def] using h.resource hwritable
  | service s | operation o | prompt p | group g => rfl

theorem Reads.essence_groupOf? (h : d.Reads ctx s) :
    (groupOf? ctx s).map (fun l => l.value.essence) = d.group?.map Group.essence := by
  unfold groupOf?
  rw [h.kind]
  cases d with
  | group group => simpa [Descriptor.kind, Descriptor.group?, Function.comp_def] using h.group
  | service s | operation o | prompt p | resource r => rfl

end Descriptor

section

variable {ctx : TypeContext} {shapes : List ShapeInfo}

/-- The descriptors of a kind have the essences of what the shapes declare. -/
theorem map_essence_of_forall₂ {α β : Type} {pick : Descriptor → Option α} {found : ShapeInfo → Option (Located α)}
    {essence : α → β} {ds : List Descriptor}
    (h : List.Forall₂ (fun d s => (found s).map (fun l => essence l.value) = (pick d).map essence) ds shapes) :
    ((shapes.filterMap found).map (·.value)).map essence = (ds.filterMap pick).map essence := by
  rw [List.map_map, List.map_filterMap, List.map_filterMap]
  exact filterMap_eq_of_forall₂ (fun _ _ h => h) h

/-- **Shapes that stand for the descriptors of a graph make a draft of the graph.** -/
theorem essence_contentsOf (hwritable : g.Writable)
    (h : List.Forall₂ (fun d s => d.Reads ctx s) (descriptors g) (Draft.declaring ctx.catalog)) :
    (Draft.contentsOf ctx).value.graph.essence = g.essence := by
  have hall : List.Forall₂ (fun d s => d.Writable ∧ d.Reads ctx s) (descriptors g) (Draft.declaring ctx.catalog) :=
    (forall₂_mem h).imp fun d s hd => ⟨writable_of_mem_descriptors hwritable d hd.1, hd.2.2⟩
  have hservice := map_essence_of_forall₂ (hall.imp fun _ _ hd => hd.2.essence_serviceOf?)
  have hoperations := map_essence_of_forall₂ (hall.imp fun _ _ hd => hd.2.essence_operationOf? hd.1)
  have hprompts := map_essence_of_forall₂ (hall.imp fun _ _ hd => hd.2.essence_promptOf? hd.1)
  have hresources := map_essence_of_forall₂ (hall.imp fun _ _ hd => hd.2.essence_resourceOf? hd.1)
  have hgroups := map_essence_of_forall₂ (hall.imp fun _ _ hd => hd.2.essence_groupOf?)
  rw [service?_descriptors, ← Option.toList_map] at hservice
  rw [operation?_descriptors] at hoperations
  rw [prompt?_descriptors] at hprompts
  rw [resource?_descriptors] at hresources
  rw [group?_descriptors] at hgroups
  rw [Draft.value_contentsOf, Graph.essence, Graph.essence]
  have hfirst : ((Draft.declaring ctx.catalog).findSome? (LocatedGraph.serviceOf? ctx)).map (·.value.essence) =
      g.service?.map Service.essence := by
    have hheads := congrArg List.head? hservice
    rwa [Option.head?_toList, List.map_map, List.head?_map, List.head?_filterMap] at hheads
  simp only [LocatedGraph.graph, hoperations, hprompts, hresources, hgroups, Option.map_map, Function.comp_def, hfirst]

end

/-! ## 4. Files -/

/-- The interfaces of a graph as they are written. -/
def writtenInterfaces (g : Graph) : List WrittenInterface := List.zipWith writtenInterface (namesOf g) (parts g)

theorem length_namesOf (g : Graph) : (namesOf g).length = (parts g).length := by
  rw [namesOf, length_interfaceNames, List.length_map, ← map_fst_parts, List.length_map]

theorem exists_of_mem_writtenInterfaces {w : WrittenInterface} (hw : w ∈ writtenInterfaces g) :
    ∃ name ∈ namesOf g, ∃ d ∈ descriptors g, w = writtenInterface name d.part := by
  rw [writtenInterfaces, ← List.map_uncurry_zip_eq_zipWith] at hw
  obtain ⟨entry, hentry, rfl⟩ := List.mem_map.mp hw
  obtain ⟨hname, hpart⟩ := List.of_mem_zip hentry
  rw [← map_part_descriptors] at hpart
  obtain ⟨d, hd, heq⟩ := List.mem_map.mp hpart
  exact ⟨entry.1, hname, d, hd, by rw [heq]; rfl⟩

theorem names_writtenInterfaces (g : Graph) : (writtenInterfaces g).map (·.name) = namesOf g := by
  have hfst : ((namesOf g).zip (parts g)).map Prod.fst = namesOf g :=
    List.map_fst_zip (length_namesOf g).le
  rw [writtenInterfaces, ← List.map_uncurry_zip_eq_zipWith, List.map_map]
  exact hfst

/-- No interface has the name of a marker or of another interface. -/
theorem distinct_writtenInterfaces (g : Graph) : Distinct (writtenInterfaces g) where
  names := by
    rw [names_writtenInterfaces]
    exact nodup_interfaceNames _ _
  markers w hw := by
    obtain ⟨name, -, d, -, rfl⟩ := exists_of_mem_writtenInterfaces hw
    obtain ⟨hlast, hkind, -⟩ := d.marker
    exact ⟨hlast, Option.isSome_iff_exists.mpr ⟨_, hkind⟩⟩
  apart w hw v hv heq := by
    obtain ⟨name, hname, d, -, rfl⟩ := exists_of_mem_writtenInterfaces hw
    obtain ⟨other, -, e, -, rfl⟩ := exists_of_mem_writtenInterfaces hv
    have hreserved : name ∈ reservedNames := by
      rw [show name = e.part.1.marker from heq]
      exact e.marker.2.2
    exact not_taken_of_mem_interfaceNames _ _ name hname hreserved
  fields w hw := by
    obtain ⟨name, -, d, -, rfl⟩ := exists_of_mem_writtenInterfaces hw
    exact d.nodup_names name

theorem forall₂_descriptors {P : WrittenInterface → ShapeInfo → Prop} : ∀ {names : List String} {ds : List Descriptor}
    {shapes : List ShapeInfo}, names.length = ds.length →
      List.Forall₂ P (List.zipWith writtenInterface names (ds.map Descriptor.part)) shapes →
        List.Forall₂ (fun d s => ∃ name, P (writtenInterface name d.part) s) ds shapes
  | [], [], _, _, h => by
      cases h
      exact .nil
  | name :: names, d :: ds, _, hlength, h => by
      obtain _ | ⟨hfirst, hrest⟩ := h
      exact .cons ⟨name, hfirst⟩ (forall₂_descriptors (Nat.succ.inj hlength) hrest)

/-- **A graph is restored from its file**, but for its handlers and the form of its descriptions. -/
theorem essence_ofText_file (h : g.Writable) (markerModule : String) :
    (Analysis.ofText (file g markerModule)).graph.essence = g.essence := by
  have hreads := reads_file h markerModule
  have hdistinct := distinct_writtenInterfaces g
  have hinteger : ∀ v ∈ writtenInterfaces g, v.name ≠ "Integer" := by
    intro v hv heq
    obtain ⟨name, hname, d, -, rfl⟩ := exists_of_mem_writtenInterfaces hv
    obtain rfl : name = "Integer" := heq
    exact not_taken_of_mem_interfaceNames _ _ _ hname (by decide)
  have hdeclares := SourceFile.declares_written hreads hdistinct
  rw [Analysis.ofText, Analysis.essence_graph]
  refine essence_contentsOf h ?_
  have hshapes := (forall₂_mem hdeclares).imp fun w s hw =>
    And.intro hw.2.2 (readsOwn_of_declares hreads hdistinct hinteger (Draft.mem_shapes_of_mem_declaring hw.2.1) hw.2.2)
  have hlength : (namesOf g).length = (descriptors g).length := by
    rw [length_namesOf, ← map_part_descriptors, List.length_map]
  rw [← map_part_descriptors] at hshapes
  refine (forall₂_descriptors hlength hshapes).imp fun d s hd => ?_
  obtain ⟨name, hname, hown⟩ := hd
  exact ⟨⟨name, hname⟩, hown⟩

end Emission

end ServiceGraph
