import ServiceGraph.Proofs.Descriptor.Draft
import ServiceGraph.Proofs.Schema.Inlining

/-!
The descriptors of shapes in which references are replaced.

A descriptor is read from the fields of its shape. Those that describe data are read as schemas, which stay
(`ShapeInfo.value_schemaOf_eq`); all others stay themselves. So each shape declares what it declared
(`ShapeInfo.SameContents`).
-/

namespace ServiceGraph

open Syntax

variable {d : ShapeDecl} {ctx ctx' : TypeContext} {s s' : ShapeInfo}

/-! ## 1. What is read from a shape -/

/-- A shape in one context has the same contents as a shape in another one. -/
structure ShapeInfo.SameContents (ctx ctx' : TypeContext) (s s' : ShapeInfo) : Prop where
  kind : s'.kind = s.kind
  site : Site.ofShape s' = Site.ofShape s
  declaration : ctx'.annotations.declaration? s'.name = ctx.annotations.declaration? s.name
  /-- The fields that do not describe data. -/
  field? : ∀ name, name ∉ dataFields → s'.field? name = s.field? name
  /-- The schemas of all fields. -/
  schema : ∀ name, (s'.field? name).map (fun m => (s'.schemaOf ctx' m).value) =
    (s.field? name).map fun m => (s.schemaOf ctx m).value

namespace ShapeInfo

theorem InlinesData.rel_field? (h : s.InlinesData d s') (name : String) :
    Option.Rel (fun m m' => m ∈ s.fields ∧ m' ∈ s'.fields ∧ m.InlinesData d m') (s.field? name)
      (s'.field? name) :=
  rel_find? (fun _ _ hm => by rw [hm.2.2.name]) (forall₂_mem h.fields)

theorem InlinesData.site (h : s.InlinesData d s') : Site.ofShape s' = Site.ofShape s := by
  have hfields : s'.fields.map (fun m => (m.name, m.field.span)) =
      s.fields.map fun m => (m.name, m.field.span) :=
    map_eq_of_forall₂ (fun _ _ hm => by rw [hm.name, hm.field.span]) h.fields
  unfold Site.ofShape
  rw [h.name, h.decl.nameSpan, hfields]

theorem InlinesData.field?_eq (h : s.InlinesData d s') {name : String} (hname : name ∉ dataFields) :
    s'.field? name = s.field? name := by
  cases hm : s.field? name with
  | none => exact eq_none_of_rel (h.rel_field? name) hm
  | some m =>
    obtain ⟨m', hm', -, -, howner, hfield⟩ := exists_of_rel_some (h.rel_field? name) hm
    obtain rfl : m.name = name := by simpa using List.find?_some hm
    rw [hm']
    obtain ⟨f', owner'⟩ := m'
    obtain ⟨f, owner⟩ := m
    cases howner
    cases hfield with
    | same => rfl
    | data hdata _ _ => exact absurd hdata hname

/-- A shape has the same contents after the replacement. -/
theorem sameContents {own own' : String → String → Prop} (h : ctx.Inlines d own own' ctx')
    (hs : s ∈ ctx.catalog.shapes) (hs' : s' ∈ ctx'.catalog.shapes) (hss' : s.InlinesData d s') :
    s.SameContents ctx ctx' s' where
  kind := hss'.kind
  site := hss'.site
  declaration := by rw [hss'.name, h.declaration]
  field? _ hname := hss'.field?_eq hname
  schema name := by
    have hrel := hss'.rel_field? name
    generalize s.field? name = found at hrel
    generalize s'.field? name = found' at hrel
    cases hrel with
    | none => rfl
    | some hm => exact congrArg some (value_schemaOf_eq h hs hs' hss' hm.1 hm.2.1 hm.2.2)

/-! ## 2. Values of fields -/

theorem value_textOf (s : ShapeInfo) (f : MergedField) :
    (s.textOf f).value = f.type?.bind TypeExpr.string? := by
  unfold textOf
  split
  · rename_i text htext
    rw [htext]
    rfl
  · rename_i hnone
    rw [hnone]
    rfl

theorem value_text? (s : ShapeInfo) (name : String) :
    (s.text? name).value = (s.field? name).bind fun f => f.type?.bind TypeExpr.string? := by
  unfold text?
  cases s.field? name with
  | none => rfl
  | some f => exact value_textOf s f

theorem value_requiredText? (s : ShapeInfo) (name : String) :
    (s.requiredText? name).value = (s.text? name).value := by
  unfold requiredText? text?
  cases s.field? name <;> rfl

theorem value_flag (s : ShapeInfo) (name : String) : (s.flag name).value =
    ((s.field? name).bind fun f => f.type?.bind TypeExpr.bool?).getD false := by
  unfold flag
  cases s.field? name with
  | none => rfl
  | some f =>
    rw [Option.bind_some]
    dsimp only
    cases f.type?.bind TypeExpr.bool? <;> rfl

theorem value_description? (s : ShapeInfo) (annotations : AnnotationTable) :
    (s.description? annotations).value = match s.field? "description" with
      | some f => f.type?.bind TypeExpr.string?
      | none => (annotations.declaration? s.name).bind (·.description?) := by
  unfold description?
  cases s.field? "description" with
  | none => rfl
  | some f => exact value_textOf s f

/-- The fields that an object describes. -/
def fieldsOf? : Schema → Option (List SchemaField)
  | .object fields => some fields
  | _ => none

theorem value_objectFields? (s : ShapeInfo) (ctx : TypeContext) (name : String) :
    (s.objectFields? ctx name).value =
      ((s.field? name).map fun m => (s.schemaOf ctx m).value).bind fieldsOf? := by
  unfold objectFields?
  cases s.field? name with
  | none => rfl
  | some m =>
    rw [Option.map_some, Option.bind_some]
    dsimp only
    rw [Noted.value_bind]
    cases (s.schemaOf ctx m).value <;> rfl

end ShapeInfo

/-! ## 3. Descriptors -/

section

variable (h : s.SameContents ctx ctx' s')

include h

namespace ShapeInfo.SameContents

theorem text? {name : String} (hname : name ∉ dataFields) : (s'.text? name).value = (s.text? name).value := by
  rw [value_text?, value_text?, h.field? name hname]

theorem requiredText? {name : String} (hname : name ∉ dataFields) :
    (s'.requiredText? name).value = (s.requiredText? name).value := by
  rw [value_requiredText?, value_requiredText?, h.text? hname]

theorem flag {name : String} (hname : name ∉ dataFields) : (s'.flag name).value = (s.flag name).value := by
  rw [value_flag, value_flag, h.field? name hname]

theorem description? : (s'.description? ctx'.annotations).value = (s.description? ctx.annotations).value := by
  rw [value_description?, value_description?, h.field? "description" (by decide), h.declaration]

theorem objectFields? (name : String) :
    (s'.objectFields? ctx' name).value = (s.objectFields? ctx name).value := by
  rw [value_objectFields?, value_objectFields?, h.schema]

end ShapeInfo.SameContents

theorem Service.value_ofShape_eq : (ofShape ctx' s' none).value = (ofShape ctx s none).value := by
  unfold ofShape
  simp only [Noted.value_bind, h.requiredText? (show "name" ∉ dataFields by decide),
    h.requiredText? (show "version" ∉ dataFields by decide), h.description?,
    h.field? "auth" (by decide)]
  cases s.field? "auth" <;> cases (s.requiredText? "name").value <;>
    cases (s.requiredText? "version").value <;> rfl

theorem OperationFlags.value_ofShape_eq : (ofShape s').value = (ofShape s).value := by
  unfold ofShape
  simp only [Noted.value_bind, h.flag (show "readOnly" ∉ dataFields by decide),
    h.flag (show "destructive" ∉ dataFields by decide), h.flag (show "idempotent" ∉ dataFields by decide),
    h.flag (show "openWorld" ∉ dataFields by decide),
    h.flag (show "requiresConfirmation" ∉ dataFields by decide)]

theorem Operation.value_ofShape_eq : (ofShape ctx' s').value = (ofShape ctx s).value := by
  rw [value_ofShape, value_ofShape, h.requiredText? (by decide), h.description?, h.objectFields?,
    h.schema, OperationFlags.value_ofShape_eq h]

theorem Prompt.value_contentOf_eq (template? : Option String) (isDynamic : Bool) :
    (contentOf s' template? isDynamic).value = (contentOf s template? isDynamic).value := by
  unfold contentOf
  rw [h.field? "template" (by decide)]
  split <;> rfl

theorem Prompt.value_ofShape_eq : (ofShape ctx' s').value = (ofShape ctx s).value := by
  rw [value_ofShape, value_ofShape, h.requiredText? (by decide), h.description?, h.objectFields?,
    h.text? (by decide), h.flag (by decide), value_contentOf_eq h]

theorem Resource.value_contentOf_eq (isDynamic : Bool) :
    (contentOf s' isDynamic).value = (contentOf s isDynamic).value := by
  have hdata : ∀ f, (dataOf s' f).value = (dataOf s f).value := by
    intro f
    unfold dataOf
    split <;> rfl
  unfold contentOf
  rw [h.field? "data" (by decide)]
  cases s.field? "data" with
  | none => cases isDynamic <;> rfl
  | some f =>
    simp only [Noted.value_bind, hdata]
    cases isDynamic <;> rfl

theorem Resource.value_ofShape_eq : (ofShape ctx' s').value = (ofShape ctx s).value := by
  have hdynamic : saysDynamic s' = saysDynamic s := by
    rw [saysDynamic, saysDynamic, h.flag (by decide), h.flag (by decide)]
  rw [value_ofShape, value_ofShape, h.requiredText? (by decide), h.requiredText? (by decide),
    h.description?, h.text? (by decide), h.flag (by decide), hdynamic, value_contentOf_eq h]

theorem Group.value_ofShape_eq : (ofShape ctx' s').value = (ofShape ctx s).value := by
  have hoperations : (operationsOf s').value = (operationsOf s).value := by
    unfold operationsOf
    rw [h.field? "tools" (by decide)]
    cases s.field? "tools" with
    | none => rfl
    | some f =>
      dsimp only
      split <;> rfl
  rw [value_ofShape, value_ofShape, h.requiredText? (by decide), h.description?, hoperations]

namespace LocatedGraph

theorem serviceOf?_same : serviceOf? ctx' s' = serviceOf? ctx s := by
  rw [serviceOf?, serviceOf?, h.kind, h.site, Service.value_ofShape_eq h]

theorem operationOf?_same : operationOf? ctx' s' = operationOf? ctx s := by
  rw [operationOf?, operationOf?, h.kind, h.site, Operation.value_ofShape_eq h]

theorem promptOf?_same : promptOf? ctx' s' = promptOf? ctx s := by
  rw [promptOf?, promptOf?, h.kind, h.site, Prompt.value_ofShape_eq h]

theorem resourceOf?_same : resourceOf? ctx' s' = resourceOf? ctx s := by
  rw [resourceOf?, resourceOf?, h.kind, h.site, Resource.value_ofShape_eq h]

theorem groupOf?_same : groupOf? ctx' s' = groupOf? ctx s := by
  rw [groupOf?, groupOf?, h.kind, h.site, Group.value_ofShape_eq h]

end LocatedGraph

end

/-- Entries with the same contents declare the same. -/
theorem LocatedGraph.ofEntries_eq_of_sameContents
    (h : List.Forall₂ (fun s s' => s.SameContents ctx ctx' s') ctx.catalog.shapes ctx'.catalog.shapes) :
    ofEntries ctx' = ofEntries ctx := by
  have hall : ∀ {α : Type} (declared : TypeContext → ShapeInfo → Option α),
      (∀ s s', s.SameContents ctx ctx' s' → declared ctx' s' = declared ctx s) →
      ctx'.catalog.shapes.filterMap (declared ctx') = ctx.catalog.shapes.filterMap (declared ctx) :=
    fun _ hsame => filterMap_eq_of_forall₂ hsame h
  rw [ofEntries, ofEntries, hall serviceOf? fun _ _ => serviceOf?_same,
    hall operationOf? fun _ _ => operationOf?_same, hall promptOf? fun _ _ => promptOf?_same,
    hall resourceOf? fun _ _ => resourceOf?_same, hall groupOf? fun _ _ => groupOf?_same]

end ServiceGraph
