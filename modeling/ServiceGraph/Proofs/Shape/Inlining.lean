import ServiceGraph.Proofs.Annotation.Inlining
import ServiceGraph.Proofs.Shape.Fields

/-!
The catalog of a file in which references to a shape are replaced.

Bases stay, so every shape inherits from the same shapes: it has the same markers, and the same fields but
for the types of those that describe data (`Heritage.Resolves.inlines`). What kind a shape is of is a matter
of names and literal types, so it is of the same kind (`ShapeCatalog.inlinesData_shapes`).
-/

namespace ServiceGraph

open Syntax

variable {d : ShapeDecl}

/-! ## 1. Merged fields -/

structure MergedField.InlinesData (d : ShapeDecl) (m m' : MergedField) : Prop where
  owner : m'.owner = m.owner
  field : FieldOf.InlinesData d m.field m'.field

theorem MergedField.InlinesData.name {m m' : MergedField} (h : m.InlinesData d m') :
    m'.name = m.name :=
  h.field.name

/-- What a shape has, with references replaced in the types of its fields. -/
structure Resolved.InlinesData (d : ShapeDecl) (r r' : Resolved) : Prop where
  markers : r'.markers = r.markers
  fields : List.Forall₂ (MergedField.InlinesData d) r.fields r'.fields

theorem inlinesData_mergeField {fields fields' : List MergedField}
    (h : List.Forall₂ (MergedField.InlinesData d) fields fields') {m m' : MergedField}
    (hm : m.InlinesData d m') :
    List.Forall₂ (MergedField.InlinesData d) (mergeField fields m) (mergeField fields' m') := by
  induction h with
  | nil => exact .cons hm .nil
  | cons hg hrest ih =>
    rw [mergeField, mergeField, hg.name, hm.name]
    split
    · exact .cons hm hrest
    · exact .cons hg ih

theorem inlinesData_mergeFields {fields fields' incoming incoming' : List MergedField}
    (h : List.Forall₂ (MergedField.InlinesData d) fields fields')
    (hincoming : List.Forall₂ (MergedField.InlinesData d) incoming incoming') :
    List.Forall₂ (MergedField.InlinesData d) (mergeFields fields incoming)
      (mergeFields fields' incoming') := by
  induction hincoming generalizing fields fields' with
  | nil => exact h
  | cons hm _ ih => exact ih (inlinesData_mergeField h hm)

namespace Resolved

variable {r r' : Resolved}

theorem inlinesData_empty : Resolved.empty.InlinesData d .empty := ⟨rfl, .nil⟩

theorem markers_congr_addMarker (h : r'.markers = r.markers) (kind : ShapeKind) :
    (r'.addMarker kind).markers = (r.addMarker kind).markers := by
  unfold addMarker
  rw [h]
  split
  · exact h
  · rfl

theorem markers_congr_foldl : ∀ (kinds : List ShapeKind) {r r' : Resolved}, r'.markers = r.markers →
    (kinds.foldl addMarker r').markers = (kinds.foldl addMarker r).markers
  | [], _, _, h => h
  | kind :: rest, _, _, h => markers_congr_foldl rest (markers_congr_addMarker h kind)

theorem InlinesData.addMarker (h : r.InlinesData d r') (kind : ShapeKind) :
    (r.addMarker kind).InlinesData d (r'.addMarker kind) where
  markers := markers_congr_addMarker h.markers kind
  fields := by
    rw [fields_addMarker, fields_addMarker]
    exact h.fields

theorem InlinesData.inherit {base base' : Resolved} (h : r.InlinesData d r')
    (hbase : base.InlinesData d base') : (r.inherit base).InlinesData d (r'.inherit base') where
  markers := by
    unfold Resolved.inherit
    rw [hbase.markers]
    exact markers_congr_foldl _ h.markers
  fields := inlinesData_mergeFields h.fields hbase.fields

theorem InlinesData.addOwn {s s' : ShapeStructure} (h : r.InlinesData d r')
    (hs : s.InlinesData d s') : (r.addOwn s).InlinesData d (r'.addOwn s') where
  markers := h.markers
  fields := by
    refine inlinesData_mergeFields h.fields ?_
    rw [List.forall₂_map_left_iff, List.forall₂_map_right_iff]
    exact hs.fields.imp fun _ _ hf => ⟨hs.name, hf⟩

end Resolved

/-! ## 2. Heritage -/

namespace Heritage

section

variable {structureOf structureOf' : String → Option ShapeStructure}

mutual

/-- With references replaced a shape has the same, but for the types of fields that describe data. -/
theorem Resolves.inlines
    (hall : ∀ name, Option.Rel (ShapeStructure.InlinesData d) (structureOf name) (structureOf' name)) :
    ∀ {s s' : ShapeStructure} {r : Resolved}, s.InlinesData d s' → Resolves structureOf s r →
      ∃ r', Resolves structureOf' s' r' ∧ r.InlinesData d r'
  | _, _, _, hs, .of h => by
      obtain ⟨inherited, hinherits, hrel⟩ := Inherits.inlines hall Resolved.inlinesData_empty h
      exact ⟨_, .of (hs.bases ▸ hinherits), hrel.addOwn hs⟩

theorem Inherits.inlines
    (hall : ∀ name, Option.Rel (ShapeStructure.InlinesData d) (structureOf name) (structureOf' name)) :
    ∀ {bases : List TypeExpr} {r r' last : Resolved}, r.InlinesData d r' →
      Inherits structureOf bases r last →
      ∃ last', Inherits structureOf' bases r' last' ∧ last.InlinesData d last'
  | _, _, r', _, hr, .nil => ⟨r', .nil, hr⟩
  | _, _, _, _, hr, .unnamed hname h => by
      obtain ⟨last', hlast, hrel⟩ := Inherits.inlines hall hr h
      exact ⟨last', .unnamed hname hlast, hrel⟩
  | _, _, _, _, hr, .declared hname hs hresolves h => by
      obtain ⟨s', hs', hss'⟩ := exists_of_rel_some (hall _) hs
      obtain ⟨inherited, hresolves', hinherited⟩ := Resolves.inlines hall hss' hresolves
      obtain ⟨last', hlast, hrel⟩ := Inherits.inlines hall (hr.inherit hinherited) h
      exact ⟨last', .declared hname hs' hresolves' hlast, hrel⟩
  | _, _, _, _, hr, .marker hname hs hkind h => by
      obtain ⟨last', hlast, hrel⟩ := Inherits.inlines hall (hr.addMarker _) h
      exact ⟨last', .marker hname (eq_none_of_rel (hall _) hs) hkind hlast, hrel⟩
  | _, _, _, _, hr, .unknown hname hs hkind h => by
      obtain ⟨last', hlast, hrel⟩ := Inherits.inlines hall hr h
      exact ⟨last', .unknown hname (eq_none_of_rel (hall _) hs) hkind hlast, hrel⟩

end

end

section

variable {all all' : List ShapeStructure}
  (hall : List.Forall₂ (ShapeStructure.InlinesData d) all all')

include hall

theorem rel_structureOf? (name : String) :
    Option.Rel (ShapeStructure.InlinesData d) (structureOf? all name) (structureOf? all' name) :=
  rel_find? (fun _ _ h => by rw [h.name]) hall

theorem isSome_structureOf? (name : String) :
    (structureOf? all' name).isSome = (structureOf? all name).isSome :=
  isSome_eq_of_rel (rel_structureOf? hall name)

/-- The same shapes extend each other. -/
theorem extends_inlines {a b : String} (h : Extends all' a b) : Extends all a b := by
  obtain ⟨s', hs', base, hbase, hname, hdeclared⟩ := h
  have hrel := rel_structureOf? hall a
  rw [hs'] at hrel
  generalize hs : structureOf? all a = found at hrel
  cases hrel with
  | some hss' =>
    rw [hss'.bases] at hbase
    rw [isSome_structureOf? hall] at hdeclared
    exact ⟨_, hs, base, hbase, hname, hdeclared⟩

theorem acyclic_inlines (hacyclic : Acyclic all) : Acyclic all' := fun name hcycle =>
  hacyclic name (Relation.TransGen.mono (fun _ _ => extends_inlines hall) _ _ hcycle)

theorem resolvedOf_inlines (hn : (all.map (·.name)).Nodup) (hacyclic : Acyclic all)
    {s s' : ShapeStructure} (hs : s ∈ all) (hs' : s' ∈ all') (hss' : s.InlinesData d s') :
    (resolvedOf all s).InlinesData d (resolvedOf all' s') := by
  have hn' : (all'.map (·.name)).Nodup := by
    rwa [map_eq_of_forall₂ (fun _ _ h => ShapeStructure.InlinesData.name h) hall]
  obtain ⟨r', hr', hrel⟩ := Resolves.inlines (rel_structureOf? hall) hss'
    (resolves_resolvedOf hacyclic hn hs)
  rwa [hr'.unique (resolves_resolvedOf (acyclic_inlines hall hacyclic) hn' hs')] at hrel

end

/-! ### Names of fields -/

/-- What is inherited has different names. -/
theorem Inherits.nodup {structureOf : String → Option ShapeStructure} :
    ∀ {bases : List TypeExpr} {r last : Resolved}, Inherits structureOf bases r last →
      (r.fields.map (·.name)).Nodup → (last.fields.map (·.name)).Nodup
  | _, _, _, .nil, hn => hn
  | _, _, _, .unnamed _ h, hn => h.nodup hn
  | _, _, _, .declared _ _ _ h, hn => h.nodup (nodup_mergeFields hn)
  | _, _, _, .marker _ _ _ h, hn => h.nodup (by rwa [Resolved.fields_addMarker])
  | _, _, _, .unknown _ _ _ h, hn => h.nodup hn

theorem Resolves.nodup {structureOf : String → Option ShapeStructure} {s : ShapeStructure} {r : Resolved}
    (h : Resolves structureOf s r) : (r.fields.map (·.name)).Nodup := by
  cases h with
  | of hinherits => exact nodup_mergeFields (hinherits.nodup List.nodup_nil)

section

variable {all : List ShapeStructure} (hacyclic : Acyclic all) (hn : (all.map (·.name)).Nodup)
  {s : ShapeStructure} (hs : s ∈ all)

include hacyclic hn hs

theorem nodup_resolvedOf : ((resolvedOf all s).fields.map (·.name)).Nodup :=
  (resolves_resolvedOf hacyclic hn hs).nodup

/-- A shape without bases has its own fields. -/
theorem fields_resolvedOf (hbases : s.bases = []) (hown : (s.fields.map (·.name)).Nodup) :
    (resolvedOf all s).fields = s.fields.map fun f => ⟨f, s.name⟩ := by
  have h : Resolves (structureOf? all) s (Resolved.empty.addOwn s) := .of (hbases ▸ .nil)
  rw [(resolves_resolvedOf hacyclic hn hs).unique h]
  refine mergeFields_of_nodup ?_
  rw [Resolved.empty, List.nil_append, List.map_map]
  exact hown

end

end Heritage

/-! ## 3. Kinds -/

section

variable (hd : d.type.IsObject)

include hd

theorem MergedField.InlinesData.isLiteral {m m' : MergedField} (h : m.InlinesData d m') :
    m'.isLiteral = m.isLiteral := by
  obtain ⟨f', owner'⟩ := m'
  obtain ⟨f, owner⟩ := m
  obtain ⟨-, hfield⟩ := h
  cases hfield with
  | same => rfl
  | data _ hf ht =>
    dsimp only at hf
    unfold MergedField.isLiteral MergedField.type?
    rw [hf]
    exact ht.congr hd (fun u => MergedField.isLiteral ⟨{ f with type? := some u }, owner⟩) false
      fun u hu => by cases u <;> first | rfl | cases hu

theorem MergedField.InlinesData.isPinned {m m' : MergedField} (h : m.InlinesData d m') :
    m'.isPinned = m.isPinned := by
  unfold MergedField.isPinned MergedField.type?
  have hfield := h.field
  generalize m'.field = f' at hfield
  cases hfield with
  | same => rfl
  | data _ hf ht =>
    rw [hf]
    exact congrArg Option.isSome (ht.string?_eq hd)

namespace ShapeKind

variable {fields fields' : List MergedField}
  (h : List.Forall₂ (MergedField.InlinesData d) fields fields')

include h

theorem specificity_inlines (kind : ShapeKind) : kind.specificity fields' = kind.specificity fields := by
  unfold specificity
  induction h with
  | nil => rfl
  | cons hm _ ih =>
    rw [List.filter_cons, List.filter_cons, hm.name, hm.isLiteral hd]
    split
    · rw [List.length_cons, List.length_cons, ih]
    · exact ih

theorem matchesFields_inlines (kind : ShapeKind) :
    kind.matchesFields fields' = kind.matchesFields fields := by
  have hrel : ∀ name, Option.Rel (MergedField.InlinesData d) (fieldNamed? fields name)
      (fieldNamed? fields' name) := fun name => rel_find? (fun _ _ hm => by rw [hm.name]) h
  have hhas : ∀ name, (fieldNamed? fields' name).isSome = (fieldNamed? fields name).isSome :=
    fun name => isSome_eq_of_rel (hrel name)
  have hpinned : ∀ name, (fieldNamed? fields' name).any MergedField.isPinned =
      (fieldNamed? fields name).any MergedField.isPinned := by
    intro name
    have hfound := hrel name
    generalize fieldNamed? fields name = found at hfound
    generalize fieldNamed? fields' name = found' at hfound
    cases hfound with
    | none => rfl
    | some hm => exact hm.isPinned hd
  cases kind <;> simp only [matchesFields, hhas, hpinned]

end ShapeKind

theorem ShapeCatalog.classify_inlines {s s' : ShapeStructure} {r r' : Resolved}
    (hs : s.InlinesData d s') (hr : r.InlinesData d r') : (classify s' r').1 = (classify s r).1 := by
  have hcandidates : candidates s' r' = candidates s r := by
    unfold candidates
    rw [hr.markers, hs.isObjectLike]
    simp only [ShapeKind.matchesFields_inlines hd hr.fields]
  have hwinners : winners (candidates s' r') r'.fields = winners (candidates s r) r.fields := by
    unfold winners
    rw [hcandidates]
    simp only [ShapeKind.specificity_inlines hd hr.fields]
  unfold classify
  rw [hwinners]
  split <;> rfl

end

/-! ## 4. Catalogs -/

/-- An entry of a shape in whose fields references are replaced. -/
structure ShapeInfo.InlinesData (d : ShapeDecl) (s s' : ShapeInfo) : Prop where
  decl : ShapeDecl.InlinesData d s.decl s'.decl
  fields : List.Forall₂ (MergedField.InlinesData d) s.fields s'.fields
  isObjectLike : s'.isObjectLike = s.isObjectLike
  plain : s.isObjectLike = false → s'.decl = s.decl
  kind : s'.kind = s.kind

theorem ShapeInfo.InlinesData.name {s s' : ShapeInfo} (h : s.InlinesData d s') : s'.name = s.name :=
  h.decl.name

namespace ShapeCatalog

variable {f f' : SourceFile} (hn : (f.shapes.map (·.name)).Nodup)
  (hacyclic : Heritage.Acyclic f.structures) (hd : d.type.IsObject) (h : f.Inlines d f')

include hn hacyclic hd h

/-- **Every entry stays, but for the types of fields that describe data.** -/
theorem inlinesData_shapes :
    List.Forall₂ (ShapeInfo.InlinesData d) (ofFile f).1.shapes (ofFile f').1.shapes := by
  have hn' : (f'.shapes.map (·.name)).Nodup := by rwa [h.names]
  have hstructures : (f.structures.map (·.name)).Nodup := by rwa [SourceFile.names_structures]
  have hacyclic' := Heritage.acyclic_inlines h.structures hacyclic
  rw [shapes_ofFile hn hacyclic, shapes_ofFile hn' hacyclic', List.forall₂_map_left_iff,
    List.forall₂_map_right_iff]
  refine (forall₂_mem h.structures).imp ?_
  rintro s s' ⟨hs, hs', hss'⟩
  have hr := Heritage.resolvedOf_inlines h.structures hstructures hacyclic hs hs' hss'
  exact ⟨hss'.decl, hr.fields, hss'.isObjectLike, hss'.plain, classify_inlines hd hss' hr⟩

end ShapeCatalog

end ServiceGraph
