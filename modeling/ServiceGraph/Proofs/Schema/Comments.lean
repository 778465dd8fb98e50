import ServiceGraph.Proofs.Annotation.Paths
import ServiceGraph.Proofs.Descriptor.Order
import ServiceGraph.Proofs.Shape.Places

/-!
Which comments the schemas of a file depend on.

The reading of types comes to the fields of the shapes, and from there through lists, nested objects and
unions with one member that counts to further fields (`ShapeCatalog.LooksUp`). Only under their owners and
paths are comments looked up: tables that hold the same there give the same drafts
(`Draft.ofCatalog_eq_of_sameComments`).

At each of these places stands a field that the owner declares there, by induction along the way to it
(`ShapeCatalog.LooksUp.fieldAt`). So what is looked up is what the field's own comment says.
-/

namespace ServiceGraph

open Syntax

/-! ## 1. Places -/

namespace ShapeCatalog

mutual

/-- The reading of a catalog's shapes comes to a field, whose comment it looks up under a shape and a
path. -/
inductive LooksUp (c : ShapeCatalog) : Field → String → String → Prop
  /-- A field that a shape declares or inherits. -/
  | merged {s : ShapeInfo} {m : MergedField} (hs : s ∈ c.shapes) (hm : m ∈ s.fields) :
    LooksUp c m.field m.owner m.name
  | nested {owner path : String} {span : Span} {fields : List Field}
    {skipped : List SkippedMember} {f : Field}
    (h : Reads c (.object span fields skipped) owner path) (hf : f ∈ fields) :
    LooksUp c f owner (TypePath.field path f.name)

/-- The reading of a catalog's shapes comes to a type at a path in a shape. -/
inductive Reads (c : ShapeCatalog) : TypeExpr → String → String → Prop
  | declared {f : Field} {owner path : String} {t : TypeExpr} (h : LooksUp c f owner path)
    (ht : t ∈ f.type?) : Reads c t owner path
  /-- What an alias stands for, if it has no fields. -/
  | alias {s : ShapeInfo} (hs : s ∈ c.shapes) (hs' : s.isObjectLike = false) :
    Reads c s.decl.type s.name ""
  | item {span : Span} {inner : TypeExpr} {owner path : String}
    (h : Reads c (.array span inner) owner path) : Reads c inner owner (TypePath.item path)
  | argument {span : Span} {name : String} {inner : TypeExpr} {owner path : String}
    (hname : TypePath.isListName name = true) (h : Reads c (.reference span name [inner]) owner path) :
    Reads c inner owner (TypePath.item path)
  | kept {span : Span} {members : List TypeExpr} {t : TypeExpr} {owner path : String}
    (hkept : TypeSchema.kept members = [t]) (h : Reads c (.union span members) owner path) :
    Reads c t owner path

end

end ShapeCatalog

/-! ## 2. Tables that hold the same there -/

/-- Two tables that hold the same at all places that are looked up. -/
structure AnnotationTable.SameFor (c : ShapeCatalog) (table other : AnnotationTable) : Prop where
  field : ∀ f owner path, c.LooksUp f owner path → other.get? owner path = table.get? owner path
  declaration : ∀ s ∈ c.shapes, other.declaration? s.name = table.declaration? s.name

variable {c : ShapeCatalog} {table other : AnnotationTable}

namespace TypeSchema

mutual

/-- They give a type that is read the same schema. -/
theorem ofType_eq_of_same (h : table.SameFor c other) (free : List String) {owner path : String}
    (t : TypeExpr) (ht : c.Reads t owner path) :
    ofType ⟨c, other⟩ free owner path t = ofType ⟨c, table⟩ free owner path t := by
  match t, ht with
  | .array span inner, ht => rw [ofType, ofType, ofType_eq_of_same h free inner ht.item]
  | .reference span name args, ht =>
    match args, ht with
    | [inner], ht =>
      rw [ofType, ofType]
      split
      · rename_i hname
        rw [ofType_eq_of_same h free inner (.argument hname ht)]
      · rw [ofName_eq_of_same h free span name]
    | [], _ | _ :: _ :: _, _ => simp only [ofType, ofName_eq_of_same h free span name]
  | .object span fields skipped, ht =>
    rw [ofType, ofType, ofFields_eq_of_same h free fields fun f hf => .nested ht hf]
  | .union span members, ht =>
    rw [ofType, ofType]
    congr 1
    funext _
    dsimp only
    split
    · rfl
    · rename_i single hkept
      have := sizeOf_lt_of_kept hkept
      rw [ofType_eq_of_same h free single (.kept hkept ht)]
    · rfl
  | .keyword _ _, _ | .literal _ _, _ | .tuple _ _, _ | .intersection _ _, _ | .function _, _
  | .other _ _, _ => rw [ofType, ofType]
termination_by (free.length, sizeOf t)

theorem ofName_eq_of_same (h : table.SameFor c other) (free : List String) (span : Span)
    (name : String) : ofName ⟨c, other⟩ free span name = ofName ⟨c, table⟩ free span name := by
  rw [ofName, ofName]
  cases hget : c.get? (TypeExpr.lastSegment name) with
  | none => rfl
  | some s =>
    have hs : s ∈ c.shapes := List.mem_of_find?_eq_some hget
    dsimp only
    split
    · rename_i hmem
      have hlength : (free.erase s.name).length < free.length := by
        rw [List.length_erase_of_mem hmem]
        have := List.length_pos_of_mem hmem
        omega
      split
      · rw [ofMerged_eq_of_same h _ s.fields fun m hm => .merged hs hm]
      · rename_i halias
        rw [ofType_eq_of_same h _ s.decl.type (.alias hs (by simpa using halias)),
          h.declaration s hs]
    · rfl
termination_by (free.length, 0)

theorem ofFields_eq_of_same (h : table.SameFor c other) (free : List String) {owner path : String}
    (fields : List (FieldOf TypeExpr))
    (hfields : ∀ f ∈ fields, c.LooksUp f owner (TypePath.field path f.name)) :
    ofFields ⟨c, other⟩ free owner path fields = ofFields ⟨c, table⟩ free owner path fields := by
  match fields with
  | [] => rw [ofFields, ofFields]
  | f :: rest =>
    rw [ofFields, ofFields, ofField_eq_of_same h free f (hfields f List.mem_cons_self),
      ofFields_eq_of_same h free rest fun g hg => hfields g (List.mem_cons_of_mem _ hg)]
termination_by (free.length, sizeOf fields)

theorem ofMerged_eq_of_same (h : table.SameFor c other) (free : List String)
    (fields : List MergedField) (hfields : ∀ m ∈ fields, c.LooksUp m.field m.owner m.name) :
    ofMerged ⟨c, other⟩ free fields = ofMerged ⟨c, table⟩ free fields := by
  match fields with
  | [] => rw [ofMerged, ofMerged]
  | ⟨f, owner⟩ :: rest =>
    have hf : c.LooksUp f owner f.name := hfields ⟨f, owner⟩ List.mem_cons_self
    rw [ofMerged, ofMerged, ofField_eq_of_same h free f hf,
      ofMerged_eq_of_same h free rest fun m hm => hfields m (List.mem_cons_of_mem _ hm)]
termination_by (free.length, sizeOf fields)

theorem ofField_eq_of_same (h : table.SameFor c other) (free : List String) {owner path : String}
    (f : FieldOf TypeExpr) (hf : c.LooksUp f owner path) :
    ofField ⟨c, other⟩ free owner path f = ofField ⟨c, table⟩ free owner path f := by
  match f, hf with
  | ⟨name, isOptional, isReadonly, type?, doc?, span⟩, hf =>
    rw [ofField, ofField,
      ofDeclared_eq_of_same h free type? fun t ht => .declared hf ht]
    simp only [field, h.field _ _ _ hf]
termination_by (free.length, sizeOf f)

theorem ofDeclared_eq_of_same (h : table.SameFor c other) (free : List String)
    {owner path : String} (type? : Option TypeExpr)
    (htype : ∀ t ∈ type?, c.Reads t owner path) :
    ofDeclared ⟨c, other⟩ free owner path type? = ofDeclared ⟨c, table⟩ free owner path type? := by
  match type? with
  | some t => rw [ofDeclared, ofDeclared, ofType_eq_of_same h free t (htype t rfl)]
  | none => rw [ofDeclared, ofDeclared]
termination_by (free.length, sizeOf type?)

end

end TypeSchema

/-- A shape is read alike with either. -/
theorem ShapeInfo.readsAlike_of_same (h : table.SameFor c other) {s : ShapeInfo}
    (hs : s ∈ c.shapes) : s.ReadsAlike ⟨c, table⟩ ⟨c, other⟩ where
  description := by
    unfold description?
    rw [h.declaration s hs]
  schema m hm := by
    have hfield := ShapeCatalog.LooksUp.merged hs hm
    unfold schemaOf
    rw [TypeSchema.ofDeclared_eq_of_same h _ m.type? fun t ht => .declared hfield ht,
      h.field _ _ _ hfield]
    rfl

theorem LocatedGraph.addAll_eq_of_same (h : table.SameFor c other) :
    ∀ (shapes : List ShapeInfo) (g : LocatedGraph), shapes ⊆ c.shapes →
      g.addAll ⟨c, other⟩ shapes = g.addAll ⟨c, table⟩ shapes
  | [], _, _ => rfl
  | s :: rest, g, hshapes => by
      have halike := ShapeInfo.readsAlike_of_same h (hshapes List.mem_cons_self)
      rw [addAll, addAll, add_eq halike]
      congr 1
      funext g
      exact addAll_eq_of_same h rest g fun _ hs => hshapes (List.mem_cons_of_mem _ hs)

/-- **A draft depends on the comments at the places that are looked up, and on those of the shapes.** -/
theorem Draft.ofCatalog_eq_of_sameComments (h : table.SameFor c other) :
    ofCatalog c other = ofCatalog c table := by
  have hcontents : contentsOf ⟨c, other⟩ = contentsOf ⟨c, table⟩ := by
    unfold contentsOf
    dsimp only
    rw [LocatedGraph.addAll_eq_of_same h _ _ fun s hs => ?_]
    obtain ⟨d, -, hs⟩ := List.mem_filterMap.mp hs
    exact List.mem_of_find?_eq_some hs
  unfold ofCatalog
  rw [hcontents]

/-! ## 3. What stands at the places -/

namespace ShapeCatalog

variable {f : SourceFile}

/-- A field of a shape is declared by its owner. -/
theorem exists_owner {s : ShapeInfo} (hs : s ∈ (ofFile f).1.shapes) {m : MergedField}
    (hm : m ∈ s.fields) : ∃ d ∈ (firstDeclarations f.shapes).1, d.name = m.owner ∧
      m.field ∈ (ShapeStructure.ofDecl d).1.fields := by
  obtain ⟨-, -, -, r, hfields, hresolved⟩ := exists_resolved hs
  have hgrounded : Heritage.Grounded (fun _ => true)
      (fun m => ∃ d ∈ (firstDeclarations f.shapes).1, d.name = m.owner ∧
        m.field ∈ (ShapeStructure.ofDecl d).1.fields) (fun _ => True) f.firstStructures := by
    refine ⟨fun _ _ _ _ _ _ _ => rfl, fun s hs _ own hown => ?_, fun _ _ _ _ => trivial⟩
    obtain ⟨d, hd, rfl⟩ := List.mem_map.mp hs
    exact ⟨d, hd, (ShapeStructure.name_ofDecl d).symm, hown⟩
  rw [hfields] at hm
  exact Heritage.forall_fields_resolveAll hgrounded hresolved rfl m hm

section

variable (hplain : ∀ d ∈ f.shapes, d.HasPlainFields)

include hplain

mutual

/-- **What stands at a place that is looked up is a field that the owner declares there.** -/
theorem LooksUp.fieldAt {g : Field} {owner path : String} :
    (ofFile f).1.LooksUp g owner path → ∃ d ∈ (firstDeclarations f.shapes).1, d.name = owner ∧
      ∃ parent, path = TypePath.field parent g.name ∧ Annotation.FieldAt d parent g
  | .merged hs hm => by
      obtain ⟨d, hd, hname, hown⟩ := exists_owner hs hm
      have hd' := hplain d (firstDeclarations_subset f.shapes hd)
      exact ⟨d, hd, hname, "", rfl, Annotation.fieldAt_root hd'.type hd'.own hown⟩
  | .nested h hg => by
      obtain ⟨d, hd, hname, hat⟩ := Reads.typeAt h
      exact ⟨d, hd, hname, _, rfl, hat.field hg⟩

/-- So does a type that is read. -/
theorem Reads.typeAt {t : TypeExpr} {owner path : String} :
    (ofFile f).1.Reads t owner path →
      ∃ d ∈ (firstDeclarations f.shapes).1, d.name = owner ∧ Annotation.TypeAt d path t
  | .declared h ht => by
      obtain ⟨d, hd, hname, parent, rfl, hat⟩ := LooksUp.fieldAt h
      exact ⟨d, hd, hname, hat.type ht⟩
  | .alias hs _ => by
      have hd := (exists_resolved hs).1
      have hd' := hplain _ (firstDeclarations_subset f.shapes hd)
      exact ⟨_, hd, rfl, Annotation.typeAt_root hd'.type⟩
  | .item h => by
      obtain ⟨d, hd, hname, hat⟩ := Reads.typeAt h
      exact ⟨d, hd, hname, hat.item⟩
  | .argument hlist h => by
      obtain ⟨d, hd, hname, hat⟩ := Reads.typeAt h
      exact ⟨d, hd, hname, hat.argument hlist⟩
  | .kept hkept h => by
      obtain ⟨d, hd, hname, hat⟩ := Reads.typeAt h
      exact ⟨d, hd, hname, hat.kept hkept⟩

end

end

end ShapeCatalog

end ServiceGraph
