import ServiceGraph.Proofs.Descriptor.Draft
import ServiceGraph.Proofs.Emission.Interfaces
import ServiceGraph.Proofs.Shape.Catalog
import ServiceGraph.Proofs.Shape.Fields

/-!
The catalog of a written file.

Every written interface extends one marker, and none has the name of a marker. So no interface extends another
one; each is of the kind of its marker, with its own fields and no others, and each declares a descriptor
(`Syntax.SourceFile.declares_written`).
-/

namespace ServiceGraph

open Syntax Written

/-! ## 1. One interface -/

namespace Syntax.WrittenInterface

/-- What a catalog holds for a written interface. -/
structure Declares (w : WrittenInterface) (s : ShapeInfo) : Prop where
  decl : w.Reads s.decl
  kind : ShapeKind.ofMarker? w.marker = some s.kind
  fields : ∃ span fs, s.decl.type = .object span fs [] ∧ ReadsFields w.fields fs ∧
    s.fields = fs.map (⟨·, s.name⟩)

/-- Interfaces with names of their own, each of which extends a marker and has no field twice. -/
structure Distinct (ws : List WrittenInterface) : Prop where
  names : (ws.map (·.name)).Nodup
  markers : ∀ w ∈ ws, TypeExpr.lastSegment w.marker = w.marker ∧ (ShapeKind.ofMarker? w.marker).isSome
  apart : ∀ w ∈ ws, ∀ v ∈ ws, w.name ≠ v.marker
  fields : ∀ w ∈ ws, (w.fields.map (·.name)).Nodup

variable {w : WrittenInterface} {d : ShapeDecl}

theorem Reads.structure_eq (h : w.Reads d) : ∃ span fs, d.type = .object span fs [] ∧
    ReadsFields w.fields fs ∧ (ShapeStructure.ofDecl d).1 = ⟨d, d.heritage, fs, [], true⟩ := by
  obtain ⟨span, fs, htype, hfields⟩ := h.type
  refine ⟨span, fs, htype, hfields, ?_⟩
  rw [ShapeStructure.ofDecl, htype]

end Syntax.WrittenInterface

open WrittenInterface

theorem ShapeKind.ne_parameter_of_marker {name : String} {kind : ShapeKind}
    (h : ShapeKind.ofMarker? name = some kind) : kind ≠ .parameter := by
  rintro rfl
  have hmem := List.mem_of_find?_eq_some h
  simp [ShapeKind.descriptors] at hmem

/-- A shape with one marker is of that marker's kind. -/
theorem ShapeCatalog.classify_of_marker (s : ShapeStructure) (kind : ShapeKind) (fields : List MergedField) :
    (classify s ⟨[kind], fields⟩).1 = kind := by
  have hwinners : winners [kind] fields = [kind] := by simp [winners]
  have hcandidates : candidates s ⟨[kind], fields⟩ = [kind] := rfl
  unfold classify
  rw [hcandidates, hwinners]

/-! ## 2. Files -/

namespace Syntax.SourceFile

variable {f : SourceFile} {ws : List WrittenInterface}

section

variable (h : List.Forall₂ WrittenInterface.Reads ws f.shapes) (hws : Distinct ws)

include h

theorem names_of_written : f.shapes.map (·.name) = ws.map (·.name) :=
  map_eq_of_forall₂ (fun _ _ hd => hd.name) h

include hws

theorem nodup_of_written : (f.shapes.map (·.name)).Nodup := by
  rw [names_of_written h]
  exact hws.names

/-- No marker is the name of a shape. -/
theorem structureOf?_marker {w : WrittenInterface} (hw : w ∈ ws) :
    Heritage.structureOf? f.structures w.marker = none := by
  refine List.find?_eq_none.mpr fun s hs heq => ?_
  have hname : s.name ∈ ws.map (·.name) := by
    rw [← names_of_written h, ← names_structures]
    exact List.mem_map_of_mem hs
  obtain ⟨v, hv, hvname⟩ := List.mem_map.mp hname
  exact hws.apart v hv w hw (hvname.trans (beq_iff_eq.mp heq))

/-- No interface extends another one. -/
theorem not_extends_of_written (a b : String) : ¬ Heritage.Extends f.structures a b := by
  rintro ⟨s, hs, base, hbase, hname, hdeclared⟩
  obtain ⟨d, hd, rfl⟩ := List.mem_map.mp (List.mem_of_find?_eq_some hs)
  obtain ⟨w, hw, hreads⟩ := exists_of_forall₂_right h hd
  obtain ⟨span, fs, -, -, hstructure⟩ := hreads.structure_eq
  obtain ⟨hspan, hheritage⟩ := hreads.heritage
  rw [hstructure, hheritage] at hbase
  obtain rfl := List.mem_singleton.mp hbase
  obtain rfl : TypeExpr.lastSegment w.marker = b := Option.some_inj.mp hname
  rw [(hws.markers w hw).1, structureOf?_marker h hws hw] at hdeclared
  cases hdeclared

theorem acyclic_of_written : Heritage.Acyclic f.structures := by
  intro name hpath
  obtain ⟨next, hfirst, -⟩ := Relation.TransGen.head'_iff.mp hpath
  exact not_extends_of_written h hws name next hfirst

/-- The entry of a written interface. -/
theorem declares_infoOf {w : WrittenInterface} {d : ShapeDecl} (hw : w ∈ ws) (hd : d ∈ f.shapes)
    (hreads : w.Reads d) :
    w.Declares (ShapeCatalog.infoOf f.structures (ShapeStructure.ofDecl d).1) := by
  obtain ⟨span, fs, htype, hfields, hstructure⟩ := hreads.structure_eq
  obtain ⟨hspan, hheritage⟩ := hreads.heritage
  obtain ⟨hlast, hmarker⟩ := hws.markers w hw
  obtain ⟨kind, hkind⟩ := Option.isSome_iff_exists.mp hmarker
  have hnodup := nodup_of_written h hws
  have hmem : (ShapeStructure.ofDecl d).1 ∈ f.structures := List.mem_map_of_mem hd
  have hown : ((fs.map fun g => (⟨g, d.name⟩ : MergedField)).map (·.name)).Nodup := by
    have hnames : (fs.map fun g => (⟨g, d.name⟩ : MergedField)).map (·.name) = w.fields.map (·.name) := by
      rw [List.map_map]
      exact map_eq_of_forall₂ (fun _ _ hg => hg.name) hfields.forall₂
    rw [hnames]
    exact hws.fields w hw
  have hresolved : Heritage.resolvedOf f.structures (ShapeStructure.ofDecl d).1 =
      ⟨[kind], fs.map (⟨·, d.name⟩)⟩ := by
    have hresolves : Heritage.Resolves (Heritage.structureOf? f.structures) (ShapeStructure.ofDecl d).1
        ((Resolved.empty.addMarker kind).addOwn (ShapeStructure.ofDecl d).1) := by
      refine .of ?_
      rw [hstructure, hheritage]
      refine .marker rfl ?_ ?_ .nil
      · rw [hlast]
        exact structureOf?_marker h hws hw
      · rw [hlast]
        exact hkind
    have hunique := (Heritage.resolves_resolvedOf (acyclic_of_written h hws)
      (by rwa [names_structures]) hmem).unique hresolves
    have hmerged : mergeFields [] (fs.map (⟨·, d.name⟩)) = fs.map (⟨·, d.name⟩) := by
      rw [mergeFields_of_nodup (by simpa using hown), List.nil_append]
    rw [hunique, hstructure]
    exact congrArg (Resolved.mk [kind]) hmerged
  have hinfo : ShapeCatalog.infoOf f.structures (ShapeStructure.ofDecl d).1 =
      ⟨d, [kind], fs.map (⟨·, d.name⟩), [], true, kind⟩ := by
    unfold ShapeCatalog.infoOf
    dsimp only
    rw [hresolved, ShapeCatalog.classify_of_marker, hstructure]
  rw [hinfo]
  exact ⟨hreads, hkind, span, fs, htype, hfields, rfl⟩

theorem declares_shapes : List.Forall₂ Declares ws (ShapeCatalog.ofFile f).1.shapes := by
  rw [ShapeCatalog.shapes_ofFile (nodup_of_written h hws) (acyclic_of_written h hws), structures, List.map_map,
    List.forall₂_map_right_iff]
  exact (forall₂_mem h).imp fun w d hd => declares_infoOf h hws hd.1 hd.2.1 hd.2.2

/-- **Each written interface declares a descriptor**, of the kind of its marker and with the fields that are written. -/
theorem declares_written : List.Forall₂ Declares ws (Draft.declaring (ShapeCatalog.ofFile f).1) := by
  have hn := nodup_of_written h hws
  have hacyclic := acyclic_of_written h hws
  have hshapes := declares_shapes h hws
  have hdeclarations : (ShapeCatalog.ofFile f).1.declarations =
      (ShapeCatalog.ofFile f).1.shapes.map fun s => ⟨s.kind, s.decl⟩ := by
    rw [ShapeCatalog.declarations_ofFile hn]
    refine List.filterMap_eq_map_iff_forall_eq_some.mpr fun s hs => ?_
    obtain ⟨w, -, hw⟩ := exists_of_forall₂_right hshapes hs
    have hbase : s.name ∉ (Heritage.resolveAll f.structures).2.usedAsBase := by
      rw [Heritage.mem_usedAsBase hacyclic (by rwa [names_structures])]
      rintro ⟨a, ha⟩
      exact not_extends_of_written h hws a s.name ha
    simp [ShapeCatalog.declarationOf?, hbase, ShapeKind.ne_parameter_of_marker hw.kind]
  have hdeclaring : Draft.declaring (ShapeCatalog.ofFile f).1 = (ShapeCatalog.ofFile f).1.shapes := by
    unfold Draft.declaring
    rw [hdeclarations, List.filterMap_map]
    conv_rhs => rw [← List.map_id (ShapeCatalog.ofFile f).1.shapes]
    refine List.filterMap_eq_map_iff_forall_eq_some.mpr fun s hs => ?_
    exact (Keyed.find?_eq_some_iff (ShapeCatalog.nodup_names_ofFile hn hacyclic)).mpr ⟨hs, rfl⟩
  rw [hdeclaring]
  exact hshapes

/-- A name that no interface has is not in the catalog. -/
theorem get?_of_written {name : String} (hname : ∀ w ∈ ws, w.name ≠ name) :
    (ShapeCatalog.ofFile f).1.get? name = none := by
  refine List.find?_eq_none.mpr fun s hs heq => ?_
  obtain ⟨w, hw, hdeclares⟩ := exists_of_forall₂_right (declares_shapes h hws) hs
  exact hname w hw (hdeclares.decl.name.symm.trans (beq_iff_eq.mp heq))

end

end Syntax.SourceFile

end ServiceGraph
