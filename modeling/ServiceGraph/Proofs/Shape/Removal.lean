import ServiceGraph.Proofs.Schema.Context
import ServiceGraph.Proofs.Shape.Fields

/-!
Catalogs of files from which a shape is taken.

If no other shape names it, every other shape is what it was: its bases lead around the one that
is taken (`Heritage.resolvedOf_without`), so it keeps its entry, and the catalog loses no other
(`ShapeCatalog.shapes_without`). Which shapes count as bases may change; this is not told by the entries.
-/

namespace ServiceGraph

open Syntax

/-! ## 1. Files -/

namespace Syntax.SourceFile

/-- Whether an item is a shape of a name. -/
def isShapeNamed (name : String) : Item → Bool
  | .shape d => d.name == name
  | _ => false

/-- A file without its shapes of a name. -/
def without (f : SourceFile) (name : String) : SourceFile :=
  { f with items := f.items.filter fun i => !isShapeNamed name i }

/-- No other shape names the shape of a name, which is no service. The shapes of the file have different
names, and none of them leads back to itself. -/
structure Isolates (f : SourceFile) (name : String) : Prop where
  shapes : (f.shapes.map (·.name)).Nodup
  heritage : Heritage.Acyclic f.structures
  unused : ∀ d ∈ f.shapes, d.name ≠ name → ∀ t ∈ d.type :: d.heritage,
    t.Everywhere fun u => u.referenceName? ≠ some name
  service : ∀ s ∈ (ShapeCatalog.ofFile f).1.shapes, s.name = name → s.kind ≠ .service

variable {f : SourceFile} {name : String}

theorem shapes_without (f : SourceFile) (name : String) :
    (f.without name).shapes = f.shapes.filter (·.name != name) := by
  simp only [shapes, without, List.filterMap_filter, List.filter_filterMap]
  refine congrArg (f.items.filterMap ·) (funext fun i => ?_)
  cases i with
  | shape d => by_cases h : d.name = name <;> simp [isShapeNamed, h, Option.filter]
  | binding d => rfl
  | defaultExport d => rfl

theorem structures_without (f : SourceFile) (name : String) :
    (f.without name).structures = f.structures.filter (·.name != name) := by
  rw [structures, shapes_without, structures, List.filter_map]
  exact congrArg _ (List.filter_congr fun d _ => by simp)

theorem bindings_without (f : SourceFile) (name : String) : (f.without name).bindings = f.bindings := by
  simp only [bindings, without, List.filterMap_filter]
  refine congrArg (f.items.filterMap ·) (funext fun i => ?_)
  cases i with
  | shape d => cases h : isShapeNamed name (.shape d) <;> simp
  | binding d => rfl
  | defaultExport d => rfl

theorem defaultExport?_without (f : SourceFile) (name : String) :
    (f.without name).defaultExport? = f.defaultExport? := by
  rw [defaultExport?, defaultExport?, without]
  induction f.items with
  | nil => rfl
  | cons i rest ih =>
    cases i with
    | shape d => cases h : isShapeNamed name (.shape d) <;> simp [h, ih]
    | binding d => simpa [isShapeNamed] using ih
    | defaultExport d => simp [isShapeNamed]

theorem nodup_shapes_without (h : f.Isolates name) : ((f.without name).shapes.map (·.name)).Nodup := by
  rw [shapes_without]
  exact h.shapes.sublist (List.filter_sublist.map _)

end Syntax.SourceFile

/-! ## 2. Structures -/

namespace ShapeStructure

/-- A structure belongs to a set of names, together with all that it names. -/
structure NamesIn (known : String → Bool) (s : ShapeStructure) : Prop where
  name : known s.name = true
  type : s.decl.type.NamesIn known
  bases : ∀ base ∈ s.bases, ∀ name ∈ base.referenceName?, known name = true
  fields : ∀ f ∈ s.fields, ∀ t ∈ f.type?, t.NamesIn known

theorem namesIn_ofDecl {known : String → Bool} {d : ShapeDecl} (hname : known d.name = true)
    (hd : ∀ t ∈ d.type :: d.heritage, t.NamesIn known) : (ofDecl d).1.NamesIn known := by
  have htype := hd d.type List.mem_cons_self
  refine ⟨?_, ?_, fun base hbase => ?_, fun f hf t ht => ?_⟩
  · rw [name_ofDecl]
    exact hname
  · rw [decl_ofDecl]
    exact htype
  · exact (everywhere_of_mem_bases htype (fun t ht => hd t (List.mem_cons_of_mem _ ht)) hbase).self
  · obtain ⟨span, fields, skipped, hobject, hf⟩ := exists_object_of_mem_fields htype hf
    exact hobject.field hf ht

end ShapeStructure

/-- Every structure but the one of a name belongs to the other names. -/
theorem Syntax.SourceFile.Isolates.namesIn {f : SourceFile} {name : String} (h : f.Isolates name) :
    ∀ s ∈ f.structures, (s.name != name) = true → s.NamesIn (· != name) := by
  intro s hs hname
  obtain ⟨d, hd, rfl⟩ := List.mem_map.mp hs
  rw [ShapeStructure.name_ofDecl] at hname
  refine ShapeStructure.namesIn_ofDecl hname fun t ht => ?_
  refine (h.unused d hd (by simpa using hname) t ht).mono fun u hu other hother => ?_
  have hne : other ≠ name := fun heq => hu (heq ▸ hother)
  simpa using hne

/-! ## 3. Heritage -/

namespace Heritage

variable {known : String → Bool} {structureOf structureOf' : String → Option ShapeStructure}

/-- Structures that are the same under the names of a closed set. -/
structure SameOn (known : String → Bool) (structureOf structureOf' : String → Option ShapeStructure) :
    Prop where
  same : ∀ name, known name = true → structureOf' name = structureOf name
  closed : ∀ name s, known name = true → structureOf name = some s → s.NamesIn known

mutual

/-- What a shape has depends only on the structures that it names. -/
theorem Resolves.of_same (hsame : SameOn known structureOf structureOf') :
    ∀ {s : ShapeStructure} {r : Resolved}, s.NamesIn known → Resolves structureOf s r →
      Resolves structureOf' s r
  | _, _, hs, .of h => .of (h.of_same hsame hs.bases)

theorem Inherits.of_same (hsame : SameOn known structureOf structureOf') :
    ∀ {bases : List TypeExpr} {r last : Resolved},
      (∀ base ∈ bases, ∀ name ∈ base.referenceName?, known name = true) →
      Inherits structureOf bases r last → Inherits structureOf' bases r last
  | _, _, _, _, .nil => .nil
  | _, _, _, hb, .unnamed hname h =>
    .unnamed hname (h.of_same hsame fun b hmem => hb b (List.mem_cons_of_mem _ hmem))
  | _, _, _, hb, .declared hname hs hr h =>
    have hknown := hb _ List.mem_cons_self _ hname
    .declared hname ((hsame.same _ hknown).trans hs) (hr.of_same hsame (hsame.closed _ _ hknown hs))
      (h.of_same hsame fun b hmem => hb b (List.mem_cons_of_mem _ hmem))
  | _, _, _, hb, .marker hname hs hkind h =>
    .marker hname ((hsame.same _ (hb _ List.mem_cons_self _ hname)).trans hs) hkind
      (h.of_same hsame fun b hmem => hb b (List.mem_cons_of_mem _ hmem))
  | _, _, _, hb, .unknown hname hs hkind h =>
    .unknown hname ((hsame.same _ (hb _ List.mem_cons_self _ hname)).trans hs) hkind
      (h.of_same hsame fun b hmem => hb b (List.mem_cons_of_mem _ hmem))

end

variable {f : SourceFile} {name : String}

/-- Another name has the structure that it had. -/
theorem structureOf?_without (f : SourceFile) {name other : String} (hother : other ≠ name) :
    structureOf? (f.without name).structures other = structureOf? f.structures other := by
  rw [structureOf?, SourceFile.structures_without, List.find?_filter]
  refine congrArg (f.structures.find? ·) (funext fun s => ?_)
  by_cases h : s.name = other
  · simp [h, hother]
  · simp [h]

theorem structureOf?_without_eq_some {other : String} {s : ShapeStructure}
    (h : structureOf? (f.without name).structures other = some s) :
    structureOf? f.structures other = some s := by
  obtain ⟨hs, hname⟩ := structureOf?_eq_some h
  rw [SourceFile.structures_without] at hs
  have hother : other ≠ name := by simpa [← hname] using (List.mem_filter.mp hs).2
  rw [← structureOf?_without f hother]
  exact h

theorem extends_of_without {a b : String} (h : Extends (f.without name).structures a b) :
    Extends f.structures a b := by
  obtain ⟨s, hs, base, hbase, hname, hdeclared⟩ := h
  obtain ⟨t, ht⟩ := Option.isSome_iff_exists.mp hdeclared
  exact ⟨s, structureOf?_without_eq_some hs, base, hbase, hname,
    by simp [structureOf?_without_eq_some ht]⟩

theorem acyclic_without (h : f.Isolates name) : Acyclic (f.without name).structures := fun other hcycle =>
  h.heritage other (Relation.TransGen.mono (fun _ _ => extends_of_without) _ _ hcycle)

theorem mem_structures_without {s : ShapeStructure} :
    s ∈ (f.without name).structures ↔ s ∈ f.structures ∧ s.name ≠ name := by
  rw [SourceFile.structures_without, List.mem_filter]
  simp

/-- The other shapes have what they had. -/
theorem resolvedOf_without (h : f.Isolates name) {s : ShapeStructure}
    (hs : s ∈ (f.without name).structures) :
    resolvedOf (f.without name).structures s = resolvedOf f.structures s := by
  obtain ⟨hmem, hname⟩ := mem_structures_without.mp hs
  have hn : (f.structures.map (·.name)).Nodup := by
    rw [SourceFile.names_structures]
    exact h.shapes
  have hn' : ((f.without name).structures.map (·.name)).Nodup := by
    rw [SourceFile.names_structures]
    exact SourceFile.nodup_shapes_without h
  have hbefore := resolves_resolvedOf h.heritage hn hmem
  have hafter := resolves_resolvedOf (acyclic_without h) hn' hs
  have hsame : SameOn (· != name) (structureOf? f.structures)
      (structureOf? (f.without name).structures) := by
    refine ⟨fun other hother => structureOf?_without f (by simpa using hother),
      fun other t hother ht => ?_⟩
    obtain ⟨htmem, rfl⟩ := structureOf?_eq_some ht
    exact h.namesIn t htmem hother
  exact hafter.unique (hbefore.of_same hsame (h.namesIn s hmem (by simpa using hname)))

/-- Every structure but that of a name leads only to such structures, and its own fields name only them. -/
theorem grounded_of_isolates (h : f.Isolates name) :
    Grounded (· != name) (MergedField.NamesIn (· != name)) (fun _ => True) f.structures where
  names s hs hname := (h.namesIn s hs hname).bases
  fields s hs hname field hfield := ⟨hname, (h.namesIn s hs hname).fields field hfield⟩
  spans _ _ _ _ := trivial

end Heritage

/-! ## 4. Catalogs -/

namespace ShapeCatalog

variable {f : SourceFile} {name : String} (h : f.Isolates name)

include h

/-- **The other shapes keep their entries.** -/
theorem shapes_without : (ofFile (f.without name)).1.shapes =
    (ofFile f).1.shapes.filter (·.name != name) := by
  rw [shapes_ofFile (SourceFile.nodup_shapes_without h) (Heritage.acyclic_without h),
    shapes_ofFile h.shapes h.heritage, List.filter_map]
  have heq : (f.without name).structures.map (infoOf (f.without name).structures) =
      (f.without name).structures.map (infoOf f.structures) :=
    List.map_congr_left fun s hs => by simp only [infoOf, Heritage.resolvedOf_without h hs]
  rw [heq, SourceFile.structures_without]
  rfl

theorem get?_without {other : String} (hother : other ≠ name) :
    (ofFile (f.without name)).1.get? other = (ofFile f).1.get? other := by
  rw [get?, shapes_without h, List.find?_filter]
  refine congrArg ((ofFile f).1.shapes.find? ·) (funext fun s => ?_)
  by_cases hs : s.name = other
  · simp [hs, hother]
  · simp [hs]

/-- The other shapes name only each other. -/
theorem namesIn_of_mem_shapes {s : ShapeInfo} (hs : s ∈ (ofFile f).1.shapes)
    (hname : (s.name != name) = true) : s.NamesIn (· != name) := by
  rw [shapes_ofFile h.shapes h.heritage] at hs
  obtain ⟨t, ht, rfl⟩ := List.mem_map.mp hs
  have hn : (f.structures.map (·.name)).Nodup := by
    rw [SourceFile.names_structures]
    exact h.shapes
  have hresolved : (t, Heritage.resolvedOf f.structures t) ∈ (Heritage.resolveAll f.structures).1 := by
    rw [Heritage.resolveAll_fst h.heritage hn]
    exact List.mem_map_of_mem ht
  exact ⟨hname, (h.namesIn t ht hname).type,
    Heritage.forall_fields_resolveAll (Heritage.grounded_of_isolates h) hresolved hname⟩

end ShapeCatalog

/-- Where the shape is missing, no other one names it either. -/
theorem Syntax.SourceFile.Isolates.without {f : SourceFile} {name : String} (h : f.Isolates name) :
    (f.without name).Isolates name where
  shapes := nodup_shapes_without h
  heritage := Heritage.acyclic_without h
  unused d hd hne := by
    rw [shapes_without] at hd
    exact h.unused d (List.mem_filter.mp hd).1 hne
  service s hs hname := by
    rw [ShapeCatalog.shapes_without h] at hs
    simp [hname] at hs

end ServiceGraph
