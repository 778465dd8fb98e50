import ServiceGraph.Annotation.Table
import ServiceGraph.Proofs.Syntax.Parts
import ServiceGraph.Shape.Catalog

/-!
The places and the comments that are written into a file: `SourceFile.places` and `SourceFile.docs` list
those of all items, at whatever depth.

What is said about all places of a file is said about the places of its shapes, and of all that a shape
declares (`Sited`).
-/

namespace ServiceGraph

open Syntax

/-! ## 1. Files -/

namespace Syntax

namespace TypeExpr

/-- The places at one part of a type: its own, and those of its fields and members. -/
def places : TypeExpr → List Span
  | .object span fields skipped => span :: (fields.map (·.span) ++ skipped.map (·.span))
  | t => [t.span]

/-- The comments at one part of a type. -/
def docs : TypeExpr → List Doc
  | .object _ fields _ => fields.filterMap (·.doc?)
  | _ => []

end TypeExpr

namespace ShapeDecl

def places (d : ShapeDecl) : List Span :=
  d.span :: d.nameSpan :: (d.type :: d.heritage).flatMap fun t => t.parts.flatMap TypeExpr.places

def docs (d : ShapeDecl) : List Doc :=
  d.doc?.toList ++ (d.type :: d.heritage).flatMap fun t => t.parts.flatMap TypeExpr.docs

end ShapeDecl

namespace Value

mutual

/-- The places of the members of a value, and of those inside them. -/
def places : Value → List Span
  | .classBody members => placesOfMembers members
  | .object members => placesOfMembers members
  | _ => []

def placesOfMembers : List (MemberOf Value) → List Span
  | [] => []
  | m :: rest => placesOfMember m ++ placesOfMembers rest

def placesOfMember : MemberOf Value → List Span
  | ⟨_, value, span⟩ => span :: places value

end

theorem span_mem_placesOfMembers {m : Member} : ∀ {members : List Member}, m ∈ members →
    m.span ∈ placesOfMembers members
  | first :: rest, h => by
      rw [placesOfMembers, List.mem_append]
      rcases List.mem_cons.mp h with rfl | h
      · cases m
        exact .inl List.mem_cons_self
      · exact .inr (span_mem_placesOfMembers h)

end Value

namespace Item

def places : Item → List Span
  | .shape d => d.places
  | .binding b => b.span :: b.value.places
  | .defaultExport d => d.span :: d.value.places

def docs : Item → List Doc
  | .shape d => d.docs
  | _ => []

end Item

namespace SourceFile

/-- All places that are written into the items of a file. -/
def places (f : SourceFile) : List Span := f.items.flatMap Item.places

/-- All comments in a file. -/
def docs (f : SourceFile) : List Doc := f.items.flatMap Item.docs

variable {f : SourceFile}

theorem shape_mem_items {d : ShapeDecl} (h : d ∈ f.shapes) : .shape d ∈ f.items := by
  obtain ⟨i, hi, hd⟩ := List.mem_filterMap.mp h
  cases i with
  | shape e => exact Option.some.inj hd ▸ hi
  | binding b => cases hd
  | defaultExport e => cases hd

theorem binding_mem_items {b : Binding} (h : b ∈ f.bindings) : .binding b ∈ f.items := by
  obtain ⟨i, hi, hb⟩ := List.mem_filterMap.mp h
  cases i with
  | shape d => cases hb
  | binding c => exact Option.some.inj hb ▸ hi
  | defaultExport e => cases hb

theorem defaultExport_mem_items {d : DefaultExport} (h : f.defaultExport? = some d) :
    .defaultExport d ∈ f.items := by
  obtain ⟨i, hi, hd⟩ := List.exists_of_findSome?_eq_some h
  cases i with
  | shape e => cases hd
  | binding b => cases hd
  | defaultExport e => exact Option.some.inj hd ▸ hi

theorem docs_subset {d : ShapeDecl} (h : d ∈ f.shapes) : d.docs ⊆ f.docs := fun _ hdoc =>
  List.mem_flatMap.mpr ⟨.shape d, shape_mem_items h, hdoc⟩

end SourceFile

end Syntax

/-! ## 2. Shapes -/

section

variable {ok : Span → Prop}

/-- All places in a type satisfy a condition. -/
abbrev Syntax.TypeExpr.Sited (ok : Span → Prop) : TypeExpr → Prop :=
  TypeExpr.Everywhere fun u => ∀ s ∈ u.places, ok s

theorem Syntax.TypeExpr.Sited.span {t : TypeExpr} (h : t.Sited ok) : ok t.span := by
  refine h.self t.span ?_
  cases t <;> simp [TypeExpr.places, TypeExpr.span]

/-- All places in a field satisfy a condition. -/
structure Syntax.FieldOf.Sited (ok : Span → Prop) (f : Field) : Prop where
  span : ok f.span
  type : ∀ t ∈ f.type?, t.Sited ok

theorem Syntax.TypeExpr.Sited.field {span : Span} {fields : List Field} {skipped : List SkippedMember}
    (h : (object span fields skipped).Sited ok) {f : Field} (hf : f ∈ fields) : f.Sited ok :=
  ⟨h.self f.span (by simpa [TypeExpr.places] using .inr (.inl ⟨f, hf, rfl⟩)),
    fun _ ht => Everywhere.field h hf ht⟩

theorem Syntax.TypeExpr.Sited.skipped {span : Span} {fields : List Field}
    {skipped : List SkippedMember} (h : (object span fields skipped).Sited ok) {m : SkippedMember}
    (hm : m ∈ skipped) : ok m.span :=
  h.self m.span (by simpa [TypeExpr.places] using .inr (.inr ⟨m, hm, rfl⟩))

/-- All places in a declaration that messages point to satisfy a condition. -/
structure Syntax.ShapeDecl.Sited (ok : Span → Prop) (d : ShapeDecl) : Prop where
  nameSpan : ok d.nameSpan
  type : d.type.Sited ok
  heritage : ∀ t ∈ d.heritage, t.Sited ok

theorem Syntax.SourceFile.sited_of_mem_shapes {f : SourceFile} (h : ∀ s ∈ f.places, ok s)
    {d : ShapeDecl} (hd : d ∈ f.shapes) : d.Sited ok := by
  have hall : ∀ s ∈ d.places, ok s := fun s hs =>
    h s (List.mem_flatMap.mpr ⟨.shape d, shape_mem_items hd, hs⟩)
  have htypes : ∀ t ∈ d.type :: d.heritage, t.Sited ok := by
    intro t ht u hu s hs
    refine hall s (List.mem_cons_of_mem _ (List.mem_cons_of_mem _ ?_))
    exact List.mem_flatMap.mpr ⟨t, ht, List.mem_flatMap.mpr ⟨u, hu, hs⟩⟩
  exact ⟨hall d.nameSpan (by simp [ShapeDecl.places]), htypes _ List.mem_cons_self,
    fun t ht => htypes t (List.mem_cons_of_mem _ ht)⟩

/-- All places in what a shape declares itself satisfy a condition. -/
structure ShapeStructure.Sited (ok : Span → Prop) (s : ShapeStructure) : Prop where
  decl : s.decl.Sited ok
  bases : ∀ base ∈ s.bases, ok base.span
  fields : ∀ f ∈ s.fields, f.Sited ok
  skipped : ∀ m ∈ s.skipped, ok m.span

/-- All places in an entry of a catalog that messages point to satisfy a condition. -/
structure ShapeInfo.Sited (ok : Span → Prop) (s : ShapeInfo) : Prop where
  nameSpan : ok s.decl.nameSpan
  type : s.decl.type.Sited ok
  fields : ∀ f ∈ s.fields, f.field.Sited ok
  skipped : ∀ m ∈ s.skipped, ok m.span

end

theorem Syntax.TypeExpr.sited_true (t : TypeExpr) : t.Sited fun _ => True := fun _ _ _ _ => trivial

theorem ShapeInfo.sited_true (s : ShapeInfo) : s.Sited fun _ => True :=
  ⟨trivial, s.decl.type.sited_true, fun _ _ => ⟨trivial, fun t _ => t.sited_true⟩, fun _ _ => trivial⟩

end ServiceGraph
