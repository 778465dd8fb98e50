import ServiceGraph.Proofs.Shape.Heritage
import ServiceGraph.Shape.Catalog

/-!
Catalogs of declarations that are written in another order.

Without two shapes of one name and without cycles, a shape's entry in the catalog is a function of the shape
(`ShapeCatalog.infoOf`), so another order permutes the entries. It permutes the declarations of
descriptors as well: which shapes are only bases is a matter of which bases there are.
-/

namespace ServiceGraph

open Syntax

/-! ## 1. Structures -/

namespace ShapeStructure

theorem decl_addMember (s : ShapeStructure) (member : TypeExpr) :
    (s.addMember member).1.decl = s.decl := by
  cases member <;> rfl

theorem decl_addMembers : ∀ (members : List TypeExpr) (s : ShapeStructure),
    (s.addMembers members).1.decl = s.decl
  | [], _ => rfl
  | member :: rest, s => by
      rw [addMembers]
      exact (decl_addMembers rest _).trans (decl_addMember s member)

@[simp] theorem decl_ofDecl (d : ShapeDecl) : (ofDecl d).1.decl = d := by
  unfold ofDecl
  dsimp only
  split
  · rfl
  · split
    · rfl
    · exact decl_addMembers _ _
  · split <;> rfl
  · rfl

@[simp] theorem name_ofDecl (d : ShapeDecl) : (ofDecl d).1.name = d.name := by
  rw [name, decl_ofDecl]

end ShapeStructure

theorem foldl_firstDeclarations :
    ∀ (rest done : List ShapeDecl) (problems : List Diagnostic),
      ((done ++ rest).map (·.name)).Nodup →
      rest.foldl (fun (state : List ShapeDecl × List Diagnostic) d =>
        if state.1.any (·.name == d.name) then
          (state.1, state.2 ++
            [⟨.duplicateName, d.nameSpan, s!"shape `{d.name}` is declared more than once"⟩])
        else (state.1 ++ [d], state.2)) (done, problems) = (done ++ rest, problems)
  | [], done, problems, _ => by simp
  | d :: rest, done, problems, hn => by
      have hnew : done.any (·.name == d.name) = false := by
        rw [List.any_eq_false]
        intro e he heq
        rw [List.map_append, List.nodup_append] at hn
        refine hn.2.2 e.name (List.mem_map_of_mem he) d.name ?_ (by simpa using heq)
        exact List.mem_map_of_mem List.mem_cons_self
      rw [List.foldl_cons]
      simp only [hnew, Bool.false_eq_true, if_false]
      rw [foldl_firstDeclarations rest (done ++ [d]) problems (by simpa using hn), List.append_assoc]
      rfl

/-- Declarations with different names all count. -/
theorem firstDeclarations_of_nodup {decls : List ShapeDecl} (hn : (decls.map (·.name)).Nodup) :
    firstDeclarations decls = (decls, []) :=
  foldl_firstDeclarations decls [] [] hn

/-- The declarations that count have different names. -/
theorem nodup_names_firstDeclarations (decls : List ShapeDecl) :
    ((firstDeclarations decls).1.map (·.name)).Nodup := by
  suffices hall : ∀ (rest done : List ShapeDecl) (problems : List Diagnostic),
      (done.map (·.name)).Nodup →
      ((rest.foldl (fun (state : List ShapeDecl × List Diagnostic) d =>
        if state.1.any (·.name == d.name) then
          (state.1, state.2 ++
            [⟨.duplicateName, d.nameSpan, s!"shape `{d.name}` is declared more than once"⟩])
        else (state.1 ++ [d], state.2)) (done, problems)).1.map (·.name)).Nodup from
    hall decls [] [] List.nodup_nil
  intro rest
  induction rest with
  | nil => exact fun done _ hdone => hdone
  | cons d rest ih =>
    intro done problems hdone
    rw [List.foldl_cons]
    dsimp only
    split
    · exact ih done _ hdone
    · rename_i hnew
      refine ih _ problems ?_
      rw [List.map_append, List.map_singleton, List.nodup_append_comm]
      refine List.nodup_cons.mpr ⟨fun hmem => hnew ?_, hdone⟩
      obtain ⟨e, he, heq⟩ := List.mem_map.mp hmem
      exact List.any_eq_true.mpr ⟨e, he, by simpa using heq⟩

namespace Syntax.SourceFile

/-- What the shapes of a file declare themselves. -/
def structures (f : SourceFile) : List ShapeStructure :=
  f.shapes.map fun d => (ShapeStructure.ofDecl d).1

theorem names_structures (f : SourceFile) :
    f.structures.map (·.name) = f.shapes.map (·.name) := by
  simp [structures]

theorem shapes_of_perm {f g : SourceFile} (hp : f.items.Perm g.items) : f.shapes.Perm g.shapes :=
  hp.filterMap _

theorem structures_of_perm {f g : SourceFile} (hp : f.items.Perm g.items) :
    f.structures.Perm g.structures :=
  (shapes_of_perm hp).map _

end Syntax.SourceFile

/-! ## 2. Catalogs -/

namespace ShapeCatalog

/-- The entry of a shape. -/
def infoOf (all : List ShapeStructure) (s : ShapeStructure) : ShapeInfo :=
  let r := Heritage.resolvedOf all s
  ⟨s.decl, r.markers, r.fields, s.skipped, s.isObjectLike, (classify s r).1⟩

/-- The declaration that an entry stands for, where the given shapes are bases. -/
def declarationOf? (bases : List String) (s : ShapeInfo) : Option Declaration :=
  let isBase := bases.contains s.name && lacksIdentity s.kind s.fields
  if s.kind != .parameter && !isBase then some ⟨s.kind, s.decl⟩ else none

variable {f g : SourceFile}

theorem shapes_ofFile (hn : (f.shapes.map (·.name)).Nodup)
    (hacyclic : Heritage.Acyclic f.structures) :
    (ofFile f).1.shapes = f.structures.map (infoOf f.structures) := by
  have hn' : (f.structures.map (·.name)).Nodup := by rwa [SourceFile.names_structures]
  have hresolved := Heritage.resolveAll_fst hacyclic hn'
  have hstructures : (f.shapes.map ShapeStructure.ofDecl).map (·.1) = f.structures := by
    rw [List.map_map]
    rfl
  simp only [ofFile, firstDeclarations_of_nodup hn, hstructures]
  rw [hresolved, List.map_map, List.map_map]
  rfl

theorem declarations_ofFile (hn : (f.shapes.map (·.name)).Nodup) :
    (ofFile f).1.declarations = (ofFile f).1.shapes.filterMap
      (declarationOf? (Heritage.resolveAll f.structures).2.usedAsBase) := by
  have hstructures : (f.shapes.map ShapeStructure.ofDecl).map (·.1) = f.structures := by
    rw [List.map_map]
    rfl
  simp only [ofFile, firstDeclarations_of_nodup hn, hstructures]
  rfl

theorem nodup_names_ofFile (hn : (f.shapes.map (·.name)).Nodup)
    (hacyclic : Heritage.Acyclic f.structures) : ((ofFile f).1.shapes.map (·.name)).Nodup := by
  rw [shapes_ofFile hn hacyclic, List.map_map]
  have hnames : f.structures.map (ShapeInfo.name ∘ infoOf f.structures) =
      f.structures.map (·.name) := rfl
  rw [hnames, SourceFile.names_structures]
  exact hn

section Order

variable (hp : f.items.Perm g.items) (hn : (f.shapes.map (·.name)).Nodup)
  (hacyclic : Heritage.Acyclic f.structures)

include hp hn hacyclic

/-- Another order permutes the entries. -/
theorem shapes_of_perm : (ofFile f).1.shapes.Perm (ofFile g).1.shapes := by
  have hstructures := SourceFile.structures_of_perm hp
  have hn' : (f.structures.map (·.name)).Nodup := by rwa [SourceFile.names_structures]
  have hg := Keyed.nodup_of_perm (SourceFile.shapes_of_perm hp) hn
  have hacyclic' := Heritage.acyclic_of_perm hstructures hn' hacyclic
  rw [shapes_ofFile hn hacyclic, shapes_ofFile hg hacyclic']
  have heq : f.structures.map (infoOf f.structures) = f.structures.map (infoOf g.structures) := by
    refine List.map_congr_left fun s hs => ?_
    simp only [infoOf, Heritage.resolvedOf_of_perm hstructures hn' hacyclic hs]
  rw [heq]
  exact hstructures.map _

/-- Another order finds the same entry under a name. -/
theorem get?_of_perm (name : String) : (ofFile g).1.get? name = (ofFile f).1.get? name :=
  (Keyed.find?_of_perm (shapes_of_perm hp hn hacyclic) (nodup_names_ofFile hn hacyclic) name).symm

/-- Another order permutes the declarations. -/
theorem declarations_of_perm : (ofFile f).1.declarations.Perm (ofFile g).1.declarations := by
  have hstructures := SourceFile.structures_of_perm hp
  have hn' : (f.structures.map (·.name)).Nodup := by rwa [SourceFile.names_structures]
  have hg := Keyed.nodup_of_perm (SourceFile.shapes_of_perm hp) hn
  have hg' := Keyed.nodup_of_perm hstructures hn'
  have hacyclic' := Heritage.acyclic_of_perm hstructures hn' hacyclic
  have hbases : declarationOf? (Heritage.resolveAll g.structures).2.usedAsBase =
      declarationOf? (Heritage.resolveAll f.structures).2.usedAsBase := by
    funext s
    have hmem : (Heritage.resolveAll g.structures).2.usedAsBase.contains s.name =
        (Heritage.resolveAll f.structures).2.usedAsBase.contains s.name := by
      rw [Bool.eq_iff_iff, List.contains_iff_mem, List.contains_iff_mem,
        Heritage.mem_usedAsBase hacyclic' hg', Heritage.mem_usedAsBase hacyclic hn',
        Heritage.extends_of_perm hstructures hn']
    simp only [declarationOf?, hmem]
  rw [declarations_ofFile hn, declarations_ofFile hg, hbases]
  exact (shapes_of_perm hp hn hacyclic).filterMap _

end Order

end ShapeCatalog

end ServiceGraph
