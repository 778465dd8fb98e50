import ServiceGraph.Proofs.Annotation.Positions
import ServiceGraph.Proofs.Graph.Comments

/-!
Comments and positions.

Whatever names the fields of a file have, each place at which a comment is looked up is the path of a field's
position in the shape that declares it (`ShapeCatalog.LooksUp.exists_position`). If the positions in that
shape are clear, paths tell them apart, and what is found for a field is what a comment of a field at the same
position says (`Analysis.fields_told_apart`).

A name with a dot in it can take the path of a field inside of another one. Then that field's comment counts for
both (`Sample.dotted_disturbed`).
-/

namespace ServiceGraph

open Syntax
open Schema (Step)

/-! ## 1. What is looked up stands at a position -/

namespace Annotation

/-- The own fields of a shape stand at its root. -/
theorem positionsOfField_subset_of_own {d : ShapeDecl} {f : Field}
    (hf : f ∈ (ShapeStructure.ofDecl d).1.fields) : positionsOfField [] f ⊆ positions d := by
  unfold ShapeStructure.ofDecl at hf
  dsimp only at hf
  split at hf
  · rename_i span fields skipped htype
    rw [positions, htype, positionsOfType]
    exact positionsOfFields_subset hf
  · rename_i span members htype
    split at hf
    · cases hf
    · rw [ShapeStructure.fields_addMembers, List.nil_append] at hf
      obtain ⟨m, hm, hf⟩ := List.mem_flatMap.mp hf
      rw [positions, htype, positionsOfType]
      refine List.Subset.trans ?_ (positionsOfTypes_subset hm)
      cases m with
      | object span fields skipped =>
        rw [positionsOfType]
        exact positionsOfFields_subset hf
      | _ => cases hf
  · split at hf <;> cases hf
  · cases hf

end Annotation

namespace ShapeCatalog

open Annotation TypePath

variable {f : SourceFile}

mutual

/-- What is looked up for a field is looked up under the path of its position. -/
theorem LooksUp.exists_position {g : Field} {owner path : String} :
    (ofFile f).1.LooksUp g owner path → ∃ d ∈ (firstDeclarations f.shapes).1, d.name = owner ∧
      ∃ p, path = ofSteps (p ++ [Step.field g.name]) ∧ positionsOfField p g ⊆ positions d
  | .merged hs hm => by
      obtain ⟨d, hd, hname, hown⟩ := exists_owner hs hm
      exact ⟨d, hd, hname, [], rfl, positionsOfField_subset_of_own hown⟩
  | .nested h hg => by
      obtain ⟨d, hd, hname, p, rfl, hsub⟩ := Reads.exists_position h
      rw [positionsOfType] at hsub
      exact ⟨d, hd, hname, p, (ofSteps_field ..).symm, List.Subset.trans (positionsOfFields_subset hg) hsub⟩

/-- The fields inside of a type that is read stand below its position. -/
theorem Reads.exists_position {t : TypeExpr} {owner path : String} :
    (ofFile f).1.Reads t owner path → ∃ d ∈ (firstDeclarations f.shapes).1, d.name = owner ∧
      ∃ p, path = ofSteps p ∧ positionsOfType p t ⊆ positions d
  | .declared (f := g) h ht => by
      obtain ⟨d, hd, hname, p, rfl, hsub⟩ := LooksUp.exists_position h
      refine ⟨d, hd, hname, p ++ [Step.field g.name], rfl, List.Subset.trans ?_ hsub⟩
      rw [positionsOfField_eq, Option.mem_def.mp ht]
      exact List.subset_cons_self ..
  | .alias hs _ => ⟨_, (exists_resolved hs).1, rfl, [], rfl, List.Subset.refl _⟩
  | .item h => by
      obtain ⟨d, hd, hname, p, rfl, hsub⟩ := Reads.exists_position h
      rw [positionsOfType] at hsub
      exact ⟨d, hd, hname, p ++ [Step.item], (ofSteps_item ..).symm, hsub⟩
  | .argument hlist h => by
      obtain ⟨d, hd, hname, p, rfl, hsub⟩ := Reads.exists_position h
      rw [positionsOfType, if_pos hlist] at hsub
      exact ⟨d, hd, hname, p ++ [Step.item], (ofSteps_item ..).symm,
        List.Subset.trans (positionsOfTypes_subset List.mem_cons_self) hsub⟩
  | .kept hkept h => by
      obtain ⟨d, hd, hname, p, rfl, hsub⟩ := Reads.exists_position h
      rw [positionsOfType] at hsub
      have hmem := List.mem_of_mem_filter (hkept ▸ List.mem_singleton_self _)
      exact ⟨d, hd, hname, p, rfl, List.Subset.trans (positionsOfTypes_subset hmem) hsub⟩

end

end ShapeCatalog

/-! ## 2. Clear positions -/

namespace Annotation

open TypePath

/-- Every position in a shape is clear. -/
def HasClearPositions (d : ShapeDecl) : Prop := ∀ e ∈ positions d, Clear e.1

instance (d : ShapeDecl) : Decidable (HasClearPositions d) :=
  inferInstanceAs (Decidable (∀ e ∈ positions d, Clear e.1))

variable {d : ShapeDecl}

/-- A comment that is found under the path of a clear position is one of a field at that position. -/
theorem exists_field_of_ofPlace? (hclear : HasClearPositions d) {e : List Step × Field}
    (he : e ∈ positions d) {a : Annotation} (ha : ofPlace? d (ofSteps e.1) = some a) :
    ∃ f doc, (e.1, f) ∈ positions d ∧ doc ∈ f.doc? ∧ a = (ofDoc doc).1 := by
  obtain ⟨doc, hdoc, rfl⟩ := exists_of_ofPlace? ha
  rw [docsOfShape_eq_positions] at hdoc
  rcases List.mem_append.mp hdoc with hdoc | hdoc
  · -- the declaration's own comment is at the root, where no clear position of a field is
    obtain ⟨_, -, heq⟩ := List.mem_map.mp hdoc
    have hroot := (hclear e he).ofSteps_eq_empty (congrArg Prod.fst heq).symm
    obtain ⟨q, hstep⟩ := exists_init_of_mem_positionsOfType e he
    simp [hroot] at hstep
  · obtain ⟨⟨q, g⟩, hg, hdoc⟩ := List.mem_flatMap.mp hdoc
    obtain ⟨doc', hdoc', heq⟩ := List.mem_map.mp hdoc
    obtain ⟨hpath, rfl⟩ := Prod.mk.inj heq
    obtain rfl := ofSteps_inj (hclear _ hg) (hclear e he) hpath
    exact ⟨g, doc', hg, by simpa using hdoc', rfl⟩

end Annotation

namespace Analysis

open Annotation TypePath

/-- **Annotations tell fields apart.** In a shape of which all positions are clear, comments are entered under
the paths of positions, different positions have different paths, and what is found for a field of the shape is
what a comment of a field at the same position says. -/
theorem fields_told_apart (f : SourceFile) {d : ShapeDecl} (hd : d ∈ (firstDeclarations f.shapes).1)
    (hclear : HasClearPositions d) :
    docsOfShape d = d.doc?.toList.map ("", ·) ++ (positions d).flatMap docsAt ∧
    (∀ e ∈ positions d, ∀ e' ∈ positions d, e.1 ≠ e'.1 → ofSteps e.1 ≠ ofSteps e'.1) ∧
    ∀ g path, (ofFile f).catalog.LooksUp g d.name path →
      ∃ p, (p, g) ∈ positions d ∧ path = ofSteps p ∧
        ∀ a, (ofFile f).annotations.get? d.name path = some a →
          ∃ h doc, (p, h) ∈ positions d ∧ doc ∈ h.doc? ∧ a = (ofDoc doc).1 := by
  refine ⟨docsOfShape_eq_positions d, fun e he e' he' hne heq =>
    hne (ofSteps_inj (hclear e he) (hclear e' he') heq), fun g path hlooks => ?_⟩
  rw [catalog_ofFile] at hlooks
  obtain ⟨d', hd', hname, p, rfl, hsub⟩ := hlooks.exists_position
  obtain rfl := List.inj_on_of_nodup_map (nodup_names_firstDeclarations f.shapes) hd' hd hname
  have hmem : (p ++ [Step.field g.name], g) ∈ positions d' :=
    hsub (positionsOfField_eq p g ▸ List.mem_cons_self)
  refine ⟨_, hmem, rfl, fun a ha => ?_⟩
  have hfind : (firstDeclarations f.shapes).1.find? (·.name == d'.name) = some d' :=
    (Keyed.find?_eq_some_iff (nodup_names_firstDeclarations f.shapes)).mpr ⟨hd', rfl⟩
  rw [annotations_ofFile, get?_context, hfind] at ha
  exact exists_field_of_ofPlace? hclear hmem ha

end Analysis

/-! ## 3. A name with a dot -/

namespace Sample

/-- An object with a bounded field `y`, in the field `x`. -/
def holder : Field := field "x" (.object .origin [bounded "y"] [])

/-- A field beside it, without a comment. -/
def letterBeside (name : String) : ShapeDecl :=
  ⟨"Letter", .interface, [],
    .object .origin [field name (.keyword .origin "string"), holder] [], none, true, .origin, .origin⟩

def beside (name : String) : SourceFile := ⟨[.shape (letterBeside name)], []⟩

theorem positions_letterBeside (name : String) : Annotation.positions (letterBeside name) =
    [([Step.field name], field name (.keyword .origin "string")), ([Step.field "x"], holder),
      ([Step.field "x", Step.field "y"], bounded "y")] := rfl

theorem beside_told_apart :
    letterBeside "xy" ∈ (firstDeclarations (beside "xy").shapes).1 ∧
    Annotation.HasClearPositions (letterBeside "xy") ∧
    TypePath.ofSteps [Step.field "xy"] ≠ TypePath.ofSteps [Step.field "x", Step.field "y"] := by
  have hd : letterBeside "xy" ∈ (firstDeclarations (beside "xy").shapes).1 := List.mem_cons_self
  have hclear : Annotation.HasClearPositions (letterBeside "xy") := by decide
  refine ⟨hd, hclear, (Analysis.fields_told_apart (beside "xy") hd hclear).2.1
    ([Step.field "xy"], field "xy" (.keyword .origin "string")) ?_
    ([Step.field "x", Step.field "y"], bounded "y") ?_ (by decide)⟩ <;>
    simp [positions_letterBeside]

/-- A field without a comment is bounded by the comment of a field inside of another one. -/
theorem dotted_disturbed :
    ([Step.field "x.y"], field "x.y" (.keyword .origin "string")) ∈
      Annotation.positions (letterBeside "x.y") ∧
    ([Step.field "x", Step.field "y"], bounded "y") ∈ Annotation.positions (letterBeside "x.y") ∧
    [Step.field "x.y"] ≠ [Step.field "x", Step.field "y"] ∧
    TypePath.ofSteps [Step.field "x.y"] = TypePath.ofSteps [Step.field "x", Step.field "y"] ∧
    (field "x.y" (.keyword .origin "string")).doc? = none ∧
    ((Analysis.ofFile (beside "x.y")).annotations.get? "Letter"
      (TypePath.ofSteps [Step.field "x.y"])).isSome = true := by
  refine ⟨?_, ?_, by decide, rfl, rfl, ?_⟩
  · simp [positions_letterBeside]
  · simp [positions_letterBeside]
  · cbv

end Sample

end ServiceGraph
