import ServiceGraph.Proofs.Shape.Fields
import ServiceGraph.Proofs.Syntax.Places

/-!
Where the entries of a catalog stand, and where their problems do: at places that are written into the
file (`ShapeCatalog.sited_of_mem_shapes`, `ShapeCatalog.ok_of_mem_problems`).
-/

namespace ServiceGraph

open Syntax

variable {ok : Span → Prop}

/-! ## 1. Structures -/

namespace ShapeStructure

/-- What is wrong with an intersection is wrong at one of its members. -/
theorem ok_of_mem_addMembers : ∀ {members : List TypeExpr} {s : ShapeStructure},
    (∀ m ∈ members, ok m.span) → ∀ d ∈ (s.addMembers members).2, ok d.span
  | [], _, _, d, hd => by simp [addMembers] at hd
  | member :: rest, s, h, d, hd => by
      rcases List.mem_append.mp hd with hd | hd
      · have hspan : d.span = member.span := by
          cases member <;> simp at hd <;> exact hd ▸ rfl
        exact hspan ▸ h member List.mem_cons_self
      · exact ok_of_mem_addMembers (fun m hm => h m (List.mem_cons_of_mem _ hm)) d hd

variable {d : ShapeDecl}

theorem sited_ofDecl (h : d.Sited ok) : (ofDecl d).1.Sited ok where
  decl := by
    rw [decl_ofDecl]
    exact h
  bases base hbase := by
    have hsited : base.Sited ok := everywhere_of_mem_bases h.type h.heritage hbase
    exact hsited.span
  fields f hf := by
    obtain ⟨span, fields, skipped, hobject, hf⟩ := exists_object_of_mem_fields h.type hf
    exact TypeExpr.Sited.field hobject hf
  skipped m hm := by
    obtain ⟨span, fields, skipped, hobject, hm⟩ := exists_object_of_mem_skipped h.type hm
    exact TypeExpr.Sited.skipped hobject hm

theorem ok_of_mem_ofDecl (h : d.Sited ok) : ∀ p ∈ (ofDecl d).2, ok p.span := by
  unfold ofDecl
  dsimp only
  split
  · simp
  · rename_i span members htype
    split
    · simp
    · refine ok_of_mem_addMembers fun m hm => ?_
      have hmember : m.Sited ok := by
        have htypeSited := h.type
        rw [htype] at htypeSited
        exact htypeSited.intersectionMember hm
      exact hmember.span
  · split <;> simp
  · simp

end ShapeStructure

/-! ## 2. Catalogs -/

/-- The declarations that count are declarations of the file, and what is wrong with the others is wrong
at their names. -/
theorem firstDeclarations_sited (ok : Span → Prop) {decls : List ShapeDecl} (h : ∀ d ∈ decls, ok d.nameSpan) :
    (firstDeclarations decls).1 ⊆ decls ∧ ∀ p ∈ (firstDeclarations decls).2, ok p.span := by
  suffices hall : ∀ (rest done : List ShapeDecl) (problems : List Diagnostic), rest ⊆ decls →
      done ⊆ decls → (∀ p ∈ problems, ok p.span) →
      let last := rest.foldl (fun (state : List ShapeDecl × List Diagnostic) d =>
        if state.1.any (·.name == d.name) then
          (state.1, state.2 ++
            [⟨.duplicateName, d.nameSpan, s!"shape `{d.name}` is declared more than once"⟩])
        else (state.1 ++ [d], state.2)) (done, problems)
      last.1 ⊆ decls ∧ ∀ p ∈ last.2, ok p.span from
    hall decls [] [] (fun _ h => h) (by simp) (by simp)
  intro rest
  induction rest with
  | nil => exact fun done problems _ hdone hproblems => ⟨hdone, hproblems⟩
  | cons d rest ih =>
    intro done problems hrest hdone hproblems
    have hd := hrest List.mem_cons_self
    have hrest : rest ⊆ decls := fun _ he => hrest (List.mem_cons_of_mem _ he)
    rw [List.foldl_cons]
    dsimp only
    split
    · refine ih done _ hrest hdone fun p hp => ?_
      rcases List.mem_append.mp hp with hp | hp
      · exact hproblems p hp
      · exact List.mem_singleton.mp hp ▸ h d hd
    · refine ih _ problems hrest (fun e he => ?_) hproblems
      rcases List.mem_append.mp he with he | he
      · exact hdone he
      · exact List.mem_singleton.mp he ▸ hd

theorem firstDeclarations_subset (decls : List ShapeDecl) : (firstDeclarations decls).1 ⊆ decls :=
  (firstDeclarations_sited (fun _ => True) fun _ _ => trivial).1

namespace ShapeCatalog

theorem ok_of_mem_classify {s : ShapeStructure} {r : Resolved} (h : ok s.decl.nameSpan) :
    ∀ d ∈ (classify s r).2, ok d.span := by
  unfold classify
  split
  · simp
  · simp
  · simpa using h

variable {f : SourceFile}

section

variable (h : ∀ s ∈ f.places, ok s)

include h

theorem sited_of_mem_firstDeclarations : ∀ d ∈ (firstDeclarations f.shapes).1, d.Sited ok := by
  have hshapes : ∀ d ∈ f.shapes, d.Sited ok := fun d hd => SourceFile.sited_of_mem_shapes h hd
  exact fun d hd => hshapes d ((firstDeclarations_sited ok fun e he => (hshapes e he).nameSpan).1 hd)

theorem sited_of_mem_firstStructures : ∀ s ∈ f.firstStructures, s.Sited ok := by
  intro s hs
  obtain ⟨d, hd, rfl⟩ := List.mem_map.mp hs
  exact ShapeStructure.sited_ofDecl (sited_of_mem_firstDeclarations h d hd)

theorem grounded_of_sited : Heritage.Grounded (fun _ => true) (fun g => g.field.Sited ok) ok
    f.firstStructures where
  names _ _ _ _ _ _ _ := rfl
  fields s hs _ := (sited_of_mem_firstStructures h s hs).fields
  spans s hs := (sited_of_mem_firstStructures h s hs).bases

/-- **Entries stand where they are written.** -/
theorem sited_of_mem_shapes : ∀ s ∈ (ofFile f).1.shapes, s.Sited ok := by
  intro s hs
  obtain ⟨hdecl, hskipped, -, r, hfields, hresolved⟩ := exists_resolved hs
  have hsited := sited_of_mem_firstDeclarations h s.decl hdecl
  refine ⟨hsited.nameSpan, hsited.type, ?_, ?_⟩
  · rw [hfields]
    exact Heritage.forall_fields_resolveAll (grounded_of_sited h) hresolved rfl
  · rw [hskipped]
    exact (ShapeStructure.sited_ofDecl hsited).skipped

/-- **So do the problems that are found on the way.** -/
theorem ok_of_mem_problems : ∀ d ∈ (ofFile f).2, ok d.span := by
  intro d hd
  have hstructures : ((firstDeclarations f.shapes).1.map ShapeStructure.ofDecl).map (·.1) =
      f.firstStructures := List.map_map
  simp only [ofFile, hstructures, List.mem_append] at hd
  rcases hd with ((hd | hd) | hd) | hd
  · have hnames : ∀ d ∈ f.shapes, ok d.nameSpan := fun d hd =>
      (SourceFile.sited_of_mem_shapes h hd).nameSpan
    exact (firstDeclarations_sited ok hnames).2 d hd
  · obtain ⟨p, hp, hd⟩ := List.mem_flatMap.mp hd
    obtain ⟨decl, hdecl, rfl⟩ := List.mem_map.mp hp
    exact ShapeStructure.ok_of_mem_ofDecl (sited_of_mem_firstDeclarations h decl hdecl) d hd
  · exact Heritage.forall_problems_resolveAll (grounded_of_sited h) d hd
  · obtain ⟨p, hp, hd⟩ := List.mem_flatMap.mp hd
    obtain ⟨e, he, rfl⟩ := List.mem_map.mp hp
    have hmem : e.1 ∈ f.firstStructures := by
      rw [← Heritage.map_fst_resolveAll f.firstStructures]
      exact List.mem_map_of_mem he
    exact ok_of_mem_classify (sited_of_mem_firstStructures h e.1 hmem).decl.nameSpan d hd

end

/-- Every entry belongs to a shape of the file. -/
theorem decl_mem_shapes {s : ShapeInfo} (hs : s ∈ (ofFile f).1.shapes) : s.decl ∈ f.shapes :=
  firstDeclarations_subset f.shapes (exists_resolved hs).1

end ShapeCatalog

end ServiceGraph
