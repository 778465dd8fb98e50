import ServiceGraph.Proofs.Shape.Catalog

/-!
Where the fields of a shape come from.

A field of a shape is declared by the shape itself or by one that it leads to, and carries that one's
name. So what holds of the own fields of a set of shapes that lead only to the set holds of all fields that
they have (`Heritage.forall_fields_resolveAll`). The walk keeps this up whatever it remembers, also for
shapes that lead back to themselves.
-/

namespace ServiceGraph

open Syntax

/-! ## 1. Merging -/

theorem mem_mergeField {f g : MergedField} :
    ∀ {fields : List MergedField}, f ∈ mergeField fields g → f ∈ fields ∨ f = g
  | [], h => .inr (List.mem_singleton.mp h)
  | first :: rest, h => by
      rw [mergeField] at h
      split at h
      · rcases List.mem_cons.mp h with rfl | h
        · exact .inr rfl
        · exact .inl (List.mem_cons_of_mem _ h)
      · rcases List.mem_cons.mp h with rfl | h
        · exact .inl List.mem_cons_self
        · exact (mem_mergeField h).imp_left (List.mem_cons_of_mem _)

theorem mem_mergeFields {f : MergedField} :
    ∀ {incoming fields : List MergedField}, f ∈ mergeFields fields incoming →
      f ∈ fields ∨ f ∈ incoming
  | [], _, h => .inl h
  | g :: rest, fields, h => by
      have hrest : f ∈ mergeFields (mergeField fields g) rest := h
      rcases mem_mergeFields hrest with h | h
      · rcases mem_mergeField h with h | rfl
        · exact .inl h
        · exact .inr List.mem_cons_self
      · exact .inr (List.mem_cons_of_mem _ h)

/-- A field of a new name is put behind the others. -/
theorem mergeField_of_new {g : MergedField} : ∀ {fields : List MergedField},
    g.name ∉ fields.map (·.name) → mergeField fields g = fields ++ [g]
  | [], _ => rfl
  | first :: rest, hnew => by
      rw [List.map_cons, List.mem_cons, not_or] at hnew
      rw [mergeField, if_neg (by simpa using Ne.symm hnew.1), mergeField_of_new hnew.2, List.cons_append]

/-- Any other field takes the place of the one of its name. -/
theorem names_mergeField_of_mem {g : MergedField} : ∀ {fields : List MergedField},
    g.name ∈ fields.map (·.name) → (mergeField fields g).map (·.name) = fields.map (·.name)
  | first :: rest, hmem => by
      rw [mergeField]
      by_cases hname : first.name = g.name
      · rw [if_pos (by simpa using hname), List.map_cons, List.map_cons, hname]
      · have hrest := (List.mem_cons.mp hmem).resolve_left (Ne.symm hname)
        rw [if_neg (by simpa using hname), List.map_cons, List.map_cons, names_mergeField_of_mem hrest]

/-- Merged fields have different names. -/
theorem nodup_mergeFields : ∀ {incoming fields : List MergedField}, (fields.map (·.name)).Nodup →
    ((mergeFields fields incoming).map (·.name)).Nodup
  | [], _, hn => hn
  | g :: rest, fields, hn => by
      have hfirst : ((mergeField fields g).map (·.name)).Nodup := by
        by_cases hmem : g.name ∈ fields.map (·.name)
        · rwa [names_mergeField_of_mem hmem]
        · rw [mergeField_of_new hmem, List.map_append]
          exact List.nodup_append_comm.mp (List.nodup_cons.mpr ⟨hmem, hn⟩)
      change ((mergeFields (mergeField fields g) rest).map (·.name)).Nodup
      exact nodup_mergeFields hfirst

/-- Fields with different names are put one behind the other. -/
theorem mergeFields_of_nodup : ∀ {incoming fields : List MergedField},
    ((fields ++ incoming).map (·.name)).Nodup → mergeFields fields incoming = fields ++ incoming
  | [], fields, _ => (List.append_nil fields).symm
  | g :: rest, fields, hn => by
      have hnew : g.name ∉ fields.map (·.name) := by
        rw [List.map_append, List.map_cons] at hn
        exact fun hmem => (List.nodup_append.mp hn).2.2 _ hmem _ List.mem_cons_self rfl
      have hmerge : mergeFields fields (g :: rest) = mergeFields (fields ++ [g]) rest := by
        rw [← mergeField_of_new hnew]
        rfl
      rw [hmerge, mergeFields_of_nodup (by simpa using hn), List.append_assoc]
      rfl

namespace Resolved

theorem fields_addMarker (r : Resolved) (kind : ShapeKind) : (r.addMarker kind).fields = r.fields := by
  unfold addMarker
  split <;> rfl

theorem mem_fields_inherit {r base : Resolved} {f : MergedField} (h : f ∈ (r.inherit base).fields) :
    f ∈ r.fields ∨ f ∈ base.fields :=
  mem_mergeFields h

theorem mem_fields_addOwn {r : Resolved} {s : ShapeStructure} {f : MergedField}
    (h : f ∈ (r.addOwn s).fields) : f ∈ r.fields ∨ ∃ own ∈ s.fields, f = ⟨own, s.name⟩ := by
  refine (mem_mergeFields h).imp_right fun h => ?_
  obtain ⟨own, hown, rfl⟩ := List.mem_map.mp h
  exact ⟨own, hown, rfl⟩

end Resolved

/-! ## 2. The walk -/

namespace Heritage

variable {known : String → Bool} {P : MergedField → Prop} {ok : Span → Prop}
  {all : List ShapeStructure}

/-- Structures in which the shapes of a set lead only to the set and have only own fields of which a
condition holds. -/
structure Grounded (known : String → Bool) (P : MergedField → Prop) (ok : Span → Prop)
    (all : List ShapeStructure) : Prop where
  names : ∀ s ∈ all, known s.name = true → ∀ base ∈ s.bases, ∀ name ∈ base.referenceName?,
    known name = true
  fields : ∀ s ∈ all, known s.name = true → ∀ f ∈ s.fields, P ⟨f, s.name⟩
  spans : ∀ s ∈ all, ∀ base ∈ s.bases, ok base.span

/-- What is remembered of the shapes of a set has only fields of which the condition holds. -/
structure Kept (known : String → Bool) (P : MergedField → Prop) (ok : Span → Prop)
    (st : HeritageState) : Prop where
  fields : ∀ e ∈ st.resolved, known e.1 = true → ∀ f ∈ e.2.fields, P f
  problems : ∀ d ∈ st.problems, ok d.span

theorem structureOf?_eq_some {name : String} {s : ShapeStructure}
    (h : structureOf? all name = some s) : s ∈ all ∧ s.name = name :=
  ⟨List.mem_of_find?_eq_some h, by simpa using List.find?_some h⟩

theorem kept_start : Kept known P ok start := ⟨by simp [start], by simp [start]⟩

theorem Kept.addProblem {st : HeritageState} (h : Kept known P ok st) (code : Code) {span : Span}
    (hspan : ok span) (message : String) : Kept known P ok (addProblem st code span message) := by
  refine ⟨h.fields, fun d hd => ?_⟩
  rcases List.mem_append.mp hd with hd | hd
  · exact h.problems d hd
  · exact List.mem_singleton.mp hd ▸ hspan

theorem Kept.lookup {st : HeritageState} (h : Kept known P ok st) {name : String} {r : Resolved}
    (hr : st.resolved.lookup name = some r) (hname : known name = true) : ∀ f ∈ r.fields, P f := by
  obtain ⟨front, back, heq, -⟩ := List.lookup_eq_some_iff.mp hr
  exact h.fields (name, r) (by simp [heq]) hname

mutual

/-- A shape of the set gets only such fields, and nothing else is remembered. -/
theorem resolve_kept (hall : Grounded known P ok all) (free : List String) (s : ShapeStructure)
    (st : HeritageState) (hs : s ∈ all) (hst : Kept known P ok st) :
    Kept known P ok (resolve all free s st).2 ∧
      (known s.name = true → ∀ f ∈ (resolve all free s st).1.fields, P f) := by
  rw [resolve]
  cases hlookup : st.resolved.lookup s.name with
  | some r => exact ⟨hst, hst.lookup hlookup⟩
  | none =>
    obtain ⟨hlater, hfields⟩ :=
      resolveBases_kept hall free s s.bases .empty st hs (fun _ h => h) hst
    have hown : known s.name = true →
        ∀ f ∈ ((resolveBases all free s s.bases .empty st).1.addOwn s).fields, P f := by
      intro hname f hf
      rcases Resolved.mem_fields_addOwn hf with hf | ⟨own, hown, rfl⟩
      · exact hfields (hall.names s hs hname) (by simp [Resolved.empty]) f hf
      · exact hall.fields s hs hname own hown
    refine ⟨⟨fun e he hname => ?_, hlater.problems⟩, hown⟩
    rcases List.mem_append.mp he with he | he
    · exact hlater.fields e he hname
    · obtain rfl := List.mem_singleton.mp he
      exact hown hname
termination_by (free.length, s.bases.length + 1)

theorem resolveBases_kept (hall : Grounded known P ok all) (free : List String)
    (s : ShapeStructure) (bases : List TypeExpr) (r : Resolved) (st : HeritageState) (hs : s ∈ all)
    (hbases : bases ⊆ s.bases) (hst : Kept known P ok st) :
    Kept known P ok (resolveBases all free s bases r st).2 ∧
      ((∀ base ∈ bases, ∀ name ∈ base.referenceName?, known name = true) → (∀ f ∈ r.fields, P f) →
        ∀ f ∈ (resolveBases all free s bases r st).1.fields, P f) := by
  match bases with
  | [] =>
    rw [resolveBases]
    exact ⟨hst, fun _ hr => hr⟩
  | base :: rest =>
    have hspan := hall.spans s hs base (hbases List.mem_cons_self)
    have hrest : rest ⊆ s.bases := fun b hb => hbases (List.mem_cons_of_mem _ hb)
    have htail : (∀ b ∈ base :: rest, ∀ name ∈ b.referenceName?, known name = true) →
        ∀ b ∈ rest, ∀ name ∈ b.referenceName?, known name = true :=
      fun h b hb => h b (List.mem_cons_of_mem _ hb)
    -- the first base adds no fields, unless it is declared
    have hskip : ∀ (r' : Resolved) (st' : HeritageState), r'.fields = r.fields →
        Kept known P ok st' →
        Kept known P ok (resolveBases all free s rest r' st').2 ∧
          ((∀ b ∈ base :: rest, ∀ name ∈ b.referenceName?, known name = true) →
            (∀ f ∈ r.fields, P f) →
            ∀ f ∈ (resolveBases all free s rest r' st').1.fields, P f) := by
      intro r' st' heq hst'
      obtain ⟨hlater, hfields⟩ := resolveBases_kept hall free s rest r' st' hs hrest hst'
      exact ⟨hlater, fun hnames hr => hfields (htail hnames) (heq ▸ hr)⟩
    cases hname : base.referenceName? with
    | none =>
      rw [resolveBases_unnamed hname]
      exact hskip r _ rfl (hst.addProblem _ hspan _)
    | some name =>
      cases hdecl : structureOf? all name with
      | some b =>
        obtain ⟨hb, rfl⟩ := structureOf?_eq_some hdecl
        by_cases hmem : b.name ∈ free
        · have hlength : (free.erase b.name).length < free.length := by
            rw [List.length_erase_of_mem hmem]
            have := List.length_pos_of_mem hmem
            omega
          rw [resolveBases_declared hname hdecl hmem]
          obtain ⟨hbase, hbaseFields⟩ := resolve_kept hall (free.erase b.name) b
            { st with usedAsBase := b.name :: st.usedAsBase } hb ⟨hst.fields, hst.problems⟩
          obtain ⟨hlater, hfields⟩ := resolveBases_kept hall free s rest _ _ hs hrest hbase
          refine ⟨hlater, fun hnames hr => hfields (htail hnames) fun f hf => ?_⟩
          rcases Resolved.mem_fields_inherit hf with hf | hf
          · exact hr f hf
          · exact hbaseFields (hnames base List.mem_cons_self _ hname) f hf
        · rw [resolveBases_cyclic hname hdecl hmem]
          exact hskip r _ rfl (hst.addProblem _ hspan _)
      | none =>
        cases hkind : ShapeKind.ofMarker? name with
        | some kind =>
          rw [resolveBases_marker hname hdecl hkind]
          exact hskip _ st (r.fields_addMarker kind) hst
        | none =>
          rw [resolveBases_unknown hname hdecl hkind]
          exact hskip r _ rfl (hst.addProblem _ hspan _)
termination_by (free.length, bases.length)

end

theorem foldl_kept (hall : Grounded known P ok all) (names : List String) :
    ∀ (rest : List ShapeStructure) (state : List (ShapeStructure × Resolved) × HeritageState),
      rest ⊆ all → Kept known P ok state.2 →
      (∀ e ∈ state.1, known e.1.name = true → ∀ f ∈ e.2.fields, P f) →
      let last := rest.foldl (fun state s =>
        let (r, st) := resolve all (names.erase s.name) s state.2
        (state.1 ++ [(s, r)], st)) state
      Kept known P ok last.2 ∧ ∀ e ∈ last.1, known e.1.name = true → ∀ f ∈ e.2.fields, P f
  | [], _, _, hst, hdone => ⟨hst, hdone⟩
  | s :: rest, state, hsub, hst, hdone => by
      obtain ⟨hlater, hfields⟩ :=
        resolve_kept hall (names.erase s.name) s state.2 (hsub List.mem_cons_self) hst
      refine foldl_kept hall names rest _ (fun _ h => hsub (List.mem_cons_of_mem _ h)) hlater
        fun e he => ?_
      rcases List.mem_append.mp he with he | he
      · exact hdone e he
      · obtain rfl := List.mem_singleton.mp he
        exact hfields

theorem map_fst_foldl_resolve (names : List String) :
    ∀ (rest : List ShapeStructure) (state : List (ShapeStructure × Resolved) × HeritageState),
      (rest.foldl (fun state s =>
        let (r, st) := resolve all (names.erase s.name) s state.2
        (state.1 ++ [(s, r)], st)) state).1.map (·.1) = state.1.map (·.1) ++ rest
  | [], _ => by simp
  | s :: rest, state => by
      rw [List.foldl_cons, map_fst_foldl_resolve names rest]
      simp

/-- Every shape is resolved. -/
theorem map_fst_resolveAll (all : List ShapeStructure) : (resolveAll all).1.map (·.1) = all :=
  map_fst_foldl_resolve _ all _

/-- **A condition on the own fields of a closed set of shapes holds of all fields that they have.** -/
theorem forall_fields_resolveAll (hall : Grounded known P ok all) {e : ShapeStructure × Resolved}
    (he : e ∈ (resolveAll all).1) (hname : known e.1.name = true) : ∀ f ∈ e.2.fields, P f :=
  (foldl_kept hall _ all _ (fun _ h => h) kept_start (by simp)).2 e he hname

/-- What is wrong with the heritage of a shape is wrong at one of its bases. -/
theorem forall_problems_resolveAll (hall : Grounded known P ok all) :
    ∀ d ∈ (resolveAll all).2.problems, ok d.span :=
  (foldl_kept hall _ all _ (fun _ h => h) kept_start (by simp)).1.problems

end Heritage

/-! ## 3. Catalogs -/

/-- What the declarations of a file that count declare themselves. -/
def Syntax.SourceFile.firstStructures (f : SourceFile) : List ShapeStructure :=
  (firstDeclarations f.shapes).1.map fun d => (ShapeStructure.ofDecl d).1

theorem nodup_names_firstStructures (f : SourceFile) : (f.firstStructures.map (·.name)).Nodup := by
  rw [SourceFile.firstStructures, List.map_map]
  simpa [Function.comp_def] using nodup_names_firstDeclarations f.shapes

/-- Every declaration that counts has an entry. -/
theorem ShapeCatalog.decls_ofFile (f : SourceFile) :
    (ofFile f).1.shapes.map (·.decl) = (firstDeclarations f.shapes).1 := by
  have hstructures : ((firstDeclarations f.shapes).1.map ShapeStructure.ofDecl).map (·.1) =
      f.firstStructures := List.map_map
  have hresolved := congrArg (List.map (·.decl)) (Heritage.map_fst_resolveAll f.firstStructures)
  simp only [ofFile, hstructures, List.map_map, Function.comp_def] at hresolved ⊢
  rw [hresolved, SourceFile.firstStructures, List.map_map]
  simp [Function.comp_def]

/-- An entry belongs to a declaration, whose resolved fields it has. -/
theorem ShapeCatalog.exists_resolved {f : SourceFile} {s : ShapeInfo} (hs : s ∈ (ofFile f).1.shapes) :
    s.decl ∈ (firstDeclarations f.shapes).1 ∧
      s.skipped = (ShapeStructure.ofDecl s.decl).1.skipped ∧
      s.isObjectLike = (ShapeStructure.ofDecl s.decl).1.isObjectLike ∧
      ∃ r : Resolved, s.fields = r.fields ∧
        ((ShapeStructure.ofDecl s.decl).1, r) ∈ (Heritage.resolveAll f.firstStructures).1 := by
  have hstructures : ((firstDeclarations f.shapes).1.map ShapeStructure.ofDecl).map (·.1) =
      f.firstStructures := List.map_map
  simp only [ofFile, hstructures, List.map_map, List.mem_map] at hs
  obtain ⟨⟨t, r⟩, he, rfl⟩ := hs
  have ht : t ∈ f.firstStructures := by
    rw [← Heritage.map_fst_resolveAll f.firstStructures]
    exact List.mem_map_of_mem he
  obtain ⟨d, hd, rfl⟩ := List.mem_map.mp ht
  refine ⟨?_, ?_, ?_, r, rfl, ?_⟩ <;>
    simp only [Function.comp_apply, ShapeStructure.decl_ofDecl]
  · exact hd
  · exact he

end ServiceGraph
