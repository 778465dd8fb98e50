import ServiceGraph.Proofs.Annotation.Lookup
import ServiceGraph.Proofs.Shape.Merging

/-!
Bases that are written as an alias, or as what the alias stands for.

An alias of a shape whose name is that of a marker extends the shape, and has nothing of its own. So it has what
the shape has (`Heritage.Resolves.of_alias`), and a base may be written either way: every shape has the same
markers and the same fields, so it is of the same kind (`ShapeCatalog.rebased_shapes`).

An alias of any other shape extends nothing. As a base it brings nothing (`ShapeCatalog.nothing_of_plain`).
-/

namespace ServiceGraph

open Syntax

/-! ## 1. Declarations -/

namespace Syntax

variable (q p : String)

/-- A base that is written `q` is written `p`, or it is left. -/
def TypeExpr.Rebased (b b' : TypeExpr) : Prop :=
  b' = b ∨ b.referenceName? = some q ∧ b'.referenceName? = some p

/-- The bases in a type are written otherwise: the members of an intersection, or the marker that an alias stands
for. Neither way of writing a member holds a comment that the other one does not hold. -/
inductive TypeExpr.RebasedIn (form : ShapeForm) : TypeExpr → TypeExpr → Prop
  | same (t : TypeExpr) : RebasedIn form t t
  | members {span : Span} {members members' : List TypeExpr} (hform : form = .alias)
    (h : List.Forall₂ (fun m m' => m.Rebased q p m' ∧ Annotation.docsOfType "" m' = Annotation.docsOfType "" m)
      members members') : RebasedIn form (.intersection span members) (.intersection span members')
  | marked {span span' : Span} {name name' : String} (hform : form = .alias)
    (hname : TypeExpr.lastSegment name = q) (hmarker : (ShapeKind.ofMarker? q).isSome = true)
    (hname' : TypeExpr.lastSegment name' = p) :
    RebasedIn form (.reference span name []) (.reference span' name' [])

/-- A declaration in which some bases are written `p` instead of `q`. -/
structure ShapeDecl.Rebased (d d' : ShapeDecl) : Prop where
  rest : d' = { d with heritage := d'.heritage, type := d'.type }
  heritage : List.Forall₂ (TypeExpr.Rebased q p) d.heritage d'.heritage
  type : TypeExpr.RebasedIn q p d.form d.type d'.type

/-- A file in which some bases are written `p` instead of `q`. -/
structure SourceFile.Rebased (f f' : SourceFile) : Prop where
  shapes : List.Forall₂ (ShapeDecl.Rebased q p) f.shapes f'.shapes
  bindings : f'.bindings = f.bindings
  defaultExport? : f'.defaultExport? = f.defaultExport?

/-- In a file `q` is a plain alias of the declared shape `p`. -/
structure SourceFile.Aliases (f : SourceFile) : Prop where
  declaration : ∃ d ∈ (firstDeclarations f.shapes).1, d.name = q ∧ d.form = .alias ∧ d.heritage = [] ∧
    ∃ span name, d.type = .reference span name [] ∧ TypeExpr.lastSegment name = p
  declared : p ∈ f.shapes.map (·.name)

end Syntax

variable {q p : String}

namespace Syntax.ShapeDecl.Rebased

variable {d d' : ShapeDecl}

theorem name (h : d.Rebased q p d') : d'.name = d.name := by rw [h.rest]

theorem form (h : d.Rebased q p d') : d'.form = d.form := by rw [h.rest]

theorem doc? (h : d.Rebased q p d') : d'.doc? = d.doc? := by rw [h.rest]

theorem nameSpan (h : d.Rebased q p d') : d'.nameSpan = d.nameSpan := by rw [h.rest]

/-- The comments of a shape stay. -/
theorem docsOfShape (h : d.Rebased q p d') : Annotation.docsOfShape d' = Annotation.docsOfShape d := by
  have htype : Annotation.docsOfType "" d'.type = Annotation.docsOfType "" d.type := by
    have hrebased := h.type
    generalize d.type = t at hrebased
    generalize d'.type = t' at hrebased
    cases hrebased with
    | same => rfl
    | members _ hmembers =>
      rw [ Annotation.docsOfType, Annotation.docsOfType]
      induction hmembers with
      | nil => rfl
      | cons hm _ ih => rw [ Annotation.docsOfTypes, Annotation.docsOfTypes, hm.2, ih]
    | marked => simp [ Annotation.docsOfType, Annotation.docsOfTypes]
  rw [ Annotation.docsOfShape, Annotation.docsOfShape, htype, h.doc?]

end Syntax.ShapeDecl.Rebased

/-- One more declaration counts if its name is new. -/
theorem firstDeclarations_concat (decls : List ShapeDecl) (d : ShapeDecl) :
    (firstDeclarations (decls ++ [d])).1 =
      if (firstDeclarations decls).1.any (·.name == d.name) then (firstDeclarations decls).1
      else (firstDeclarations decls).1 ++ [d] := by
  unfold firstDeclarations
  dsimp only
  rw [List.foldl_append, List.foldl_cons, List.foldl_nil]
  split <;> rfl

/-- A name that is declared is the name of a declaration that counts. -/
theorem mem_names_firstDeclarations {name : String} {decls : List ShapeDecl}
    (h : name ∈ decls.map (·.name)) : name ∈ (firstDeclarations decls).1.map (·.name) := by
  induction decls using List.reverseRecOn with
  | nil => cases h
  | append_singleton decls d ih =>
    rw [List.map_append, List.mem_append] at h
    rw [firstDeclarations_concat]
    split
    · rename_i htaken
      refine h.elim ih fun hname => ?_
      obtain ⟨e, he, heq⟩ := List.any_eq_true.mp htaken
      rw [List.mem_singleton.mp hname]
      exact List.mem_map.mpr ⟨e, he, by simpa using heq⟩
    · rw [List.map_append, List.mem_append]
      exact h.imp_left ih

theorem exists_of_forall₂_concat {α β : Type*} {R : α → β → Prop} {xs : List α} {x : α} {ys : List β}
    (h : List.Forall₂ R (xs ++ [x]) ys) : ∃ init y, ys = init ++ [y] ∧ List.Forall₂ R xs init ∧ R x y := by
  induction xs generalizing ys with
  | nil =>
    obtain ⟨y, _, hy, hnil, rfl⟩ := List.forall₂_cons_left_iff.mp h
    obtain rfl := List.forall₂_nil_left_iff.mp hnil
    exact ⟨[], y, rfl, .nil, hy⟩
  | cons a xs ih =>
    obtain ⟨b, rest, hb, hrest, rfl⟩ := List.forall₂_cons_left_iff.mp h
    obtain ⟨init, y, rfl, hinit, hy⟩ := ih hrest
    exact ⟨b :: init, y, rfl, .cons hb hinit, hy⟩

/-- Corresponding declarations count. -/
theorem forall₂_firstDeclarations {R : ShapeDecl → ShapeDecl → Prop} (hname : ∀ d d', R d d' → d'.name = d.name)
    {decls decls' : List ShapeDecl} (h : List.Forall₂ R decls decls') :
    List.Forall₂ R (firstDeclarations decls).1 (firstDeclarations decls').1 := by
  induction decls using List.reverseRecOn generalizing decls' with
  | nil =>
    cases h
    exact .nil
  | append_singleton decls d ih =>
    obtain ⟨init, d', rfl, hinit, hd⟩ := exists_of_forall₂_concat h
    have hcounting := ih hinit
    have hany : (firstDeclarations init).1.any (·.name == d'.name) =
        (firstDeclarations decls).1.any (·.name == d.name) := by
      have hnames := congrArg (List.any · (· == d.name)) (map_eq_of_forall₂ hname hcounting)
      rw [hname _ _ hd]
      simpa [List.any_map, Function.comp_def] using hnames
    rw [firstDeclarations_concat, firstDeclarations_concat, hany]
    split
    · exact hcounting
    · exact List.rel_append hcounting (.cons hd .nil)

/-! ## 2. Structures -/

/-- A structure in which some bases are written `p` instead of `q`. -/
structure ShapeStructure.Rebased (q p : String) (s s' : ShapeStructure) : Prop where
  decl : s.decl.Rebased q p s'.decl
  bases : List.Forall₂ (TypeExpr.Rebased q p) s.bases s'.bases
  fields : s'.fields = s.fields
  skipped : s'.skipped = s.skipped
  isObjectLike : s'.isObjectLike = s.isObjectLike

namespace ShapeStructure

variable {d d' : ShapeDecl} {s s' : ShapeStructure}

theorem Rebased.name (h : s.Rebased q p s') : s'.name = s.name := h.decl.name

theorem rebased_refl (bases : List TypeExpr) : List.Forall₂ (TypeExpr.Rebased q p) bases bases :=
  List.forall₂_same.mpr fun _ _ => .inl rfl

/-- A member that is written otherwise is a base that is written otherwise. -/
theorem Rebased.addMember (h : s.Rebased q p s') {m m' : TypeExpr} (hm : m.Rebased q p m') :
    (s.addMember m).1.Rebased q p (s'.addMember m').1 := by
  rcases hm with rfl | ⟨hq, hp⟩
  · cases m' with
    | reference => exact { h with bases := List.rel_append h.bases (rebased_refl _) }
    | object =>
      exact { h with
        fields := congrArg (· ++ _) h.fields
        skipped := congrArg (· ++ _) h.skipped }
    | _ => exact h
  · cases m with
    | reference =>
      cases m' with
      | reference => exact { h with bases := List.rel_append h.bases (.cons (.inr ⟨hq, hp⟩) .nil) }
      | _ => cases hp
    | _ => cases hq

theorem Rebased.addMembers {members members' : List TypeExpr}
    (hmembers : List.Forall₂ (TypeExpr.Rebased q p) members members') (h : s.Rebased q p s') :
    (s.addMembers members).1.Rebased q p (s'.addMembers members').1 := by
  induction hmembers generalizing s s' with
  | nil => exact h
  | cons hm _ ih => exact ih (h.addMember hm)

/-- A declaration has the structure that it had, but for its bases. -/
theorem rebased_ofDecl (hp : (ShapeKind.ofMarker? p).isSome = true) (h : d.Rebased q p d') :
    (ofDecl d).1.Rebased q p (ofDecl d').1 := by
  have hform : (d'.form == .interface) = (d.form == .interface) := by rw [h.form]
  have hplain : ∀ isObject, (⟨d, d.heritage, [], [], isObject⟩ : ShapeStructure).Rebased q p
      ⟨d', d'.heritage, [], [], isObject⟩ := fun _ => ⟨h, h.heritage, rfl, rfl, rfl⟩
  have htype := h.type
  unfold ofDecl
  dsimp only
  rw [hform]
  generalize d.type = t at htype
  generalize d'.type = t' at htype
  cases htype with
  | same =>
    cases t with
    | object => exact ⟨h, h.heritage, rfl, rfl, rfl⟩
    | intersection span members =>
      dsimp only
      split
      · exact hplain _
      · exact (hplain true).addMembers (rebased_refl members)
    | reference span name args =>
      cases args with
      | nil =>
        dsimp only
        split
        · exact ⟨h, List.rel_append h.heritage (rebased_refl _), rfl, rfl, rfl⟩
        · exact hplain _
      | cons => exact hplain _
    | _ => exact hplain _
  | members halias hmembers =>
    simp only [halias]
    exact (hplain true).addMembers (hmembers.imp fun _ _ hm => hm.1)
  | @marked span span' name name' halias hname hmarker hname' =>
    simp only [halias, hname, hname', hmarker, hp]
    refine ⟨h, List.rel_append h.heritage (.cons (.inr ⟨?_, ?_⟩) .nil), rfl, rfl, rfl⟩
    · rw [TypeExpr.referenceName?, hname]
    · rw [TypeExpr.referenceName?, hname']

/-- What a shape without fields stands for stays. -/
theorem type_eq_of_rebased (h : d.Rebased q p d') (hplain : (ofDecl d).1.isObjectLike = false) :
    d'.type = d.type := by
  have htype := h.type
  unfold ofDecl at hplain
  dsimp only at hplain
  generalize d.type = t at htype hplain
  generalize d'.type = t' at htype
  cases htype with
  | same => rfl
  | members halias => simp [halias, isObjectLike_addMembers] at hplain
  | marked halias hname hmarker => simp [halias, hname, hmarker] at hplain

end ShapeStructure

/-! ## 3. Heritage -/

theorem Resolved.eraseDups_of_nodup {kinds : List ShapeKind} (h : kinds.Nodup) : kinds.eraseDups = kinds := by
  induction kinds using List.reverseRecOn with
  | nil => rfl
  | append_singleton kinds kind ih =>
    rw [List.nodup_append_comm] at h
    obtain ⟨hnew, hkinds⟩ : kind ∉ kinds ∧ kinds.Nodup := List.nodup_cons.mp h
    rw [eraseDups_concat, if_neg hnew, ih hkinds]

theorem Resolved.nodup_addMarker {r : Resolved} (h : r.markers.Nodup) (kind : ShapeKind) :
    (r.addMarker kind).markers.Nodup := by
  unfold addMarker
  split
  · exact h
  · rename_i hnew
    rw [List.contains_iff_mem] at hnew
    rw [List.nodup_append_comm]
    exact List.nodup_cons.mpr ⟨hnew, h⟩

theorem Resolved.nodup_foldl_addMarker : ∀ (kinds : List ShapeKind) {r : Resolved}, r.markers.Nodup →
    (kinds.foldl addMarker r).markers.Nodup
  | [], _, h => h
  | kind :: rest, _, h => nodup_foldl_addMarker rest (nodup_addMarker h kind)

namespace Heritage

variable {structureOf : String → Option ShapeStructure}

theorem Inherits.nodup_markers : ∀ {bases : List TypeExpr} {r last : Resolved},
    Inherits structureOf bases r last → r.markers.Nodup → last.markers.Nodup
  | _, _, _, .nil, hn => hn
  | _, _, _, .unnamed _ h, hn => h.nodup_markers hn
  | _, _, _, .declared _ _ _ h, hn => h.nodup_markers (Resolved.nodup_foldl_addMarker _ hn)
  | _, _, _, .marker _ _ _ h, hn => h.nodup_markers (Resolved.nodup_addMarker hn _)
  | _, _, _, .unknown _ _ _ h, hn => h.nodup_markers hn

/-- What a shape has comes through a single base as it is. -/
theorem Resolves.inherit_empty {s : ShapeStructure} {r : Resolved} (h : Resolves structureOf s r) :
    Resolved.empty.inherit r = r := by
  have hfields := h.nodup
  cases h with
  | @of _ inherited hinherits =>
    have hmarkers : inherited.markers.Nodup := hinherits.nodup_markers List.nodup_nil
    unfold Resolved.inherit
    congr 1
    · rw [Resolved.markers_foldl_addMarker _ [] rfl, List.nil_append]
      exact Resolved.eraseDups_of_nodup hmarkers
    · exact mergeFields_of_nodup hfields

/-- A shape that has one base and no fields has what its base has. -/
theorem Resolves.of_alias {s t : ShapeStructure} {base : TypeExpr} {name : String} {r : Resolved}
    (hfields : s.fields = []) (hbases : s.bases = [base]) (hname : base.referenceName? = some name)
    (ht : structureOf name = some t) (h : Resolves structureOf s r) : Resolves structureOf t r := by
  cases h with
  | of hinherits =>
    rw [hbases] at hinherits
    cases hinherits with
    | unnamed hnone => simp [hname] at hnone
    | declared hname' ht' hresolves hrest =>
      cases hname.symm.trans hname'
      cases ht.symm.trans ht'
      cases hrest
      rw [hresolves.inherit_empty, Resolved.addOwn, hfields]
      exact hresolves
    | marker hname' hnone =>
      cases hname.symm.trans hname'
      simp [ht] at hnone
    | unknown hname' hnone =>
      cases hname.symm.trans hname'
      simp [ht] at hnone

/-- Of two declared shapes `q` has nothing of its own and extends `p` only. -/
structure Passes (all : List ShapeStructure) (q p : String) : Prop where
  through : ∃ s, structureOf? all q = some s ∧ s.fields = [] ∧
    ∃ base, s.bases = [base] ∧ base.referenceName? = some p
  declared : (structureOf? all p).isSome = true

theorem Passes.extends {all : List ShapeStructure} (h : Passes all q p) : Extends all q p := by
  obtain ⟨s, hs, -, base, hbases, hname⟩ := h.through
  exact ⟨s, hs, base, by simp [hbases], hname, h.declared⟩

section

variable {all all' : List ShapeStructure} (hpasses : Passes all q p)
  (hall : List.Forall₂ (ShapeStructure.Rebased q p) all all')

include hall

theorem rel_structureOf?_rebased (name : String) :
    Option.Rel (ShapeStructure.Rebased q p) (structureOf? all name) (structureOf? all' name) :=
  rel_find? (fun _ _ h => by rw [h.name]) hall

theorem isSome_structureOf?_rebased (name : String) :
    (structureOf? all' name).isSome = (structureOf? all name).isSome :=
  isSome_eq_of_rel (rel_structureOf?_rebased hall name)

include hpasses

/-- A step that is new led around before. -/
theorem transGen_of_extends_rebased {a b : String} (h : Extends all' a b) :
    Relation.TransGen (Extends all) a b := by
  obtain ⟨s', hs', base', hbase', hname, hdeclared⟩ := h
  have hrel := rel_structureOf?_rebased hall a
  rw [hs'] at hrel
  generalize hs : structureOf? all a = found at hrel
  cases hrel with
  | some hss' =>
    obtain ⟨base, hbase, hrebased⟩ := exists_of_forall₂_right hss'.bases hbase'
    rw [isSome_structureOf?_rebased hall] at hdeclared
    rcases hrebased with rfl | ⟨hq, hp⟩
    · exact .single ⟨_, hs, _, hbase, hname, hdeclared⟩
    · cases hname.symm.trans hp
      have hqp := hpasses.extends
      obtain ⟨s, hs'', -⟩ := id hqp
      exact .head ⟨_, hs, base, hbase, hq, by simp [hs'']⟩ (.single hqp)

theorem acyclic_rebased (hacyclic : Acyclic all) : Acyclic all' := fun name hcycle =>
  hacyclic name (Relation.TransGen.closed (fun _ _ => transGen_of_extends_rebased hpasses hall) _ _ hcycle)

/-- The alias still extends the shape. -/
theorem passes_rebased (hne : p ≠ q) : Passes all' q p := by
  obtain ⟨s, hs, hfields, base, hbases, hname⟩ := hpasses.through
  obtain ⟨s', hs', hss'⟩ := exists_of_rel_some (rel_structureOf?_rebased hall q) hs
  refine ⟨⟨s', hs', hss'.fields.trans hfields, base, ?_, hname⟩, ?_⟩
  · have hrebased := hss'.bases
    rw [hbases, List.forall₂_cons_left_iff] at hrebased
    obtain ⟨base', rest', hbase, hrest, heq⟩ := hrebased
    obtain rfl := List.forall₂_nil_left_iff.mp hrest
    rcases hbase with rfl | ⟨hq, -⟩
    · exact heq
    · cases hname.symm.trans hq
      exact absurd rfl hne
  · rw [isSome_structureOf?_rebased hall]
    exact hpasses.declared

end

mutual

/-- **Every shape has what it had.** -/
theorem Resolves.rebased {all all' : List ShapeStructure} (hpasses : Passes all q p)
    (hpasses' : Passes all' q p) (hall : List.Forall₂ (ShapeStructure.Rebased q p) all all') :
    ∀ {s s' : ShapeStructure} {r : Resolved}, s.Rebased q p s' → Resolves (structureOf? all) s r →
      Resolves (structureOf? all') s' r
  | s, s', _, hss', @Resolves.of _ _ inherited h => by
      have hown : inherited.addOwn s = inherited.addOwn s' := by
        rw [Resolved.addOwn, Resolved.addOwn, hss'.fields, hss'.name]
      rw [hown]
      exact .of (Inherits.rebased hpasses hpasses' hall hss'.bases h)

theorem Inherits.rebased {all all' : List ShapeStructure} (hpasses : Passes all q p)
    (hpasses' : Passes all' q p) (hall : List.Forall₂ (ShapeStructure.Rebased q p) all all') :
    ∀ {bases bases' : List TypeExpr} {r last : Resolved},
      List.Forall₂ (TypeExpr.Rebased q p) bases bases' → Inherits (structureOf? all) bases r last →
      Inherits (structureOf? all') bases' r last
  | _, _, _, _, .nil, .nil => .nil
  | _, _, _, _, .cons hbase hrest, .declared hname hs hresolves h => by
      obtain ⟨s', hs', hss'⟩ := exists_of_rel_some (rel_structureOf?_rebased hall _) hs
      have hresolves' := Resolves.rebased hpasses hpasses' hall hss' hresolves
      have hlast := Inherits.rebased hpasses hpasses' hall hrest h
      rcases hbase with rfl | ⟨hq, hp⟩
      · exact .declared hname hs' hresolves' hlast
      · -- the alias has what the shape has, which is the base now
        cases hname.symm.trans hq
        obtain ⟨t, ht, hfields, base, hbases, hbase⟩ := hpasses'.through
        cases hs'.symm.trans ht
        obtain ⟨u, hu⟩ := Option.isSome_iff_exists.mp hpasses'.declared
        exact .declared hp hu (hresolves'.of_alias hfields hbases hbase hu) hlast
  | _, _, _, _, .cons hbase hrest, .unnamed hname h => by
      have hlast := Inherits.rebased hpasses hpasses' hall hrest h
      rcases hbase with rfl | ⟨hq, -⟩
      · exact .unnamed hname hlast
      · cases hname.symm.trans hq
  | _, _, _, _, .cons hbase hrest, .marker hname hs hkind h => by
      have hlast := Inherits.rebased hpasses hpasses' hall hrest h
      have hs' := eq_none_of_rel (rel_structureOf?_rebased hall _) hs
      rcases hbase with rfl | ⟨hq, -⟩
      · exact .marker hname hs' hkind hlast
      · cases hname.symm.trans hq
        obtain ⟨t, ht, -⟩ := hpasses'.through
        cases hs'.symm.trans ht
  | _, _, _, _, .cons hbase hrest, .unknown hname hs hkind h => by
      have hlast := Inherits.rebased hpasses hpasses' hall hrest h
      have hs' := eq_none_of_rel (rel_structureOf?_rebased hall _) hs
      rcases hbase with rfl | ⟨hq, -⟩
      · exact .unknown hname hs' hkind hlast
      · cases hname.symm.trans hq
        obtain ⟨t, ht, -⟩ := hpasses'.through
        cases hs'.symm.trans ht

end

end Heritage

/-! ## 4. Catalogs -/

/-- The entry of a shape with some bases written otherwise. -/
structure ShapeInfo.Rebased (q p : String) (s s' : ShapeInfo) : Prop where
  decl : s.decl.Rebased q p s'.decl
  markers : s'.markers = s.markers
  fields : s'.fields = s.fields
  skipped : s'.skipped = s.skipped
  isObjectLike : s'.isObjectLike = s.isObjectLike
  kind : s'.kind = s.kind
  type : s.isObjectLike = false → s'.decl.type = s.decl.type

namespace Syntax.SourceFile

variable {f f' : SourceFile}

theorem Rebased.firstStructures (hp : (ShapeKind.ofMarker? p).isSome = true) (h : f.Rebased q p f') :
    List.Forall₂ (ShapeStructure.Rebased q p) f.firstStructures f'.firstStructures := by
  unfold SourceFile.firstStructures
  rw [List.forall₂_map_left_iff, List.forall₂_map_right_iff]
  exact (forall₂_firstDeclarations (fun _ _ hd => hd.name) h.shapes).imp fun _ _ hd =>
    ShapeStructure.rebased_ofDecl hp hd

/-- An alias of a shape with the name of a marker passes on what the shape has. -/
theorem Aliases.passes (hp : (ShapeKind.ofMarker? p).isSome = true) (h : f.Aliases q p) :
    Heritage.Passes f.firstStructures q p := by
  obtain ⟨d, hd, rfl, hform, hheritage, span, name, htype, hname⟩ := h.declaration
  have hn := nodup_names_firstStructures f
  have hs : ∀ d ∈ (firstDeclarations f.shapes).1,
      Heritage.structureOf? f.firstStructures d.name = some (ShapeStructure.ofDecl d).1 := fun d hd => by
    rw [← ShapeStructure.name_ofDecl d]
    exact Heritage.structureOf?_of_mem hn (List.mem_map_of_mem hd)
  refine ⟨⟨_, hs d hd, ?_, d.type, ?_, ?_⟩, ?_⟩
  · simp [ShapeStructure.ofDecl, htype, hform, hname, hp]
  · simp [ShapeStructure.ofDecl, htype, hform, hname, hp, hheritage]
  · rw [htype, TypeExpr.referenceName?, hname]
  · obtain ⟨e, he, hename⟩ := List.mem_map.mp (mem_names_firstDeclarations h.declared)
    rw [← hename, hs e he]
    rfl

end Syntax.SourceFile

namespace ShapeCatalog

variable {f f' : SourceFile}

/-- The entries of a file are those of its declarations that count. -/
theorem shapes_eq_firstStructures (hacyclic : Heritage.Acyclic f.firstStructures) :
    (ofFile f).1.shapes = f.firstStructures.map (infoOf f.firstStructures) := by
  have hstructures : ((firstDeclarations f.shapes).1.map ShapeStructure.ofDecl).map (·.1) =
      f.firstStructures := List.map_map
  simp only [ofFile, hstructures, Heritage.resolveAll_fst hacyclic (nodup_names_firstStructures f),
    List.map_map]
  rfl

/-- The kind of a shape depends on its structure only by whether it describes objects. -/
theorem classify_congr {s s' : ShapeStructure} (h : s'.isObjectLike = s.isObjectLike) (r : Resolved) :
    (classify s' r).1 = (classify s r).1 := by
  unfold classify candidates
  rw [h]
  split <;> rfl

theorem rebased_infoOf {all all' : List ShapeStructure} (hacyclic : Heritage.Acyclic all)
    (hn : (all.map (·.name)).Nodup) (hpasses : Heritage.Passes all q p)
    (hall : List.Forall₂ (ShapeStructure.Rebased q p) all all') {d d' : ShapeDecl}
    (hd : (ShapeStructure.ofDecl d).1 ∈ all) (hd' : (ShapeStructure.ofDecl d').1 ∈ all')
    (h : (ShapeStructure.ofDecl d).1.Rebased q p (ShapeStructure.ofDecl d').1) :
    (infoOf all (ShapeStructure.ofDecl d).1).Rebased q p (infoOf all' (ShapeStructure.ofDecl d').1) := by
  have hne : p ≠ q := by
    rintro rfl
    exact hacyclic p (.single hpasses.extends)
  have hn' : (all'.map (·.name)).Nodup := by
    rwa [map_eq_of_forall₂ (fun _ _ h => ShapeStructure.Rebased.name h) hall]
  have hacyclic' := Heritage.acyclic_rebased hpasses hall hacyclic
  have hresolved : Heritage.resolvedOf all' (ShapeStructure.ofDecl d').1 =
      Heritage.resolvedOf all (ShapeStructure.ofDecl d).1 :=
    (Heritage.resolves_resolvedOf hacyclic' hn' hd').unique
      (Heritage.Resolves.rebased hpasses (Heritage.passes_rebased hpasses hall hne) hall h
        (Heritage.resolves_resolvedOf hacyclic hn hd))
  refine ⟨h.decl, ?_, ?_, h.skipped, h.isObjectLike, ?_, ?_⟩
  · simp only [infoOf, hresolved]
  · simp only [infoOf, hresolved]
  · simp only [infoOf, hresolved]
    exact classify_congr h.isObjectLike _
  · intro hplain
    have hdecl := h.decl
    simp only [ShapeStructure.decl_ofDecl, infoOf] at hdecl ⊢
    exact ShapeStructure.type_eq_of_rebased hdecl hplain

/-- **A base may be written as an alias or as what the alias stands for**, if that has the name of a marker. -/
theorem rebased_shapes (hacyclic : Heritage.Acyclic f.firstStructures)
    (hp : (ShapeKind.ofMarker? p).isSome = true) (halias : f.Aliases q p) (h : f.Rebased q p f') :
    List.Forall₂ (ShapeInfo.Rebased q p) (ofFile f).1.shapes (ofFile f').1.shapes := by
  have hpasses := halias.passes hp
  have hall := h.firstStructures hp
  rw [shapes_eq_firstStructures hacyclic,
    shapes_eq_firstStructures (Heritage.acyclic_rebased hpasses hall hacyclic),
    List.forall₂_map_left_iff, List.forall₂_map_right_iff]
  refine (forall₂_mem hall).imp fun s s' hss' => ?_
  obtain ⟨hs, hs', hrebased⟩ := hss'
  obtain ⟨d, -, rfl⟩ := List.mem_map.mp (id hs)
  obtain ⟨d', -, rfl⟩ := List.mem_map.mp (id hs')
  exact rebased_infoOf hacyclic (nodup_names_firstStructures f) hpasses hall hs hs' hrebased

/-- **An alias of a shape with any other name has nothing to pass on.** -/
theorem nothing_of_plain (hacyclic : Heritage.Acyclic f.firstStructures)
    (hp : ShapeKind.ofMarker? p = none) (halias : f.Aliases q p) {e : ShapeInfo}
    (he : e ∈ (ofFile f).1.shapes) (hname : e.name = q) : e.markers = [] ∧ e.fields = [] := by
  have hn := nodup_names_firstStructures f
  rw [shapes_eq_firstStructures hacyclic] at he
  obtain ⟨s, hs, rfl⟩ := List.mem_map.mp he
  obtain ⟨d, hd, hdname, hform, hheritage, span, name, htype, hlast⟩ := halias.declaration
  have hmem : (ShapeStructure.ofDecl d).1 ∈ f.firstStructures := List.mem_map_of_mem hd
  obtain rfl : (ShapeStructure.ofDecl d).1 = s := List.inj_on_of_nodup_map hn hmem hs (by
    rw [ShapeStructure.name_ofDecl, hdname, ← hname]
    rfl)
  have hempty : Heritage.resolvedOf f.firstStructures (ShapeStructure.ofDecl d).1 = .empty := by
    refine (Heritage.resolves_resolvedOf hacyclic hn hs).unique ?_
    have hbases : (ShapeStructure.ofDecl d).1.bases = [] := by
      simp [ShapeStructure.ofDecl, htype, hform, hlast, hp, hheritage]
    have hfields : (ShapeStructure.ofDecl d).1.fields = [] := by
      simp [ShapeStructure.ofDecl, htype, hform, hlast, hp]
    have hresolves : Heritage.Resolves (Heritage.structureOf? f.firstStructures)
        (ShapeStructure.ofDecl d).1 (Resolved.empty.addOwn (ShapeStructure.ofDecl d).1) :=
      .of (hbases ▸ .nil)
    rwa [Resolved.addOwn, hfields] at hresolves
  simp only [infoOf, hempty]
  exact ⟨rfl, rfl⟩

end ShapeCatalog

end ServiceGraph
