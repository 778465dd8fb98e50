import ServiceGraph.Proofs.Graph.Consistent
import ServiceGraph.Proofs.Shape.Inlining

/-!
What a shape has, as a plain recursion.

`Heritage.markersOf` and `Heritage.fieldsOf` go down the bases to a given depth, without a walk: nothing is
remembered, and a base that several shapes share is gone through for each of them. Merging is said without a
loop as well (`placeField`). If no shape leads back to itself, a walk of at most as many steps as there are
shapes ends at shapes without bases. So at that depth, and at every greater one, the recursion gives
what the entries of the catalog have (`ShapeCatalog.entry_merged`).
-/

namespace ServiceGraph

open Syntax

/-! ## 1. Fields in their places -/

/-- Replaces the field of a name where it stands, or else appends the field. -/
def placeField (fields : List MergedField) (f : MergedField) : List MergedField :=
  if f.name ∈ fields.map (·.name) then fields.map fun g => if g.name = f.name then f else g
  else fields ++ [f]

/-- The last of some fields that has a name. -/
def lastNamed? (fields : List Field) (name : String) : Option Field :=
  fields.reverse.find? (·.name == name)

/-- Merging a field leaves it in its place. -/
theorem mergeField_eq_placeField {f : MergedField} : ∀ {fields : List MergedField},
    (fields.map (·.name)).Nodup → mergeField fields f = placeField fields f
  | [], _ => rfl
  | g :: rest, hn => by
      obtain ⟨hg, hrest⟩ := List.nodup_cons.mp hn
      by_cases hname : g.name = f.name
      · have hothers : rest.map (fun h => if h.name = f.name then f else h) = rest := by
          refine (List.map_congr_left fun h hh => if_neg fun heq => hg ?_).trans (List.map_id' rest)
          exact List.mem_map.mpr ⟨h, hh, heq.trans hname.symm⟩
        rw [mergeField, if_pos (by simpa using hname), placeField, if_pos (by simp [hname]),
          List.map_cons, hothers, if_pos hname]
      · rw [mergeField, if_neg (by simpa using hname), mergeField_eq_placeField hrest]
        simp only [placeField, List.map_cons, List.mem_cons, Ne.symm hname, false_or]
        split <;> simp [*]

theorem mergeFields_eq_placeField : ∀ {incoming fields : List MergedField},
    (fields.map (·.name)).Nodup → mergeFields fields incoming = incoming.foldl placeField fields
  | [], _, _ => rfl
  | g :: rest, fields, hn => by
      have hfirst : ((mergeField fields g).map (·.name)).Nodup := @nodup_mergeFields [g] fields hn
      have hstep : mergeFields fields (g :: rest) = mergeFields (mergeField fields g) rest := rfl
      rw [hstep, mergeFields_eq_placeField hfirst, List.foldl_cons, mergeField_eq_placeField hn]

namespace ShapeKind

theorem fieldNamed?_mergeField (g : MergedField) (name : String) : ∀ fields : List MergedField,
    fieldNamed? (mergeField fields g) name = if g.name = name then some g else fieldNamed? fields name
  | [] => by simp [fieldNamed?, mergeField, List.find?_singleton]
  | first :: rest => by
      have ih := fieldNamed?_mergeField g name rest
      simp only [fieldNamed?] at ih
      rw [mergeField]
      by_cases hfirst : first.name = g.name
      · rw [if_pos (by simpa using hfirst)]
        simp [fieldNamed?, List.find?_cons, hfirst]
        grind
      · rw [if_neg (by simpa using hfirst)]
        simp only [fieldNamed?, List.find?_cons]
        grind

/-- A name stands for the last field that was merged under it. -/
theorem fieldNamed?_mergeFields (name : String) : ∀ incoming fields : List MergedField,
    fieldNamed? (mergeFields fields incoming) name =
      (incoming.reverse.find? (·.name == name)).or (fieldNamed? fields name)
  | [], _ => rfl
  | g :: rest, fields => by
      have hstep : mergeFields fields (g :: rest) = mergeFields (mergeField fields g) rest := rfl
      rw [hstep, fieldNamed?_mergeFields name rest, fieldNamed?_mergeField, List.reverse_cons,
        List.find?_append, Option.or_assoc]
      by_cases hg : g.name = name <;> simp [hg]

end ShapeKind

theorem fieldNamed?_isSome_iff {fields : List MergedField} {name : String} :
    (ShapeKind.fieldNamed? fields name).isSome = true ↔ name ∈ fields.map (·.name) := by
  simp [ShapeKind.fieldNamed?]

/-- Merging loses no name. -/
theorem mem_names_mergeFields {incoming fields : List MergedField} {name : String} :
    name ∈ (mergeFields fields incoming).map (·.name) ↔
      name ∈ fields.map (·.name) ∨ name ∈ incoming.map (·.name) := by
  rw [← fieldNamed?_isSome_iff, ShapeKind.fieldNamed?_mergeFields, Option.isSome_or, Bool.or_eq_true,
    fieldNamed?_isSome_iff, or_comm]
  simp

/-- Of two fields with different names, each is the one that its name stands for. -/
theorem fieldNamed?_of_mem {fields : List MergedField} (hn : (fields.map (·.name)).Nodup) {f : MergedField}
    (hf : f ∈ fields) : ShapeKind.fieldNamed? fields f.name = some f :=
  (Keyed.find?_eq_some_iff hn).mpr ⟨hf, rfl⟩

namespace Resolved

/-- The own fields of a shape, as they are merged. -/
theorem find?_reverse_own (s : ShapeStructure) (name : String) :
    (s.fields.map fun f => (⟨f, s.name⟩ : MergedField)).reverse.find? (·.name == name) =
      (lastNamed? s.fields name).map (⟨·, s.name⟩) := by
  rw [← List.map_reverse, List.find?_map]
  rfl

/-- What a name stands for in a shape: the shape's own last field of that name, if it has one. -/
theorem fieldNamed?_addOwn (r : Resolved) (s : ShapeStructure) (name : String) :
    ShapeKind.fieldNamed? (r.addOwn s).fields name =
      ((lastNamed? s.fields name).map (⟨·, s.name⟩)).or (ShapeKind.fieldNamed? r.fields name) := by
  rw [addOwn, ShapeKind.fieldNamed?_mergeFields, find?_reverse_own]

/-! ## 2. Markers in their order -/

theorem eraseDups_concat (kinds : List ShapeKind) (kind : ShapeKind) :
    (kinds ++ [kind]).eraseDups = if kind ∈ kinds then kinds.eraseDups else kinds.eraseDups ++ [kind] := by
  rw [List.eraseDups_append]
  by_cases h : kind ∈ kinds <;> simp [h, List.removeAll, List.eraseDups_cons]

theorem nodup_eraseDups (kinds : List ShapeKind) : kinds.eraseDups.Nodup := by
  induction kinds using List.reverseRecOn with
  | nil => exact List.nodup_nil
  | append_singleton kinds kind ih =>
    rw [eraseDups_concat]
    split
    · exact ih
    · rename_i hnew
      rw [List.nodup_append_comm]
      exact List.nodup_cons.mpr ⟨fun h => hnew (List.mem_eraseDups.mp h), ih⟩

/-- A marker is added behind those that were found before, unless it is among them. -/
theorem markers_addMarker {r : Resolved} {kinds : List ShapeKind} (h : r.markers = kinds.eraseDups)
    (kind : ShapeKind) : (r.addMarker kind).markers = (kinds ++ [kind]).eraseDups := by
  have hmem : r.markers.contains kind = true ↔ kind ∈ kinds := by
    rw [h, List.contains_iff_mem, List.mem_eraseDups]
  rw [eraseDups_concat, addMarker]
  by_cases hkind : kind ∈ kinds
  · rw [if_pos (hmem.mpr hkind), if_pos hkind, h]
  · rw [if_neg (mt hmem.mp hkind), if_neg hkind, h]

theorem markers_foldl_addMarker : ∀ (more kinds : List ShapeKind) {r : Resolved},
    r.markers = kinds.eraseDups → (more.foldl addMarker r).markers = (kinds ++ more).eraseDups
  | [], kinds, _, h => by rw [List.foldl_nil, List.append_nil, h]
  | kind :: rest, kinds, _, h => by
      rw [List.foldl_cons, markers_foldl_addMarker rest _ (markers_addMarker h kind), List.append_assoc]
      rfl

end Resolved

/-! ## 3. The plain recursion -/

namespace Heritage

section

variable (all : List ShapeStructure)

/-- The markers that a base brings, where those of declared shapes are given. -/
def markersFrom (markers : ShapeStructure → List ShapeKind) (base : TypeExpr) : List ShapeKind :=
  match base.referenceName? with
  | none => []
  | some name =>
    match structureOf? all name with
    | some b => markers b
    | none => (ShapeKind.ofMarker? name).toList

/-- What fields become behind a base, where those of declared shapes are given. -/
def fieldsFrom (more : ShapeStructure → List MergedField) (fields : List MergedField) (base : TypeExpr) :
    List MergedField :=
  match base.referenceName?.bind (structureOf? all) with
  | some b => (more b).foldl placeField fields
  | none => fields

/-- The markers that a shape reaches in so many steps, in the order in which they are found. -/
def markersOf : Nat → ShapeStructure → List ShapeKind
  | 0, _ => []
  | depth + 1, s => (s.bases.flatMap (markersFrom all (markersOf depth))).eraseDups

/-- The fields that a shape gets in so many steps: those of its bases from left to right, then its own. -/
def fieldsOf : Nat → ShapeStructure → List MergedField
  | 0, _ => []
  | depth + 1, s =>
    (s.fields.map fun f => ⟨f, s.name⟩).foldl placeField (s.bases.foldl (fieldsFrom all (fieldsOf depth)) [])

end

variable {all : List ShapeStructure}

/-- Bases that have what the recursion says pass it on. -/
theorem Inherits.eq_recursion {depth : Nat} : ∀ {bases : List TypeExpr} {r last : Resolved},
    Inherits (structureOf? all) bases r last →
    (∀ base ∈ bases, ∀ b, base.referenceName?.bind (structureOf? all) = some b → ∀ r,
      Resolves (structureOf? all) b r → r.markers = markersOf all depth b ∧ r.fields = fieldsOf all depth b) →
    ∀ kinds : List ShapeKind, r.markers = kinds.eraseDups → (r.fields.map (·.name)).Nodup →
      last.markers = (kinds ++ bases.flatMap (markersFrom all (markersOf all depth))).eraseDups ∧
      last.fields = bases.foldl (fieldsFrom all (fieldsOf all depth)) r.fields
  | _, _, _, .nil, _, kinds, hkinds, _ => ⟨by rw [List.flatMap_nil, List.append_nil, hkinds], rfl⟩
  | _, _, _, .unnamed hname h, hbases, kinds, hkinds, hn => by
      have ih := h.eq_recursion (fun base hbase => hbases base (List.mem_cons_of_mem _ hbase)) kinds hkinds hn
      simpa [markersFrom, fieldsFrom, hname] using ih
  | base :: _, r, _, @Inherits.declared _ _ _ _ _ inherited _ b hname hb hresolves h, hbases, kinds,
      hkinds, hn => by
      obtain ⟨hmarkers, hfields⟩ := hbases base List.mem_cons_self b (by rw [hname]; exact hb) _ hresolves
      have hnext : (r.inherit inherited).markers = (kinds ++ markersOf all depth b).eraseDups := by
        rw [← hmarkers]
        exact Resolved.markers_foldl_addMarker _ kinds hkinds
      have hplaced : (r.inherit inherited).fields = (fieldsOf all depth b).foldl placeField r.fields := by
        rw [← hfields]
        exact mergeFields_eq_placeField hn
      have ih := h.eq_recursion (fun base hbase => hbases base (List.mem_cons_of_mem _ hbase)) _ hnext
        (nodup_mergeFields hn)
      rw [hplaced] at ih
      simpa [markersFrom, fieldsFrom, hname, hb] using ih
  | _, r, _, @Inherits.marker _ _ _ _ _ _ kind hname hb hkind h, hbases, kinds, hkinds, hn => by
      have ih := h.eq_recursion (fun base hbase => hbases base (List.mem_cons_of_mem _ hbase)) _
        (Resolved.markers_addMarker hkinds kind) (by rwa [Resolved.fields_addMarker])
      rw [Resolved.fields_addMarker] at ih
      simpa [markersFrom, fieldsFrom, hname, hb, hkind] using ih
  | _, _, _, .unknown hname hb hkind h, hbases, kinds, hkinds, hn => by
      have ih := h.eq_recursion (fun base hbase => hbases base (List.mem_cons_of_mem _ hbase)) kinds hkinds hn
      simpa [markersFrom, fieldsFrom, hname, hb, hkind] using ih

/-- **What a shape has is what the recursion says**, once it goes deeper than there are shapes that are not
under way. -/
theorem Resolves.eq_recursion (hacyclic : Acyclic all) : ∀ (depth : Nat) {free : List String}
    {s : ShapeStructure} {r : Resolved}, structureOf? all s.name = some s → Leading all free s.name →
    free.length < depth → Resolves (structureOf? all) s r →
    r.markers = markersOf all depth s ∧ r.fields = fieldsOf all depth s
  | depth + 1, free, s, _, hs, hlead, hlength, @Resolves.of _ _ inherited h => by
      have hbases : ∀ base ∈ s.bases, ∀ b, base.referenceName?.bind (structureOf? all) = some b → ∀ r,
          Resolves (structureOf? all) b r →
          r.markers = markersOf all depth b ∧ r.fields = fieldsOf all depth b := by
        intro base hbase b hb r hr
        obtain ⟨name, hname, hb⟩ := Option.bind_eq_some_iff.mp hb
        obtain ⟨-, rfl⟩ := structureOf?_eq_some hb
        have hab : Extends all s.name b.name := ⟨s, hs, base, hbase, hname, by simp [hb]⟩
        have hmem := mem_free_of_extends hacyclic hlead hab
        refine Resolves.eq_recursion hacyclic depth hb (hlead.erase hab) ?_ hr
        rw [List.length_erase_of_mem hmem]
        have := List.length_pos_of_mem hmem
        omega
      obtain ⟨hmarkers, hfields⟩ := h.eq_recursion hbases [] rfl List.nodup_nil
      refine ⟨hmarkers, ?_⟩
      have hown : (inherited.addOwn s).fields =
          (s.fields.map fun f => (⟨f, s.name⟩ : MergedField)).foldl placeField inherited.fields :=
        mergeFields_eq_placeField (h.nodup List.nodup_nil)
      rw [hown, hfields]
      rfl

/-! ## 4. What follows -/

/-- A field stands in a shape under the name of a shape that it leads to, and is that one's last field of
its name. -/
def DeclaredBy (all : List ShapeStructure) (name : String) (m : MergedField) : Prop :=
  ∃ t, structureOf? all m.owner = some t ∧ Relation.ReflTransGen (Extends all) name m.owner ∧
    lastNamed? t.fields m.name = some m.field

mutual

/-- **Every field comes with the shape that declares it.** -/
theorem Resolves.declaredBy : ∀ {s : ShapeStructure} {r : Resolved}, Resolves (structureOf? all) s r →
    structureOf? all s.name = some s → ∀ m ∈ r.fields, DeclaredBy all s.name m
  | s, _, @Resolves.of _ _ inherited h, hs, m, hm => by
      have hnodup : ((inherited.addOwn s).fields.map (·.name)).Nodup :=
        nodup_mergeFields (h.nodup List.nodup_nil)
      have hfound := fieldNamed?_of_mem hnodup hm
      rw [Resolved.fieldNamed?_addOwn] at hfound
      cases hlast : lastNamed? s.fields m.name with
      | some f =>
        rw [hlast] at hfound
        cases hfound
        exact ⟨s, hs, .refl, hlast⟩
      | none =>
        rw [hlast, Option.map_none, Option.none_or] at hfound
        exact h.declaredBy hs (fun _ hb => hb) (by simp [Resolved.empty]) m (List.mem_of_find?_eq_some hfound)

theorem Inherits.declaredBy : ∀ {bases : List TypeExpr} {r last : Resolved} {s : ShapeStructure},
    Inherits (structureOf? all) bases r last → structureOf? all s.name = some s → bases ⊆ s.bases →
    (∀ m ∈ r.fields, DeclaredBy all s.name m) → ∀ m ∈ last.fields, DeclaredBy all s.name m
  | _, _, _, _, .nil, _, _, hr => hr
  | _, _, _, _, .unnamed _ h, hs, hsub, hr => h.declaredBy hs (fun _ hb => hsub (List.mem_cons_of_mem _ hb)) hr
  | base :: _, _, _, s, .declared (s := b) hname hb hresolves h, hs, hsub, hr => by
      refine h.declaredBy hs (fun _ hb => hsub (List.mem_cons_of_mem _ hb)) fun m hm => ?_
      rcases Resolved.mem_fields_inherit hm with hm | hm
      · exact hr m hm
      · obtain ⟨-, rfl⟩ := structureOf?_eq_some hb
        obtain ⟨t, ht, hpath, hlast⟩ := hresolves.declaredBy hb m hm
        have hab : Extends all s.name b.name :=
          ⟨s, hs, base, hsub List.mem_cons_self, hname, by simp [hb]⟩
        exact ⟨t, ht, .head hab hpath, hlast⟩
  | _, _, _, _, .marker _ _ _ h, hs, hsub, hr =>
      h.declaredBy hs (fun _ hb => hsub (List.mem_cons_of_mem _ hb)) (by rwa [Resolved.fields_addMarker])
  | _, _, _, _, .unknown _ _ _ h, hs, hsub, hr =>
      h.declaredBy hs (fun _ hb => hsub (List.mem_cons_of_mem _ hb)) hr

end

/-- What was there before and what the bases have stays under its name. -/
theorem Inherits.names_subset {structureOf : String → Option ShapeStructure} {name : String} :
    ∀ {bases : List TypeExpr} {r last : Resolved}, Inherits structureOf bases r last →
      (name ∈ r.fields.map (·.name) ∨ ∃ base ∈ bases, ∃ b found, base.referenceName?.bind structureOf = some b ∧
        Resolves structureOf b found ∧ name ∈ found.fields.map (·.name)) →
      name ∈ last.fields.map (·.name)
  | _, _, _, .nil, hmem => by simpa using hmem
  | _, _, _, .unnamed hname h, hmem => by
      refine h.names_subset (hmem.imp_right ?_)
      rintro ⟨base, hbase, b, found, hb, hrest⟩
      rcases List.mem_cons.mp hbase with rfl | hbase
      · simp [hname] at hb
      · exact ⟨base, hbase, b, found, hb, hrest⟩
  | _, _, _, .declared hname hs hresolves h, hmem => by
      refine h.names_subset ?_
      rcases hmem with hmem | ⟨base, hbase, b, found, hb, hfound, hmem⟩
      · exact .inl (mem_names_mergeFields.mpr (.inl hmem))
      · rcases List.mem_cons.mp hbase with rfl | hbase
        · rw [hname, Option.bind_some, hs] at hb
          cases hb
          rw [hfound.unique hresolves] at hmem
          exact .inl (mem_names_mergeFields.mpr (.inr hmem))
        · exact .inr ⟨base, hbase, b, found, hb, hfound, hmem⟩
  | _, _, _, .marker hname hs _ h, hmem => by
      refine h.names_subset ?_
      rw [Resolved.fields_addMarker]
      refine hmem.imp_right ?_
      rintro ⟨base, hbase, b, found, hb, hrest⟩
      rcases List.mem_cons.mp hbase with rfl | hbase
      · simp [hname, hs] at hb
      · exact ⟨base, hbase, b, found, hb, hrest⟩
  | _, _, _, .unknown hname hs _ h, hmem => by
      refine h.names_subset (hmem.imp_right ?_)
      rintro ⟨base, hbase, b, found, hb, hrest⟩
      rcases List.mem_cons.mp hbase with rfl | hbase
      · simp [hname, hs] at hb
      · exact ⟨base, hbase, b, found, hb, hrest⟩

section

variable (hacyclic : Acyclic all) (hn : (all.map (·.name)).Nodup)

include hacyclic hn

/-- A shape has the names of the shapes that it extends. -/
theorem names_subset_of_extends {s t : ShapeStructure} (hs : s ∈ all) (ht : t ∈ all)
    (h : Extends all s.name t.name) :
    (resolvedOf all t).fields.map (·.name) ⊆ (resolvedOf all s).fields.map (·.name) := by
  intro name hmem
  have hresolves := resolves_resolvedOf hacyclic hn hs
  generalize resolvedOf all s = r at hresolves
  obtain ⟨s', hs', base, hbase, hname, -⟩ := h
  cases (structureOf?_of_mem hn hs).symm.trans hs'
  cases hresolves with
  | of hinherits =>
    refine mem_names_mergeFields.mpr (.inl (hinherits.names_subset (.inr ?_)))
    exact ⟨base, hbase, t, _, by rw [hname]; exact structureOf?_of_mem hn ht,
      resolves_resolvedOf hacyclic hn ht, hmem⟩

/-- **No field of a shape is lost in the shapes that lead to it.** -/
theorem names_subset_of_reaches {s t : ShapeStructure} (hs : s ∈ all) (ht : t ∈ all)
    (h : Relation.ReflTransGen (Extends all) s.name t.name) :
    (resolvedOf all t).fields.map (·.name) ⊆ (resolvedOf all s).fields.map (·.name) := by
  generalize hname : t.name = name at h
  induction h generalizing t with
  | refl =>
    have hself : t = s := List.inj_on_of_nodup_map hn ht hs hname
    rw [hself]
    exact List.Subset.refl _
  | tail _ hstep ih =>
    obtain ⟨u, hu, -⟩ := id hstep
    obtain ⟨hmem, rfl⟩ := structureOf?_eq_some hu
    exact List.Subset.trans (names_subset_of_extends hacyclic hn hmem ht (hname ▸ hstep)) (ih hmem rfl)

end

/-- What a shape has, merged as the recursion says. -/
structure Merged (all : List ShapeStructure) (s : ShapeStructure) (r : Resolved) : Prop where
  markers : ∀ depth ≥ all.length, r.markers = markersOf all depth s
  fields : ∀ depth ≥ all.length, r.fields = fieldsOf all depth s
  distinctMarkers : r.markers.Nodup
  distinctNames : (r.fields.map (·.name)).Nodup
  /-- Under the name of an own field stands the last one that the shape declares. -/
  own : ∀ name f, lastNamed? s.fields name = some f → ShapeKind.fieldNamed? r.fields name = some ⟨f, s.name⟩
  /-- Every field is the last one of its name in the shape that it comes from. -/
  origin : ∀ m ∈ r.fields, DeclaredBy all s.name m
  /-- No field of a shape that this one leads to is missing. -/
  kept : ∀ t ∈ all, Relation.ReflTransGen (Extends all) s.name t.name →
    ∀ f ∈ t.fields, f.name ∈ r.fields.map (·.name)

theorem own_names_subset {s : ShapeStructure} {r : Resolved} (h : Resolves (structureOf? all) s r)
    {f : Field} (hf : f ∈ s.fields) : f.name ∈ r.fields.map (·.name) := by
  cases h with
  | of _ =>
    refine mem_names_mergeFields.mpr (.inr ?_)
    rw [List.map_map]
    exact List.mem_map_of_mem hf

theorem merged_resolvedOf (hacyclic : Acyclic all) (hn : (all.map (·.name)).Nodup) {s : ShapeStructure}
    (hs : s ∈ all) : Merged all s (resolvedOf all s) := by
  have hresolves := resolves_resolvedOf hacyclic hn hs
  have hself := structureOf?_of_mem hn hs
  have hlength : ∀ depth ≥ all.length, ((all.map (·.name)).erase s.name).length < depth := by
    intro depth hdepth
    have hmem : s.name ∈ all.map (·.name) := List.mem_map_of_mem hs
    have hpos := List.length_pos_of_mem hmem
    rw [List.length_erase_of_mem hmem]
    rw [List.length_map] at hpos ⊢
    omega
  have hrecursion := fun depth hdepth =>
    hresolves.eq_recursion hacyclic depth hself (leading_erase s) (hlength depth hdepth)
  refine ⟨fun depth hdepth => (hrecursion depth hdepth).1, fun depth hdepth => (hrecursion depth hdepth).2,
    ?_, nodup_resolvedOf hacyclic hn hs, fun name f hf => ?_, hresolves.declaredBy hself,
    fun t ht hpath f hf => ?_⟩
  · rw [(hrecursion (all.length + 1) (Nat.le_succ _)).1]
    exact Resolved.nodup_eraseDups _
  · generalize resolvedOf all s = r at hresolves
    cases hresolves with
    | of _ => rw [Resolved.fieldNamed?_addOwn, hf, Option.map_some, Option.some_or]
  · exact names_subset_of_reaches hacyclic hn hs ht hpath
      (own_names_subset (resolves_resolvedOf hacyclic hn ht) hf)

/-- Shapes do not lead back to themselves if every base stands behind its shape. -/
theorem acyclic_of_behind (names : List String)
    (h : ∀ s ∈ all, ∀ base ∈ s.bases, ∀ b ∈ base.referenceName?, (structureOf? all b).isSome = true →
      names.idxOf s.name < names.idxOf b) : Acyclic all := by
  have hstep : ∀ a b, Extends all a b → names.idxOf a < names.idxOf b := by
    rintro a b ⟨s, hs, base, hbase, hname, hdeclared⟩
    obtain ⟨hmem, rfl⟩ := structureOf?_eq_some hs
    exact h s hmem base hbase b hname hdeclared
  have hpath : ∀ a b, Relation.TransGen (Extends all) a b → names.idxOf a < names.idxOf b := by
    intro a b hpath
    induction hpath with
    | single h => exact hstep _ _ h
    | tail _ h ih => exact ih.trans (hstep _ _ h)
  exact fun name hcycle => (hpath name name hcycle).false

end Heritage

/-! ## 5. Catalogs -/

namespace ShapeCatalog

/-- **The entries of a catalog are merged as the plain recursion says.** -/
theorem entry_merged {f : SourceFile} (hacyclic : Heritage.Acyclic f.firstStructures) {e : ShapeInfo}
    (he : e ∈ (ofFile f).1.shapes) :
    Heritage.Merged f.firstStructures (ShapeStructure.ofDecl e.decl).1 ⟨e.markers, e.fields⟩ := by
  have hn := nodup_names_firstStructures f
  have hstructures : ((firstDeclarations f.shapes).1.map ShapeStructure.ofDecl).map (·.1) =
      f.firstStructures := List.map_map
  simp only [ofFile, hstructures, Heritage.resolveAll_fst hacyclic hn, List.map_map, List.mem_map] at he
  obtain ⟨s, hs, rfl⟩ := he
  obtain ⟨d, -, rfl⟩ := List.mem_map.mp (id hs)
  have hmerged := Heritage.merged_resolvedOf hacyclic hn hs
  simpa using hmerged

end ShapeCatalog

namespace Sample

/-- A shape that inherits from one shape in two ways; on each of them a field is declared again. -/
def diamond : SourceFile where
  items := [
    .shape ⟨"Both", .interface, [.reference .origin "Left" [], .reference .origin "Right" []],
      .object .origin [field "own" (text "both")] [], none, true, .origin, .origin⟩,
    .shape ⟨"Left", .interface, [.reference .origin "Base" []],
      .object .origin [field "first" (text "left")] [], none, true, .origin, .origin⟩,
    .shape ⟨"Right", .interface, [.reference .origin "Base" [], .reference .origin "Tool" []],
      .object .origin [field "second" (text "right")] [], none, true, .origin, .origin⟩,
    .shape ⟨"Base", .interface, [.reference .origin "Tool" []],
      .object .origin [field "first" (text "base"), field "second" (text "base")] [], none, true,
      .origin, .origin⟩]
  errors := []

theorem diamond_acyclic : Heritage.Acyclic diamond.firstStructures :=
  Heritage.acyclic_of_behind ["Both", "Left", "Right", "Base"] (by decide)

/-- What comes through the second base replaces what came through the first one. -/
theorem diamond_merged : Heritage.Acyclic diamond.firstStructures ∧
    ∃ e ∈ (ShapeCatalog.ofFile diamond).1.shapes, e.name = "Both" ∧ e.markers = [.operation] ∧
      e.fields.map (fun m => (m.name, m.owner)) = [("first", "Base"), ("second", "Right"), ("own", "Both")] ∧
      Heritage.Merged diamond.firstStructures (ShapeStructure.ofDecl e.decl).1 ⟨e.markers, e.fields⟩ := by
  have hentry : ((ShapeCatalog.ofFile diamond).1.get? "Both").map (fun e =>
      (e.name, e.markers, e.fields.map fun m => (m.name, m.owner))) =
      some ("Both", [.operation], [("first", "Base"), ("second", "Right"), ("own", "Both")]) := by cbv
  obtain ⟨e, hfound, heq⟩ := Option.map_eq_some_iff.mp hentry
  obtain ⟨hname, hmarkers, hfields⟩ := Prod.mk.inj heq |>.imp_right Prod.mk.inj
  have he := List.mem_of_find?_eq_some hfound
  exact ⟨diamond_acyclic, e, he, hname, hmarkers, hfields, ShapeCatalog.entry_merged diamond_acyclic he⟩

end Sample

end ServiceGraph
