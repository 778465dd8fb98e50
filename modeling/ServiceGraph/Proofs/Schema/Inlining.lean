import ServiceGraph.Proofs.Schema.Comments
import ServiceGraph.Proofs.Schema.Recursion
import ServiceGraph.Proofs.Shape.Inlining

/-!
Reading a type in which references to a shape are replaced by the shape's own type.

A reference and the type in its place are read in different ways. The fields of the shape are looked up under
its name, those of the object under the name and the path of where it stands; and the shape is put on the stack
of shapes under expansion, the object is not. Two contexts agree on both (`TypeContext.Inlines`) if

* the fields on either side are read with their own comments, wherever their places differ;
* the shape does not lead back to itself, so that below it no reference asks whether it is on the stack.

Then a type has the same schema after the replacement (`TypeSchema.value_ofType_eq`), by induction along
the reader of the type as it was before.
-/

namespace ServiceGraph

open Syntax

/-! ## 1. Where references lead -/

/-- Reading a type leads to the name of a shape. -/
def Syntax.TypeExpr.LeadsTo (c : ShapeCatalog) (t : TypeExpr) (name : String) : Prop :=
  ∃ p u s, t.Inside p u ∧ c.Names u s ∧ Relation.ReflTransGen c.Refers s.name name

variable {c : ShapeCatalog} {d : ShapeDecl}

namespace Syntax.TypeExpr.LeadsTo

variable {t u : TypeExpr} {name : String} {p : List Schema.Step}

theorem of_inside (hu : t.Inside p u) (h : u.LeadsTo c name) : t.LeadsTo c name := by
  obtain ⟨q, v, s, hv, hs, hway⟩ := h
  exact ⟨p ++ q, v, s, hu.trans hv, hs, hway⟩

/-- What a type in a shape leads to, the shape leads to. -/
theorem of_holds {a : ShapeInfo} (ha : c.get? a.name = some a) {owner path : String}
    (hold : a.Holds p owner path t) (h : t.LeadsTo c name) :
    Relation.TransGen c.Refers a.name name := by
  obtain ⟨q, u, s, hu, hs, hway⟩ := h
  exact .head' ⟨a, ha, _, _, _, _, _, _, s, hold, hu, hs, rfl⟩ hway

/-- A reference leads to what the shape leads to. -/
theorem of_names {s : ShapeInfo} (hs : c.Names t s) (h : Relation.ReflTransGen c.Refers s.name name) :
    t.LeadsTo c name :=
  ⟨[], t, s, .here, hs, h⟩

end Syntax.TypeExpr.LeadsTo

/-- Two stacks hold the same of all names that a type leads to, and the shape is not among them. -/
structure StacksAgree (c : ShapeCatalog) (d : ShapeDecl) (σ σ' : List String) (t : TypeExpr) : Prop where
  mem_iff : ∀ name, t.LeadsTo c name → (name ∈ σ' ↔ name ∈ σ)
  free : t.LeadsTo c d.name → d.name ∉ σ

namespace StacksAgree

variable {σ σ' : List String} {t u v : TypeExpr} {p : List Schema.Step} {owner path : String}
  {s : ShapeInfo}

theorem inside (h : StacksAgree c d σ σ' t) (hu : t.Inside p u) : StacksAgree c d σ σ' u :=
  ⟨fun name hname => h.mem_iff name (hname.of_inside hu), fun hname => h.free (hname.of_inside hu)⟩

/-- They do so below a declaration. -/
theorem root (hs : c.get? s.name = some s) (hfinite : ¬c.IsRecursive d.name)
    (hv : s.name = d.name → s.Holds p owner path t) : StacksAgree c d [s.name] [s.name] t where
  mem_iff _ _ := .rfl
  free hname hmem := by
    have heq := List.mem_singleton.mp hmem
    have hway := hname.of_holds hs (hv heq.symm)
    exact hfinite (heq ▸ heq ▸ hway)

section

variable (hfinite : ¬c.IsRecursive d.name) (hs : c.Names t s) (hv : s.Holds p owner path v)
  (h : StacksAgree c d σ σ' t)

include hfinite hs hv h

/-- They do so after a shape is put on both. -/
theorem expand : StacksAgree c d (s.name :: σ) (s.name :: σ') v where
  mem_iff name hname := by
    have hway := hname.of_holds hs.get?_self hv
    rw [List.mem_cons, List.mem_cons, h.mem_iff name (.of_names hs hway.to_reflTransGen)]
  free hname hmem := by
    have hway := hname.of_holds hs.get?_self hv
    rcases List.mem_cons.mp hmem with heq | hmem
    · exact hfinite (heq ▸ heq ▸ hway)
    · exact h.free (.of_names hs hway.to_reflTransGen) hmem

/-- They do so after the shape itself is put on one of them, since it does not lead back to itself. -/
theorem expand_left (hname : s.name = d.name) : StacksAgree c d (s.name :: σ) σ' v where
  mem_iff name hlead := by
    have hway := hlead.of_holds hs.get?_self hv
    have hne : name ≠ s.name := by
      rintro rfl
      exact hfinite (hname ▸ hway)
    rw [h.mem_iff name (.of_names hs hway.to_reflTransGen), List.mem_cons, or_iff_right hne]
  free hlead := by
    have hway := hlead.of_holds hs.get?_self hv
    rw [hname] at hway
    exact absurd hway hfinite

end

end StacksAgree

/-! ## 2. Contexts -/

/-- Places such that from there on fields are read with their own comments. -/
structure TypeContext.OwnComments (ctx : TypeContext) (own : String → String → Prop) : Prop where
  item : ∀ owner path, own owner path → own owner (TypePath.item path)
  field : ∀ owner path name, TypePath.IsPlain name → own owner path →
    own owner (TypePath.field path name)
  get? : ∀ g owner path, ctx.catalog.LooksUp g owner path → own owner path →
    ctx.annotations.get? owner path = g.doc?.map fun doc => ( Annotation.ofDoc doc).1

/-- A context with references to a shape replaced by the shape's own type. -/
structure TypeContext.Inlines (d : ShapeDecl) (own own' : String → String → Prop)
    (ctx ctx' : TypeContext) : Prop where
  object : d.type.IsObject
  plainObject : d.type.HasPlainFields
  nodup : (ctx.catalog.shapes.map (·.name)).Nodup
  shapes : List.Forall₂ (ShapeInfo.InlinesData d) ctx.catalog.shapes ctx'.catalog.shapes
  fields : ∀ s ∈ ctx.catalog.shapes, (s.fields.map MergedField.name).Nodup
  plain : ∀ t owner path, ctx.catalog.Reads t owner path → t.HasPlainFields
  comments : ctx.OwnComments own
  comments' : ctx'.OwnComments own'
  /-- At each place both find the same, or both read fields with their own comments from there on. -/
  same : ∀ owner path, ctx'.annotations.get? owner path = ctx.annotations.get? owner path ∨
    own owner path ∧ own' owner path
  declaration : ∀ name, ctx'.annotations.declaration? name = ctx.annotations.declaration? name
  /-- Where references are replaced, fields are read with their own comments. -/
  changed : ∀ s ∈ ctx.catalog.shapes, ∀ s' ∈ ctx'.catalog.shapes, ∀ m ∈ s.fields, ∀ m' ∈ s'.fields,
    m.InlinesData d m' → m' = m ∨ own' m.owner m.name
  /-- The shape has its own fields only, and they are read with their own comments. -/
  self : ∃ s, ctx.catalog.get? d.name = some s ∧ s.isObjectLike = true ∧
    s.fields = d.type.objectFields.map fun f => ⟨f, d.name⟩
  selfOwn : ∀ path, own d.name path
  finite : ¬ctx.catalog.IsRecursive d.name

/-- A type with references replaced, or the same type. A condition holds if it is not the same. -/
def Syntax.TypeExpr.Alike (d : ShapeDecl) (P : Prop) (t t' : TypeExpr) : Prop :=
  t' = t ∨ t.Inlines d t' ∧ P

def Syntax.FieldOf.Alike (d : ShapeDecl) (P : Prop) (f f' : Field) : Prop :=
  f' = f ∨ FieldOf.Inlines d f f' ∧ P

/-- Two places that are one, or from which on fields are read with their own comments. -/
def SamePlace (own own' : String → String → Prop) (owner path owner' path' : String) : Prop :=
  owner' = owner ∧ path' = path ∨ own owner path ∧ own' owner' path'

namespace Syntax.TypeExpr.Alike

variable {P Q : Prop} {span : Span} {u : TypeExpr}

theorem mono {t t' : TypeExpr} (h : t.Alike d P t') (hPQ : P → Q) : t.Alike d Q t' :=
  h.imp_right fun ⟨hin, hP⟩ => ⟨hin, hPQ hP⟩

theorem inlines {t t' : TypeExpr} (h : t.Alike d P t') : t.Inlines d t' := by
  rcases h with rfl | ⟨hin, -⟩
  · exact .same _
  · exact hin

theorem array {t : TypeExpr} (h : (TypeExpr.array span t).Alike d P u) :
    ∃ t', u = .array span t' ∧ t.Alike d P t' := by
  rcases h with rfl | ⟨hin, hP⟩
  · exact ⟨t, rfl, .inl rfl⟩
  · obtain ⟨t', rfl, ht⟩ := inlines_array hin
    exact ⟨t', rfl, .inr ⟨ht, hP⟩⟩

theorem object {fields : List Field} {skipped : List SkippedMember}
    (h : (TypeExpr.object span fields skipped).Alike d P u) :
    ∃ fields', u = .object span fields' skipped ∧ List.Forall₂ (FieldOf.Alike d P) fields fields' := by
  rcases h with rfl | ⟨hin, hP⟩
  · exact ⟨fields, rfl, List.forall₂_same.mpr fun _ _ => .inl rfl⟩
  · obtain ⟨fields', rfl, hfields⟩ := inlines_object hin
    exact ⟨fields', rfl, hfields.imp fun _ _ hf => .inr ⟨hf, hP⟩⟩

theorem union {members : List TypeExpr} (h : (TypeExpr.union span members).Alike d P u) :
    ∃ members', u = .union span members' ∧ List.Forall₂ (TypeExpr.Alike d P) members members' := by
  rcases h with rfl | ⟨hin, hP⟩
  · exact ⟨members, rfl, List.forall₂_same.mpr fun _ _ => .inl rfl⟩
  · obtain ⟨members', rfl, hmembers⟩ := inlines_union hin
    exact ⟨members', rfl, hmembers.imp fun _ _ ht => .inr ⟨ht, hP⟩⟩

theorem argument {name : String} {item : TypeExpr}
    (h : (TypeExpr.reference span name [item]).Alike d P u) :
    ∃ item', u = .reference span name [item'] ∧ item.Alike d P item' := by
  rcases h with rfl | ⟨hin, hP⟩
  · exact ⟨item, rfl, .inl rfl⟩
  · cases hin with
    | same => exact ⟨item, rfl, .inl rfl⟩
    | argument _ h => exact ⟨_, rfl, .inr ⟨h, hP⟩⟩

/-- A reference that is no list stays, or the shape's type stands in its place. -/
theorem reference {name : String} {args : List TypeExpr}
    (hname : ∀ item, args = [item] → TypePath.isListName name = false)
    (h : (TypeExpr.reference span name args).Alike d P u) :
    u = .reference span name args ∨ TypeExpr.lastSegment name = d.name ∧ u = d.type ∧ P := by
  rcases h with rfl | ⟨hin, hP⟩
  · exact .inl rfl
  · cases hin with
    | same => exact .inl rfl
    | here hsegment => exact .inr ⟨hsegment, rfl, hP⟩
    | argument hlist =>
      rw [hname _ rfl] at hlist
      cases hlist

end Syntax.TypeExpr.Alike

namespace TypeContext.Inlines

variable {own own' : String → String → Prop} {ctx ctx' : TypeContext}
  (h : ctx.Inlines d own own' ctx')

include h

theorem rel_get? (name : String) :
    Option.Rel (ShapeInfo.InlinesData d) (ctx.catalog.get? name) (ctx'.catalog.get? name) :=
  rel_find? (fun _ _ hs => by rw [hs.name]) h.shapes

theorem exists_get? {name : String} {s : ShapeInfo} (hs : ctx.catalog.get? name = some s) :
    ∃ s', ctx'.catalog.get? name = some s' ∧ s.InlinesData d s' :=
  exists_of_rel_some (h.rel_get? name) hs

theorem get?_eq_none {name : String} (hs : ctx.catalog.get? name = none) :
    ctx'.catalog.get? name = none :=
  eq_none_of_rel (h.rel_get? name) hs

theorem names : ctx'.catalog.shapes.map (·.name) = ctx.catalog.shapes.map (·.name) :=
  map_eq_of_forall₂ (fun _ _ => ShapeInfo.InlinesData.name) h.shapes

theorem nodup' : (ctx'.catalog.shapes.map (·.name)).Nodup := by
  rw [h.names]
  exact h.nodup

/-- Fields with the same comment at such places have the same annotation. -/
theorem get?_eq {g g' : Field} {owner path owner' path' : String}
    (hg : ctx.catalog.LooksUp g owner path) (hg' : ctx'.catalog.LooksUp g' owner' path')
    (hdoc : g'.doc? = g.doc?) (hplace : SamePlace own own' owner path owner' path') :
    ctx'.annotations.get? owner' path' = ctx.annotations.get? owner path := by
  have hboth : own owner path → own' owner' path' →
      ctx'.annotations.get? owner' path' = ctx.annotations.get? owner path := by
    intro hown hown'
    rw [h.comments.get? g owner path hg hown, h.comments'.get? g' owner' path' hg' hown', hdoc]
  rcases hplace with ⟨rfl, rfl⟩ | ⟨hown, hown'⟩
  · rcases h.same owner' path' with heq | ⟨hown, hown'⟩
    · exact heq
    · exact hboth hown hown'
  · exact hboth hown hown'

end TypeContext.Inlines

namespace SamePlace

variable {own own' : String → String → Prop} {ctx ctx' : TypeContext}
  {owner path owner' path' : String} (hplace : SamePlace own own' owner path owner' path')

include hplace

theorem item (hown : ctx.OwnComments own) (hown' : ctx'.OwnComments own') :
    SamePlace own own' owner (TypePath.item path) owner' (TypePath.item path') := by
  rcases hplace with ⟨rfl, rfl⟩ | ⟨h, h'⟩
  · exact .inl ⟨rfl, rfl⟩
  · exact .inr ⟨hown.item _ _ h, hown'.item _ _ h'⟩

theorem field (hown : ctx.OwnComments own) (hown' : ctx'.OwnComments own') {name : String}
    (hname : TypePath.IsPlain name) :
    SamePlace own own' owner (TypePath.field path name) owner' (TypePath.field path' name) := by
  rcases hplace with ⟨rfl, rfl⟩ | ⟨h, h'⟩
  · exact .inl ⟨rfl, rfl⟩
  · exact .inr ⟨hown.field _ _ _ hname h, hown'.field _ _ _ hname h'⟩

end SamePlace

/-! ## 3. Readings that correspond -/

namespace Syntax.FieldOf.Alike

variable {P Q : Prop} {f f' : Field}

theorem mono (h : FieldOf.Alike d P f f') (hPQ : P → Q) : FieldOf.Alike d Q f f' :=
  h.imp_right fun ⟨hin, hP⟩ => ⟨hin, hPQ hP⟩

theorem name (h : FieldOf.Alike d P f f') : f'.name = f.name := by
  rcases h with rfl | ⟨hin, -⟩
  · rfl
  · exact hin.name

theorem doc? (h : FieldOf.Alike d P f f') : f'.doc? = f.doc? := by
  rcases h with rfl | ⟨hin, -⟩
  · rfl
  · cases hin <;> rfl

theorem isOptional (h : FieldOf.Alike d P f f') : f'.isOptional = f.isOptional := by
  rcases h with rfl | ⟨hin, -⟩
  · rfl
  · cases hin <;> rfl

theorem type? (h : FieldOf.Alike d P f f') : Option.Rel (TypeExpr.Alike d P) f.type? f'.type? := by
  rcases h with rfl | ⟨hin, hP⟩
  · cases f'.type? with
    | none => exact .none
    | some t => exact .some (.inl rfl)
  · cases hin with
    | same =>
      cases f.type? with
      | none => exact .none
      | some t => exact .some (.inl rfl)
    | typed ht htt' =>
      rw [ht]
      exact .some (.inr ⟨htt', hP⟩)

end Syntax.FieldOf.Alike

open TypeSchema

section

variable {own own' : String → String → Prop} {ctx ctx' : TypeContext} {σ σ' : List String}

/-- A type is read before the replacement as another one is read after it. -/
structure Corresponds (d : ShapeDecl) (own own' : String → String → Prop) (ctx ctx' : TypeContext)
    (σ σ' : List String) (t : TypeExpr) (owner path : String) (t' : TypeExpr)
    (owner' path' : String) : Prop where
  type : t.Alike d (own' owner' path') t'
  place : SamePlace own own' owner path owner' path'
  reads : ctx.catalog.Reads t owner path
  reads' : ctx'.catalog.Reads t' owner' path'
  agree : StacksAgree ctx.catalog d σ σ' t

/-- So is a field. -/
structure FieldsCorrespond (d : ShapeDecl) (own own' : String → String → Prop)
    (ctx ctx' : TypeContext) (σ σ' : List String) (place place' : Field × String × String) : Prop where
  field : FieldOf.Alike d (own' place'.2.1 place'.2.2) place.1 place'.1
  same : SamePlace own own' place.2.1 place.2.2 place'.2.1 place'.2.2
  looksUp : ctx.catalog.LooksUp place.1 place.2.1 place.2.2
  looksUp' : ctx'.catalog.LooksUp place'.1 place'.2.1 place'.2.2
  agree : ∀ t ∈ place.1.type?, StacksAgree ctx.catalog d σ σ' t

theorem FieldsCorrespond.corresponds {place place' : Field × String × String}
    (hplace : FieldsCorrespond d own own' ctx ctx' σ σ' place place') {t t' : TypeExpr}
    (ht : t ∈ place.1.type?) (ht' : t' ∈ place'.1.type?)
    (halike : t.Alike d (own' place'.2.1 place'.2.2) t') :
    Corresponds d own own' ctx ctx' σ σ' t place.2.1 place.2.2 t' place'.2.1 place'.2.2 :=
  ⟨halike, hplace.same, .declared hplace.looksUp ht, .declared hplace.looksUp' ht', hplace.agree t ht⟩

theorem isLast_of_nodup {α : Type} {name : α → String} {l : List α} (hn : (l.map name).Nodup) {a : α}
    (ha : a ∈ l) : IsLast name l a := by
  refine (Keyed.find?_eq_some_iff ?_).mpr ⟨List.mem_reverse.mpr ha, rfl⟩
  rwa [List.map_reverse, List.nodup_reverse]

/-- A field of a shape is read as the one of the shape after the replacement. -/
theorem fieldsCorrespond_of_merged (h : ctx.Inlines d own own' ctx') {s s' : ShapeInfo}
    (hs : s ∈ ctx.catalog.shapes) (hs' : s' ∈ ctx'.catalog.shapes) {m m' : MergedField}
    (hm : m ∈ s.fields) (hm' : m' ∈ s'.fields) (hmm' : m.InlinesData d m')
    (hagree : ∀ t ∈ m.field.type?, StacksAgree ctx.catalog d σ σ' t) :
    FieldsCorrespond d own own' ctx ctx' σ σ' (m.field, m.owner, m.name) (m'.field, m'.owner, m'.name) := by
  have halike : FieldOf.Alike d (own' m.owner m.name) m.field m'.field :=
    (h.changed s hs s' hs' m hm m' hm' hmm').imp (congrArg _) fun hown => ⟨hmm'.field.inlines, hown⟩
  have hlooks' : ctx'.catalog.LooksUp m'.field m'.owner m'.name := .merged hs' hm'
  rw [hmm'.owner, hmm'.name] at hlooks' ⊢
  exact ⟨halike, .inl ⟨rfl, rfl⟩, .merged hs hm, hlooks', hagree⟩

namespace Corresponds

variable {owner path owner' path' : String} {u : TypeExpr} {span : Span}
  (h : ctx.Inlines d own own' ctx')

include h

theorem array {item : TypeExpr}
    (hr : Corresponds d own own' ctx ctx' σ σ' (.array span item) owner path u owner' path') :
    ∃ item', u = .array span item' ∧ Corresponds d own own' ctx ctx' σ σ' item owner
      (TypePath.item path) item' owner' (TypePath.item path') := by
  obtain ⟨item', rfl, halike⟩ := hr.type.array
  exact ⟨item', rfl, halike.mono (h.comments'.item _ _), hr.place.item h.comments h.comments',
    hr.reads.item, hr.reads'.item, hr.agree.inside (.item .here)⟩

theorem argument {name : String} {item : TypeExpr} (hlist : TypePath.isListName name = true)
    (hr : Corresponds d own own' ctx ctx' σ σ' (.reference span name [item]) owner path u owner' path') :
    ∃ item', u = .reference span name [item'] ∧ Corresponds d own own' ctx ctx' σ σ' item owner
      (TypePath.item path) item' owner' (TypePath.item path') := by
  obtain ⟨item', rfl, halike⟩ := hr.type.argument
  exact ⟨item', rfl, halike.mono (h.comments'.item _ _), hr.place.item h.comments h.comments',
    .argument hlist hr.reads, .argument hlist hr.reads', hr.agree.inside (.argument hlist .here)⟩

theorem object {fields : List Field} {skipped : List SkippedMember}
    (hr : Corresponds d own own' ctx ctx' σ σ' (.object span fields skipped) owner path u owner' path') :
    ∃ fields', u = .object span fields' skipped ∧
      List.Forall₂ (FieldsCorrespond d own own' ctx ctx' σ σ') (placesOf owner path fields)
        (placesOf owner' path' fields') := by
  obtain ⟨fields', rfl, hfields⟩ := hr.type.object
  obtain ⟨hnames, hdistinct⟩ := h.plain _ _ _ hr.reads
  refine ⟨fields', rfl, ?_⟩
  rw [placesOf, placesOf, List.forall₂_map_left_iff, List.forall₂_map_right_iff]
  refine (forall₂_mem hfields).imp ?_
  rintro f f' ⟨hf, hf', halike⟩
  have hown := h.comments'.field owner' path' f.name (hnames f hf)
  have hlooks' : ctx'.catalog.LooksUp f' owner' (TypePath.field path' f'.name) := .nested hr.reads' hf'
  rw [halike.name] at hlooks' ⊢
  exact ⟨halike.mono hown, hr.place.field h.comments h.comments' (hnames f hf), .nested hr.reads hf,
    hlooks', fun t ht => hr.agree.inside (.field (isLast_of_nodup hdistinct hf) ht .here)⟩

omit h in
theorem union {members : List TypeExpr}
    (hr : Corresponds d own own' ctx ctx' σ σ' (.union span members) owner path u owner' path') :
    ∃ members', u = .union span members' ∧
      List.Forall₂ (TypeExpr.Alike d (own' owner' path')) members members' ∧
      ∀ t t', kept members = [t] → kept members' = [t'] → t.Alike d (own' owner' path') t' →
        Corresponds d own own' ctx ctx' σ σ' t owner path t' owner' path' := by
  obtain ⟨members', rfl, hmembers⟩ := hr.type.union
  refine ⟨members', rfl, hmembers, fun t t' hkept hkept' halike => ?_⟩
  exact ⟨halike, hr.place, .kept hkept hr.reads, .kept hkept' hr.reads', hr.agree.inside (.kept hkept .here)⟩

section

variable {t : TypeExpr} {s : ShapeInfo} (hs : ctx.catalog.Names t s)
  (hr : Corresponds d own own' ctx ctx' σ σ' t owner path u owner' path')

include hs hr

/-- The fields of a shape are read as those of the shape after the replacement. -/
theorem fields {s' : ShapeInfo} (hs' : ctx'.catalog.get? s.name = some s') (hss' : s.InlinesData d s')
    (hobject : s.isObjectLike = true) :
    List.Forall₂ (FieldsCorrespond d own own' ctx ctx' (s.name :: σ) (s.name :: σ'))
      (mergedPlaces s.fields) (mergedPlaces s'.fields) := by
  have hmem := List.mem_of_find?_eq_some hs.get?_self
  rw [mergedPlaces, mergedPlaces, List.forall₂_map_left_iff, List.forall₂_map_right_iff]
  refine (forall₂_mem hss'.fields).imp ?_
  rintro m m' ⟨hm, hm', hmm'⟩
  exact fieldsCorrespond_of_merged h hmem (List.mem_of_find?_eq_some hs') hm hm' hmm' fun t ht =>
    hr.agree.expand h.finite hs (.field hobject (isLast_of_nodup (h.fields s hmem) hm) ht)

/-- What an alias without fields stands for is read as before. -/
theorem aliased {s' : ShapeInfo} (hs' : ctx'.catalog.get? s.name = some s') (hss' : s.InlinesData d s')
    (hobject : s.isObjectLike = false) : Corresponds d own own' ctx ctx' (s.name :: σ) (s.name :: σ')
      s.decl.type s.name "" s'.decl.type s.name "" := by
  have hmem := List.mem_of_find?_eq_some hs.get?_self
  have hmem' := List.mem_of_find?_eq_some hs'
  have hreads' : ctx'.catalog.Reads s'.decl.type s'.name "" :=
    .alias hmem' (hss'.isObjectLike.trans hobject)
  rw [hss'.name] at hreads'
  exact ⟨.inl (congrArg _ (hss'.plain hobject)), .inl ⟨rfl, rfl⟩, .alias hmem hobject, hreads',
    hr.agree.expand h.finite hs (.type hobject)⟩

end

/-- The fields of the shape are read as those of its type in the place of a reference. -/
theorem here {t : TypeExpr} {s : ShapeInfo} (hs : ctx.catalog.Names t s) (hname : s.name = d.name)
    {fields : List Field} {skipped : List SkippedMember} (htype : d.type = .object span fields skipped)
    (hr : Corresponds d own own' ctx ctx' σ σ' t owner path d.type owner' path')
    (hown : own' owner' path') : s.isObjectLike = true ∧
      List.Forall₂ (FieldsCorrespond d own own' ctx ctx' (s.name :: σ) σ')
        (mergedPlaces s.fields) (placesOf owner' path' fields) := by
  obtain ⟨self, hself, hobject, hfields⟩ := h.self
  obtain rfl : self = s := by
    have hget := hs.get?_self
    rw [hname, hself] at hget
    exact Option.some_inj.mp hget
  have hmem := List.mem_of_find?_eq_some hself
  have hplain := h.plainObject
  have hreads' := hr.reads'
  rw [htype] at hplain hreads' hfields
  change self.fields = fields.map _ at hfields
  refine ⟨hobject, ?_⟩
  rw [mergedPlaces, placesOf, hfields, List.map_map, List.forall₂_map_left_iff,
    List.forall₂_map_right_iff, List.forall₂_same]
  intro f hf
  have hm : (⟨f, d.name⟩ : MergedField) ∈ self.fields := hfields ▸ List.mem_map_of_mem hf
  exact ⟨.inl rfl, .inr ⟨h.selfOwn _, h.comments'.field _ _ _ (hplain.1 f hf) hown⟩, .merged hmem hm,
    .nested hreads' hf, fun t ht => hr.agree.expand_left h.finite hs
      (.field hobject (isLast_of_nodup (h.fields self hmem) hm) ht) hname⟩

end Corresponds

end

/-! ## 4. The same schemas -/

namespace TypeSchema

/-- What tags make of a schema does not depend on how findings name it. -/
theorem value_withTags (tags : TagSet) (subject other : String) (s : Schema) :
    (s.withTags tags subject).value = (s.withTags tags other).value := by
  unfold Schema.withTags
  cases tags.enumValues? with
  | none =>
    rw [Noted.value_bind, Noted.value_bind, Schema.value_withBounds, Schema.value_withBounds]
  | some tag =>
    rw [Noted.value_bind, Noted.value_bind, Schema.value_withBounds, Schema.value_withBounds]
    have hvalues : (s.withValues tag subject).value = (s.withValues tag other).value := by
      unfold Schema.withValues
      split <;> first | rfl | (split <;> rfl)
    rw [hvalues]

/-- Fields with the same annotation and schema are the same. -/
theorem value_field_congr {annotations annotations' : AnnotationTable}
    {owner path owner' path' : String}
    (h : annotations'.get? owner' path' = annotations.get? owner path) (name : String)
    (mayBeMissing : Bool) (t : TypeSchema) :
    (field annotations' owner' path' name mayBeMissing t).value =
      (field annotations owner path name mayBeMissing t).value := by
  cases hget : annotations.get? owner path with
  | none => rw [field_of_none hget, field_of_none (h.trans hget)]
  | some note =>
    rw [value_field_of_some hget, value_field_of_some (h.trans hget),
      value_withTags note.tags (subject owner' path') (subject owner path)]

section

variable {P : Prop} {members members' : List TypeExpr} (hd : d.type.IsObject)
  (h : List.Forall₂ (TypeExpr.Alike d P) members members')

include hd h

theorem kept_alike : List.Forall₂ (TypeExpr.Alike d P) (kept members) (kept members') := by
  refine List.rel_filter (fun t t' ht => ?_) h
  dsimp only
  rw [ht.inlines.isNullType_eq hd, ht.inlines.isUndefinedType_eq hd]

theorem any_isUndefinedType_eq : members'.any isUndefinedType = members.any isUndefinedType := by
  have hmap := map_eq_of_forall₂ (fun _ _ ht => ht.inlines.isUndefinedType_eq hd) h
  change members'.any (id ∘ isUndefinedType) = members.any (id ∘ isUndefinedType)
  rw [← List.any_map, hmap, List.any_map]

/-- Only texts and other literals count in a union of several types. -/
theorem value_ofMembers_eq (span span' : Span) :
    (ofMembers span' members').value = (ofMembers span members).value := by
  have htexts : members'.map (·.string?) = members.map (·.string?) :=
    map_eq_of_forall₂ (fun _ _ ht => ht.inlines.string?_eq hd) h
  have hall : members'.all (·.string?.isSome) = members.all (·.string?.isSome) := by
    change members'.all (Option.isSome ∘ (·.string?)) = members.all (Option.isSome ∘ (·.string?))
    rw [← List.all_map, htexts, List.all_map]
  have hvalues : members'.filterMap (·.string?) = members.filterMap (·.string?) := by
    change members'.filterMap (id ∘ (·.string?)) = members.filterMap (id ∘ (·.string?))
    rw [← List.filterMap_map, htexts, List.filterMap_map]
  have hbooleans : members'.all isBooleanType = members.all isBooleanType := by
    have hmap := map_eq_of_forall₂ (fun _ _ ht => ht.inlines.isBooleanType_eq hd) h
    change members'.all (id ∘ isBooleanType) = members.all (id ∘ isBooleanType)
    rw [← List.all_map, hmap, List.all_map]
  have hnumbers : members'.all isNumberLiteral = members.all isNumberLiteral := by
    have hmap := map_eq_of_forall₂ (fun _ _ ht => ht.inlines.isNumberLiteral_eq hd) h
    change members'.all (id ∘ isNumberLiteral) = members.all (id ∘ isNumberLiteral)
    rw [← List.all_map, hmap, List.all_map]
  unfold ofMembers
  rw [hall, hvalues, hbooleans, hnumbers]
  split
  · rfl
  · split
    · rfl
    · split <;> rfl

end

variable {own own' : String → String → Prop} {ctx ctx' : TypeContext}

section

variable {σ σ' : List String} (h : ctx.Inlines d own own' ctx')

include h

/-- Fields that correspond are the same if their types have the same schema. -/
theorem fieldAt_eq {free free' : List String} {place place' : Field × String × String}
    (hplace : FieldsCorrespond d own own' ctx ctx' σ σ' place place')
    (htype : ∀ t ∈ place.1.type?, ∀ t', Corresponds d own own' ctx ctx' σ σ' t place.2.1 place.2.2 t'
        place'.2.1 place'.2.2 →
      (ofType ctx' free' place'.2.1 place'.2.2 t').value =
        (ofType ctx free place.2.1 place.2.2 t).value) :
    fieldAt ctx' free' place' = fieldAt ctx free place := by
  obtain ⟨f, owner, path⟩ := place
  obtain ⟨f', owner', path'⟩ := place'
  have hread := fun t ht t' ht' halike => htype t ht t' (hplace.corresponds ht ht' halike)
  obtain ⟨halike, hsame, hlooks, hlooks', -⟩ := hplace
  dsimp only at halike hsame hlooks hlooks' hread
  rw [fieldAt, fieldAt, value_ofField, value_ofField]
  dsimp only
  have hget := h.get?_eq hlooks hlooks' halike.doc? hsame
  have hdeclared : (ofDeclared ctx' free' owner' path' f'.type?).value =
      (ofDeclared ctx free owner path f.type?).value := by
    cases ht : f.type? with
    | none => rw [eq_none_of_rel halike.type? ht, ofDeclared, ofDeclared]
    | some t =>
      obtain ⟨t', ht', htt'⟩ := exists_of_rel_some halike.type? ht
      rw [ht', ofDeclared, ofDeclared]
      exact hread t ht t' ht' htt'
  rw [hdeclared, halike.name, halike.isOptional]
  exact value_field_congr hget ..

/-- Objects whose fields correspond are the same. -/
theorem map_fieldAt_eq {free free' : List String} {places places' : List (Field × String × String)}
    (hplaces : List.Forall₂ (FieldsCorrespond d own own' ctx ctx' σ σ') places places')
    (htype : ∀ place ∈ places, ∀ t ∈ place.1.type?, ∀ t' owner' path',
      Corresponds d own own' ctx ctx' σ σ' t place.2.1 place.2.2 t' owner' path' →
        (ofType ctx' free' owner' path' t').value = (ofType ctx free place.2.1 place.2.2 t).value) :
    places'.map (fieldAt ctx' free') = places.map (fieldAt ctx free) :=
  map_eq_of_forall₂ (fun place _ hplace => fieldAt_eq h hplace.2.2 fun t ht t' =>
    htype place hplace.1 t ht t' _ _) (forall₂_mem hplaces)

end

theorem withDeclarationTags_eq (h : ctx.Inlines d own own' ctx') (name : String) (t : TypeSchema) :
    withDeclarationTags ctx' name t = withDeclarationTags ctx name t := by
  unfold withDeclarationTags
  rw [h.declaration]

mutual

/-- **A type has the same schema after the replacement.** -/
theorem value_ofType_eq (h : ctx.Inlines d own own' ctx') (σ σ' : List String)
    {owner path owner' path' : String} (t : TypeExpr) {u : TypeExpr}
    (hr : Corresponds d own own' ctx ctx' σ σ' t owner path u owner' path') :
    (ofType ctx' (ctx'.catalog.unused σ') owner' path' u).value =
      (ofType ctx (ctx.catalog.unused σ) owner path t).value := by
  match t with
  | .array span item =>
    obtain ⟨item', rfl, hitem⟩ := hr.array h
    rw [value_ofType_array, value_ofType_array, value_ofType_eq h σ σ' item hitem]
  | .reference span name args =>
    by_cases hlist : ∃ item, args = [item] ∧ TypePath.isListName name = true
    · obtain ⟨item, rfl, hlist⟩ := hlist
      obtain ⟨item', rfl, hitem⟩ := hr.argument h hlist
      rw [value_ofType_argument hlist, value_ofType_argument hlist,
        value_ofType_eq h σ σ' item hitem]
    · have hname : ∀ item, args = [item] → TypePath.isListName name = false :=
        fun item hitem => by simpa using fun h => hlist ⟨item, hitem, h⟩
      rcases hr.type.reference hname with rfl | ⟨hsegment, rfl, hown⟩
      · rw [ofType_reference hname, ofType_reference hname]
        exact value_ofName_eq h σ σ' hname hr
      · -- the shape's own type stands in the place of the reference
        obtain ⟨s, hs, -, -⟩ := h.self
        obtain ⟨_, fields, skipped, htype⟩ := h.object
        have hget : ctx.catalog.get? (TypeExpr.lastSegment name) = some s := by rw [hsegment, hs]
        have hnames : ctx.catalog.Names (.reference span name args) s :=
          ⟨span, name, args, rfl, hname, hget⟩
        have hsame := ShapeCatalog.name_of_get? hs
        have hstack : s.name ∉ σ :=
          hsame ▸ hr.agree.free (.of_names hnames (hsame ▸ .refl))
        have hless := ShapeCatalog.length_unused_cons h.nodup hget hstack
        obtain ⟨hobject, hfields⟩ := hr.here h hnames hsame htype hown
        rw [ofType_reference hname,
          value_ofName_fields hget ((ShapeCatalog.mem_unused hget).mpr hstack) hobject,
          ShapeCatalog.erase_unused h.nodup, htype, value_ofType_object, map_fieldAt_eq h hfields]
        exact fun _ _ t _ _ _ _ hr => value_ofType_eq h (s.name :: σ) σ' t hr
  | .object span fields skipped =>
    obtain ⟨fields', rfl, hfields⟩ := hr.object h
    rw [value_ofType_object, value_ofType_object, map_fieldAt_eq h hfields]
    intro place hplace t ht t' owner' path' hr
    obtain ⟨f, hf, rfl⟩ := List.mem_map.mp hplace
    have := sizeOf_lt_of_field hf ht
    exact value_ofType_eq h σ σ' t hr
  | .union span members =>
    obtain ⟨members', rfl, hmembers, hsingle⟩ := hr.union
    have hkept := kept_alike h.object hmembers
    have hany := any_isUndefinedType_eq h.object hmembers
    match heq : kept members, heq' : kept members' with
    | [], [] => rw [value_ofType_empty heq, value_ofType_empty heq', hany]
    | [single], [single'] =>
      have := sizeOf_lt_of_kept heq
      rw [heq, heq'] at hkept
      have hread := hsingle single single' heq heq' (List.forall₂_cons.mp hkept).1
      rw [value_ofType_single heq, value_ofType_single heq', hany,
        value_ofType_eq h σ σ' single hread]
    | first :: second :: rest, first' :: second' :: rest' =>
      rw [heq, heq'] at hkept
      rw [value_ofType_several heq, value_ofType_several heq', hany,
        value_ofMembers_eq h.object hkept first.span]
    | [], _ :: _ | _ :: _, [] | [_], _ :: _ :: _ | _ :: _ :: _, [_] =>
      rw [heq, heq'] at hkept
      simp at hkept
  | .keyword _ _ | .literal _ _ | .tuple _ _ | .intersection _ _ | .function _ | .other _ _ =>
    have hin := hr.type.inlines
    cases hin
    rw [ofType, ofType]
termination_by ((ctx.catalog.unused σ).length, sizeOf t)

/-- So has a name that stays. -/
theorem value_ofName_eq (h : ctx.Inlines d own own' ctx') (σ σ' : List String)
    {owner path owner' path' : String} {span : Span} {name : String} {args : List TypeExpr}
    (hname : ∀ item, args = [item] → TypePath.isListName name = false)
    (hr : Corresponds d own own' ctx ctx' σ σ' (.reference span name args) owner path
      (.reference span name args) owner' path') :
    (ofName ctx' (ctx'.catalog.unused σ') span name).value =
      (ofName ctx (ctx.catalog.unused σ) span name).value := by
  match hs : ctx.catalog.get? (TypeExpr.lastSegment name) with
  | none => rw [ofName_foreign hs, ofName_foreign (h.get?_eq_none hs)]
  | some s =>
    obtain ⟨s', hs', hss'⟩ := h.exists_get? hs
    have hnames : ctx.catalog.Names (.reference span name args) s := ⟨span, name, args, rfl, hname, hs⟩
    have hself' : ctx'.catalog.get? s.name = some s' := by rw [← hss'.name, ShapeCatalog.get?_self hs']
    have hstacks : s'.name ∈ σ' ↔ s.name ∈ σ := by
      rw [hss'.name]
      exact hr.agree.mem_iff s.name (.of_names hnames .refl)
    by_cases hstack : s.name ∈ σ
    · rw [value_ofName_cut hs fun hfree => (ShapeCatalog.mem_unused hs).mp hfree hstack,
        value_ofName_cut hs' fun hfree => (ShapeCatalog.mem_unused hs').mp hfree (hstacks.mpr hstack),
        hss'.name]
    · have hless := ShapeCatalog.length_unused_cons h.nodup hs hstack
      have hfree := (ShapeCatalog.mem_unused hs).mpr hstack
      have hfree' := (ShapeCatalog.mem_unused hs').mpr (mt hstacks.mp hstack)
      cases hobject : s.isObjectLike with
      | true =>
        rw [value_ofName_fields hs hfree hobject,
          value_ofName_fields hs' hfree' (hss'.isObjectLike.trans hobject),
          ShapeCatalog.erase_unused h.nodup, ShapeCatalog.erase_unused h.nodup', hss'.name,
          map_fieldAt_eq h (hr.fields h hnames hself' hss' hobject)]
        exact fun _ _ t _ _ _ _ hr => value_ofType_eq h (s.name :: σ) (s.name :: σ') t hr
      | false =>
        rw [value_ofName_type hs hfree hobject,
          value_ofName_type hs' hfree' (hss'.isObjectLike.trans hobject),
          ShapeCatalog.erase_unused h.nodup, ShapeCatalog.erase_unused h.nodup', hss'.name,
          value_ofType_eq h (s.name :: σ) (s.name :: σ') s.decl.type
            (hr.aliased h hnames hself' hss' hobject), withDeclarationTags_eq h]
termination_by ((ctx.catalog.unused σ).length, 0)

end

end TypeSchema

/-! ## 5. Fields of declarations -/

namespace ShapeInfo

/-- The schema of a declaration's field is the one that the field has in an object. -/
theorem value_schemaOf (ctx : TypeContext) (s : ShapeInfo) (m : MergedField) :
    (s.schemaOf ctx m).value = (fieldAt ctx (s.others ctx) (m.field, m.owner, m.name)).schema := by
  unfold schemaOf
  rw [fieldAt, value_ofField, Noted.value_bind]
  dsimp only
  cases hget : ctx.annotations.get? m.owner m.name with
  | none =>
    rw [field_of_none hget]
    rfl
  | some note =>
    rw [value_field_of_some hget]
    rfl

/-- **A declaration's field has the same schema after the replacement.** -/
theorem value_schemaOf_eq {own own' : String → String → Prop} {ctx ctx' : TypeContext}
    (h : ctx.Inlines d own own' ctx') {s s' : ShapeInfo} (hs : s ∈ ctx.catalog.shapes)
    (hs' : s' ∈ ctx'.catalog.shapes) (hss' : s.InlinesData d s') {m m' : MergedField} (hm : m ∈ s.fields)
    (hm' : m' ∈ s'.fields) (hmm' : m.InlinesData d m') :
    (s'.schemaOf ctx' m').value = (s.schemaOf ctx m).value := by
  have hget : ctx.catalog.get? s.name = some s := (Keyed.find?_eq_some_iff h.nodup).mpr ⟨hs, rfl⟩
  obtain ⟨self, hself, hobject, -⟩ := h.self
  have hagree : ∀ t ∈ m.field.type?, StacksAgree ctx.catalog d [s.name] [s.name] t := fun t ht =>
    .root hget h.finite fun hname => by
      obtain rfl : self = s := by
        rw [← hname, hget] at hself
        exact (Option.some_inj.mp hself).symm
      exact .field hobject (isLast_of_nodup (h.fields self hs) hm) ht
  have hplaces := fieldsCorrespond_of_merged h hs hs' hm hm' hmm' hagree
  rw [value_schemaOf, value_schemaOf, others_eq_unused h.nodup, others_eq_unused h.nodup', hss'.name,
    fieldAt_eq h hplaces fun t _ t' hr => value_ofType_eq h [s.name] [s.name] t hr]

end ShapeInfo

end ServiceGraph
