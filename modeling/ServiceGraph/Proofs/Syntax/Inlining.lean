import ServiceGraph.Proofs.Annotation.Paths
import ServiceGraph.Proofs.Related
import ServiceGraph.Proofs.Shape.Catalog

/-!
Types in which references to a shape are replaced by the shape's own type.

`TypeExpr.Inlines d t t'` says that `t'` is `t` with any number of its references to the shape `d` replaced,
at any depth. A shape keeps all that decides what it is when references are replaced in the types
of the fields that only describe data (`ShapeDecl.InlinesData`): its name, its bases, the names and comments
of its fields, its ignored members. So does a file (`SourceFile.Inlines`).
-/

namespace ServiceGraph

open Syntax

namespace Syntax

/-! ## 1. Types -/

mutual

/-- A type in which some references to a shape are replaced by the shape's own type. -/
inductive TypeExpr.Inlines (d : ShapeDecl) : TypeExpr → TypeExpr → Prop
  | same (t : TypeExpr) : TypeExpr.Inlines d t t
  | here {span : Span} {name : String} (hname : TypeExpr.lastSegment name = d.name) :
    TypeExpr.Inlines d (.reference span name []) d.type
  | item {span : Span} {t t' : TypeExpr} (h : TypeExpr.Inlines d t t') :
    TypeExpr.Inlines d (.array span t) (.array span t')
  | argument {span : Span} {name : String} {t t' : TypeExpr}
    (hlist : TypePath.isListName name = true) (h : TypeExpr.Inlines d t t') :
    TypeExpr.Inlines d (.reference span name [t]) (.reference span name [t'])
  | object {span : Span} {fields fields' : List Field} {skipped : List SkippedMember}
    (h : InlinesFields d fields fields') :
    TypeExpr.Inlines d (.object span fields skipped) (.object span fields' skipped)
  | union {span : Span} {members members' : List TypeExpr} (h : InlinesMembers d members members') :
    TypeExpr.Inlines d (.union span members) (.union span members')

inductive InlinesFields (d : ShapeDecl) : List Field → List Field → Prop
  | nil : InlinesFields d [] []
  | untyped {f : Field} {rest rest' : List Field} (hf : f.type? = none)
    (h : InlinesFields d rest rest') : InlinesFields d (f :: rest) (f :: rest')
  | typed {f : Field} {t t' : TypeExpr} {rest rest' : List Field} (hf : f.type? = some t)
    (ht : TypeExpr.Inlines d t t') (h : InlinesFields d rest rest') :
    InlinesFields d (f :: rest) ({ f with type? := some t' } :: rest')

inductive InlinesMembers (d : ShapeDecl) : List TypeExpr → List TypeExpr → Prop
  | nil : InlinesMembers d [] []
  | cons {t t' : TypeExpr} {rest rest' : List TypeExpr} (ht : TypeExpr.Inlines d t t')
    (h : InlinesMembers d rest rest') : InlinesMembers d (t :: rest) (t' :: rest')

end

variable {d : ShapeDecl}

/-- A field in whose type references are replaced. -/
inductive FieldOf.Inlines (d : ShapeDecl) (f : Field) : Field → Prop
  | same : Inlines d f f
  | typed {t t' : TypeExpr} (hf : f.type? = some t) (ht : t.Inlines d t') :
    Inlines d f { f with type? := some t' }

theorem FieldOf.Inlines.name {f f' : Field} (h : FieldOf.Inlines d f f') : f'.name = f.name := by
  cases h <;> rfl

theorem InlinesFields.forall₂ : ∀ {fields fields' : List Field}, InlinesFields d fields fields' →
    List.Forall₂ (FieldOf.Inlines d) fields fields'
  | _, _, .nil => .nil
  | _, _, .untyped _ h => .cons .same h.forall₂
  | _, _, .typed hf ht h => .cons (.typed hf ht) h.forall₂

theorem InlinesMembers.forall₂ : ∀ {members members' : List TypeExpr},
    InlinesMembers d members members' → List.Forall₂ (TypeExpr.Inlines d) members members'
  | _, _, .nil => .nil
  | _, _, .cons ht h => .cons ht h.forall₂

namespace TypeExpr

theorem inlines_array {span : Span} {t u : TypeExpr} (h : (array span t).Inlines d u) :
    ∃ t', u = .array span t' ∧ t.Inlines d t' := by
  cases h with
  | same => exact ⟨t, rfl, .same t⟩
  | item h => exact ⟨_, rfl, h⟩

theorem inlines_object {span : Span} {fields : List Field} {skipped : List SkippedMember}
    {u : TypeExpr} (h : (object span fields skipped).Inlines d u) :
    ∃ fields', u = .object span fields' skipped ∧ List.Forall₂ (FieldOf.Inlines d) fields fields' := by
  cases h with
  | same => exact ⟨fields, rfl, List.forall₂_same.mpr fun _ _ => .same⟩
  | object h => exact ⟨_, rfl, h.forall₂⟩

theorem inlines_union {span : Span} {members : List TypeExpr} {u : TypeExpr}
    (h : (union span members).Inlines d u) :
    ∃ members', u = .union span members' ∧ List.Forall₂ (TypeExpr.Inlines d) members members' := by
  cases h with
  | same => exact ⟨members, rfl, List.forall₂_same.mpr fun t _ => .same t⟩
  | union h => exact ⟨_, rfl, h.forall₂⟩

/-- A predefined or a literal type. -/
def isAtom : TypeExpr → Bool
  | .keyword _ _ | .literal _ _ => true
  | _ => false

/-- The shape's own type is an object. -/
def IsObject (t : TypeExpr) : Prop := ∃ span fields skipped, t = .object span fields skipped

/-- Only types that are no atoms are replaced, and by such types. -/
theorem Inlines.eq_or_not_atom (hd : d.type.IsObject) {t t' : TypeExpr} (h : t.Inlines d t') :
    t' = t ∨ t.isAtom = false ∧ t'.isAtom = false := by
  cases h with
  | same => exact .inl rfl
  | here =>
    obtain ⟨span, fields, skipped, hd⟩ := hd
    exact .inr ⟨rfl, by rw [hd]; rfl⟩
  | _ => exact .inr ⟨rfl, rfl⟩

/-- What is the same for all types that are no atoms is the same after a replacement. -/
theorem Inlines.congr (hd : d.type.IsObject) {t t' : TypeExpr} (h : t.Inlines d t') {α : Type}
    (f : TypeExpr → α) (a : α) (hf : ∀ u, u.isAtom = false → f u = a) : f t' = f t := by
  rcases h.eq_or_not_atom hd with rfl | ⟨ht, ht'⟩
  · rfl
  · rw [hf t ht, hf t' ht']

section

variable (hd : d.type.IsObject) {t t' : TypeExpr} (h : t.Inlines d t')

include hd h

theorem Inlines.string?_eq : t'.string? = t.string? :=
  h.congr hd string? none fun u hu => by cases u <;> first | rfl | cases hu

theorem Inlines.isNullType_eq : TypeSchema.isNullType t' = TypeSchema.isNullType t :=
  h.congr hd _ false fun u hu => by cases u <;> first | rfl | cases hu

theorem Inlines.isUndefinedType_eq : TypeSchema.isUndefinedType t' = TypeSchema.isUndefinedType t :=
  h.congr hd _ false fun u hu => by cases u <;> first | rfl | cases hu

theorem Inlines.isBooleanType_eq : TypeSchema.isBooleanType t' = TypeSchema.isBooleanType t :=
  h.congr hd _ false fun u hu => by cases u <;> first | rfl | cases hu

theorem Inlines.isNumberLiteral_eq : TypeSchema.isNumberLiteral t' = TypeSchema.isNumberLiteral t :=
  h.congr hd _ false fun u hu => by cases u <;> first | rfl | cases hu

end

end TypeExpr

/-- An object type has plain fields if it has the names of one that has. -/
theorem TypeExpr.HasPlainFields.of_names {span : Span} {fields fields' : List Field}
    {skipped : List SkippedMember} (h : (TypeExpr.object span fields skipped).HasPlainFields)
    (hnames : fields'.map (·.name) = fields.map (·.name)) :
    (TypeExpr.object span fields' skipped).HasPlainFields := by
  refine ⟨fun f hf => ?_, by rw [hnames]; exact h.2⟩
  have hmem : f.name ∈ fields.map (·.name) := hnames ▸ List.mem_map_of_mem hf
  obtain ⟨g, hg, heq⟩ := List.mem_map.mp hmem
  exact heq ▸ h.1 g hg

mutual

/-- Replacements keep the fields of all objects plain. -/
theorem TypeExpr.Inlines.plain (hd : d.type.Everywhere TypeExpr.HasPlainFields) :
    ∀ {t t' : TypeExpr}, t.Inlines d t' → t.Everywhere TypeExpr.HasPlainFields →
      t'.Everywhere TypeExpr.HasPlainFields
  | _, _, .same _, ht => ht
  | _, _, .here _, _ => hd
  | _, _, .item h, ht => TypeExpr.everywhere_array trivial (h.plain hd ht.item)
  | _, _, .argument _ h, ht => TypeExpr.everywhere_reference trivial fun _ hu =>
      List.mem_singleton.mp hu ▸ h.plain hd (ht.argument List.mem_cons_self)
  | _, _, .object h, ht => TypeExpr.everywhere_object
      (ht.self.of_names (map_eq_of_forall₂ (fun _ _ => FieldOf.Inlines.name) h.forall₂))
      (h.plain hd fun _ hf _ hu => ht.field hf hu)
  | _, _, .union h, ht =>
      TypeExpr.everywhere_union trivial (h.plain hd fun _ hu => ht.unionMember hu)

theorem InlinesFields.plain (hd : d.type.Everywhere TypeExpr.HasPlainFields) :
    ∀ {fields fields' : List Field}, InlinesFields d fields fields' →
      (∀ f ∈ fields, ∀ t ∈ f.type?, t.Everywhere TypeExpr.HasPlainFields) →
      ∀ f ∈ fields', ∀ t ∈ f.type?, t.Everywhere TypeExpr.HasPlainFields
  | _, _, .nil, _ => by simp
  | _, _, .untyped _ h, hfields => List.forall_mem_cons.mpr
      ⟨hfields _ List.mem_cons_self,
        h.plain hd fun g hg => hfields g (List.mem_cons_of_mem _ hg)⟩
  | _, _, .typed hf ht h, hfields => List.forall_mem_cons.mpr
      ⟨fun _ hu => Option.some_inj.mp hu ▸ ht.plain hd (hfields _ List.mem_cons_self _ hf),
        h.plain hd fun g hg => hfields g (List.mem_cons_of_mem _ hg)⟩

theorem InlinesMembers.plain (hd : d.type.Everywhere TypeExpr.HasPlainFields) :
    ∀ {members members' : List TypeExpr}, InlinesMembers d members members' →
      (∀ t ∈ members, t.Everywhere TypeExpr.HasPlainFields) →
      ∀ t ∈ members', t.Everywhere TypeExpr.HasPlainFields
  | _, _, .nil, _ => by simp
  | _, _, .cons ht h, hmembers => List.forall_mem_cons.mpr
      ⟨ht.plain hd (hmembers _ List.mem_cons_self),
        h.plain hd fun u hu => hmembers u (List.mem_cons_of_mem _ hu)⟩

end

/-! ## 2. Shapes -/

/-- The fields whose types only describe data. -/
def dataFields : List String := ["params", "result", "args"]

/-- A field in whose type references are replaced, if it is one that describes data. -/
inductive FieldOf.InlinesData (d : ShapeDecl) (f : Field) : Field → Prop
  | same : InlinesData d f f
  | data {t t' : TypeExpr} (hname : f.name ∈ dataFields) (hf : f.type? = some t)
    (ht : t.Inlines d t') : InlinesData d f { f with type? := some t' }

/-- An object in whose fields references are replaced. -/
inductive TypeExpr.InlinesData (d : ShapeDecl) : TypeExpr → TypeExpr → Prop
  | same (t : TypeExpr) : InlinesData d t t
  | object {span : Span} {fields fields' : List Field} {skipped : List SkippedMember}
    (h : List.Forall₂ (FieldOf.InlinesData d) fields fields') :
    InlinesData d (.object span fields skipped) (.object span fields' skipped)

/-- A shape in whose own fields references are replaced. -/
inductive ShapeDecl.InlinesData (d e : ShapeDecl) : ShapeDecl → Prop
  | type {t' : TypeExpr} (h : e.type.InlinesData d t') : InlinesData d e { e with type := t' }
  | members {span : Span} {members members' : List TypeExpr} (hform : e.form = .alias)
    (htype : e.type = .intersection span members)
    (h : List.Forall₂ (TypeExpr.InlinesData d) members members') :
    InlinesData d e { e with type := .intersection span members' }

namespace FieldOf.InlinesData

variable {f f' : Field}

theorem name (h : FieldOf.InlinesData d f f') : f'.name = f.name := by
  cases h <;> rfl

theorem doc? (h : FieldOf.InlinesData d f f') : f'.doc? = f.doc? := by
  cases h <;> rfl

theorem span (h : FieldOf.InlinesData d f f') : f'.span = f.span := by
  cases h <;> rfl

theorem inlines (h : FieldOf.InlinesData d f f') : FieldOf.Inlines d f f' := by
  cases h with
  | same => exact .same
  | data _ hf ht => exact .typed hf ht

theorem plain (hd : d.type.Everywhere TypeExpr.HasPlainFields) (h : FieldOf.InlinesData d f f')
    (hf : ∀ t ∈ f.type?, t.Everywhere TypeExpr.HasPlainFields) :
    ∀ t ∈ f'.type?, t.Everywhere TypeExpr.HasPlainFields := by
  cases h with
  | same => exact hf
  | data _ htype ht => exact fun u hu => Option.some_inj.mp hu ▸ ht.plain hd (hf _ htype)

end FieldOf.InlinesData

namespace TypeExpr.InlinesData

variable {t t' : TypeExpr}

theorem objectFields (h : t.InlinesData d t') :
    List.Forall₂ (FieldOf.InlinesData d) t.objectFields t'.objectFields := by
  cases h with
  | same => exact List.forall₂_same.mpr fun _ _ => .same
  | object h => exact h

theorem isIgnoredMember (h : t.InlinesData d t') :
    Annotation.isIgnoredMember t' = Annotation.isIgnoredMember t := by
  cases h <;> rfl

/-- An ignored member stays as it is. -/
theorem eq_of_ignored (h : t.InlinesData d t') (ht : Annotation.isIgnoredMember t = true) : t' = t := by
  cases h with
  | same => rfl
  | object => cases ht

theorem plain (hd : d.type.Everywhere TypeExpr.HasPlainFields) (h : t.InlinesData d t')
    (ht : t.Everywhere TypeExpr.HasPlainFields) : t'.Everywhere TypeExpr.HasPlainFields := by
  cases h with
  | same => exact ht
  | object h =>
    refine everywhere_object
      (ht.self.of_names (map_eq_of_forall₂ (fun _ _ => FieldOf.InlinesData.name) h)) ?_
    intro f' hf'
    obtain ⟨f, hf, hff'⟩ := exists_of_forall₂_right h hf'
    exact hff'.plain hd fun u hu => ht.field hf hu

end TypeExpr.InlinesData

namespace ShapeDecl.InlinesData

variable {e e' : ShapeDecl}

theorem name (h : ShapeDecl.InlinesData d e e') : e'.name = e.name := by cases h <;> rfl

theorem doc? (h : ShapeDecl.InlinesData d e e') : e'.doc? = e.doc? := by cases h <;> rfl

theorem nameSpan (h : ShapeDecl.InlinesData d e e') : e'.nameSpan = e.nameSpan := by cases h <;> rfl

end ShapeDecl.InlinesData

end Syntax

/-! ## 3. Structures -/

/-- A structure in whose own fields references are replaced. -/
structure ShapeStructure.InlinesData (d : ShapeDecl) (s s' : ShapeStructure) : Prop where
  decl : ShapeDecl.InlinesData d s.decl s'.decl
  bases : s'.bases = s.bases
  fields : List.Forall₂ (FieldOf.InlinesData d) s.fields s'.fields
  isObjectLike : s'.isObjectLike = s.isObjectLike
  /-- What a shape without fields stands for stays. -/
  plain : s.isObjectLike = false → s'.decl = s.decl

namespace ShapeStructure

variable {d e e' : ShapeDecl}

theorem InlinesData.refl (s : ShapeStructure) : s.InlinesData d s where
  decl := .type (.same _)
  bases := rfl
  fields := List.forall₂_same.mpr fun _ _ => .same
  isObjectLike := rfl
  plain _ := rfl

theorem InlinesData.name {s s' : ShapeStructure} (h : s.InlinesData d s') : s'.name = s.name :=
  h.decl.name

theorem isObjectLike_addMembers : ∀ (members : List TypeExpr) (s : ShapeStructure),
    (s.addMembers members).1.isObjectLike = s.isObjectLike
  | [], _ => rfl
  | member :: rest, s => by
      have hrest : (s.addMembers (member :: rest)).1.isObjectLike =
          ((s.addMember member).1.addMembers rest).1.isObjectLike := rfl
      rw [hrest, isObjectLike_addMembers rest]
      cases member <;> rfl

/-- The bases in an intersection are its members that are references. -/
theorem bases_addMembers : ∀ (members : List TypeExpr) (s : ShapeStructure),
    (s.addMembers members).1.bases = s.bases ++ members.filter (·.referenceName?.isSome)
  | [], s => by simp [addMembers]
  | member :: rest, s => by
      have hrest : (s.addMembers (member :: rest)).1.bases =
          ((s.addMember member).1.addMembers rest).1.bases := rfl
      rw [hrest, bases_addMembers rest]
      cases member <;> simp [addMember, TypeExpr.referenceName?]

theorem filter_references_eq {members members' : List TypeExpr}
    (h : List.Forall₂ (TypeExpr.InlinesData d) members members') :
    members'.filter (·.referenceName?.isSome) = members.filter (·.referenceName?.isSome) := by
  induction h with
  | nil => rfl
  | cons hmember _ ih =>
    cases hmember with
    | same => rw [List.filter_cons, List.filter_cons, ih]
    | object => simpa [TypeExpr.referenceName?] using ih

/-- A shape with references replaced has the same structure, but for the types of its fields. -/
theorem inlinesData_ofDecl (h : ShapeDecl.InlinesData d e e') : (ofDecl e).1.InlinesData d (ofDecl e').1 := by
  cases h with
  | @type t' h =>
    generalize htype : e.type = t at h
    cases h with
    | same =>
      rw [← htype]
      exact .refl _
    | object h =>
      refine ⟨?_, ?_, ?_, ?_, ?_⟩
      · simp only [decl_ofDecl]
        exact .type (htype ▸ .object h)
      all_goals simp [ofDecl, htype]
      exact h
  | members hform htype h =>
    have hne : (e.form == ShapeForm.interface) = false := by rw [hform]; rfl
    refine ⟨?_, ?_, ?_, ?_, ?_⟩
    · simp only [decl_ofDecl]
      exact .members hform htype h
    · simp only [ofDecl, htype, hne, Bool.false_eq_true, if_false, bases_addMembers,
        filter_references_eq h]
    · simp only [ofDecl, htype, hne, Bool.false_eq_true, if_false, fields_addMembers, List.nil_append]
      exact List.rel_flatMap h fun _ _ => TypeExpr.InlinesData.objectFields
    · simp only [ofDecl, htype, hne, Bool.false_eq_true, if_false, isObjectLike_addMembers]
    · simp [ofDecl, htype, hne, isObjectLike_addMembers]

end ShapeStructure

/-- Replacements keep the fields of a shape plain. -/
theorem Syntax.ShapeDecl.InlinesData.plain {d e e' : ShapeDecl}
    (hd : d.type.Everywhere TypeExpr.HasPlainFields) (h : ShapeDecl.InlinesData d e e')
    (he : e.HasPlainFields) : e'.HasPlainFields where
  type := by
    cases h with
    | type h => exact h.plain hd he.type
    | members _ htype h =>
      refine TypeExpr.everywhere_intersection trivial fun t' ht' => ?_
      obtain ⟨t, ht, htt'⟩ := exists_of_forall₂_right h ht'
      have htype' := he.type
      rw [htype] at htype'
      exact htt'.plain hd (htype'.intersectionMember ht)
  own := by
    have hnames : (ShapeStructure.ofDecl e').1.fields.map (·.name) =
        (ShapeStructure.ofDecl e).1.fields.map (·.name) :=
      map_eq_of_forall₂ (fun _ _ => FieldOf.InlinesData.name)
        (ShapeStructure.inlinesData_ofDecl h).fields
    rw [hnames]
    exact he.own

/-! ## 4. Files -/

namespace Syntax

/-- An item in which references are replaced, if it is a shape. -/
inductive Item.InlinesData (d : ShapeDecl) : Item → Item → Prop
  | same (i : Item) : InlinesData d i i
  | shape {e e' : ShapeDecl} (h : ShapeDecl.InlinesData d e e') : InlinesData d (.shape e) (.shape e')

/-- A file in which some references to a shape are replaced by the shape's own type, in the types of
fields that describe data. -/
structure SourceFile.Inlines (d : ShapeDecl) (f f' : SourceFile) : Prop where
  items : List.Forall₂ (Item.InlinesData d) f.items f'.items

namespace SourceFile.Inlines

variable {d : ShapeDecl} {f f' : SourceFile}

theorem shapes (h : f.Inlines d f') :
    List.Forall₂ (ShapeDecl.InlinesData d) f.shapes f'.shapes := by
  refine List.rel_filterMap (fun i i' hi => ?_) h.items
  cases hi with
  | same =>
    cases i with
    | shape e => exact .some (.type (.same _))
    | _ => exact .none
  | shape h => exact .some h

theorem bindings (h : f.Inlines d f') : f'.bindings = f.bindings := by
  have hitems := h.items
  unfold SourceFile.bindings
  generalize f.items = items at hitems
  generalize f'.items = items' at hitems
  induction hitems with
  | nil => rfl
  | cons hi _ ih =>
    cases hi with
    | same => rw [List.filterMap_cons, List.filterMap_cons, ih]
    | shape => rwa [List.filterMap_cons, List.filterMap_cons]

theorem defaultExport? (h : f.Inlines d f') : f'.defaultExport? = f.defaultExport? := by
  have hitems := h.items
  unfold SourceFile.defaultExport?
  generalize f.items = items at hitems
  generalize f'.items = items' at hitems
  induction hitems with
  | nil => rfl
  | cons hi _ ih =>
    cases hi with
    | same => rw [List.findSome?_cons, List.findSome?_cons, ih]
    | shape => rwa [List.findSome?_cons, List.findSome?_cons]

theorem names (h : f.Inlines d f') : f'.shapes.map (·.name) = f.shapes.map (·.name) :=
  map_eq_of_forall₂ (fun _ _ => ShapeDecl.InlinesData.name) h.shapes

theorem structures (h : f.Inlines d f') :
    List.Forall₂ (ShapeStructure.InlinesData d) f.structures f'.structures := by
  unfold SourceFile.structures
  rw [List.forall₂_map_left_iff, List.forall₂_map_right_iff]
  exact h.shapes.imp fun _ _ => ShapeStructure.inlinesData_ofDecl

/-- Replacements keep the fields of all shapes plain. -/
theorem plain (h : f.Inlines d f') (hd : d ∈ f.shapes) (hplain : ∀ e ∈ f.shapes, e.HasPlainFields) :
    ∀ e' ∈ f'.shapes, e'.HasPlainFields := by
  intro e' he'
  obtain ⟨e, he, hee'⟩ := exists_of_forall₂_right h.shapes he'
  exact hee'.plain (hplain d hd).type (hplain e he)

end SourceFile.Inlines

end Syntax

end ServiceGraph
