import Mathlib.Logic.Relation
import ServiceGraph.Proofs.Schema.OfType
import ServiceGraph.Proofs.Schema.Stack

/-!
Where the schemas of recursive types are cut.

A node of a schema is found at a position, the way from the root to it. `TypeExpr.Inside` says which types stand
at which positions of a type as it is written, `ShapeInfo.Holds` which types stand at which positions of
a shape, and `ShapeCatalog.Meets` composes the two: reading a type comes to a reference at a position, below
the expansion of certain shapes. None of them mentions schemas.

A schema is cut at the references that are met below the expansion of the shape they name, and nowhere
else (`TypeSchema.cutsRecursion`). All other references are expanded, so a shape that does not lead back to
itself is never cut, and a shape is expanded at most once on the way to any node.
-/

namespace ServiceGraph

open Syntax

/-! ## 1. Positions -/

namespace Schema

/-- A step from a node to one below it. -/
inductive Step
  | item
  | field (name : String)
deriving Repr, DecidableEq

/-- The node at a position. -/
def at? : List Step → Schema → Option Schema
  | [], s => some s
  | .item :: rest, .list items _ => at? rest items
  | .field name :: rest, .object fields =>
    (fields.find? (·.name == name)).bind fun f => at? rest f.schema
  | _ :: _, _ => none

@[simp] theorem at?_nil (s : Schema) : s.at? [] = some s := rfl

@[simp] theorem at?_item (rest : List Step) (items : Schema) :
    (listOf items).at? (.item :: rest) = items.at? rest := rfl

@[simp] theorem at?_field (name : String) (rest : List Step) (fields : List SchemaField) :
    (Schema.object fields).at? (.field name :: rest) =
      (fields.find? (·.name == name)).bind fun f => f.schema.at? rest := rfl

@[simp] theorem at?_leaf (kind : LeafKind) (c : Constraints) (step : Step) (rest : List Step) :
    (Schema.leaf kind c).at? (step :: rest) = none := by
  cases step <;> rfl

@[simp] theorem at?_enumeration (values : List String) (step : Step) (rest : List Step) :
    (Schema.enumeration values).at? (step :: rest) = none := by
  cases step <;> rfl

@[simp] theorem at?_unsupported (reason : String) (step : Step) (rest : List Step) :
    (Schema.unsupported reason).at? (step :: rest) = none := by
  cases step <;> rfl

theorem at?_append : ∀ (p q : List Step) (s : Schema), s.at? (p ++ q) = (s.at? p).bind (at? q)
  | [], _, _ => rfl
  | .item :: p, q, s => by
      cases s with
      | list items c => exact at?_append p q items
      | _ => simp [at?]
  | .field name :: p, q, s => by
      cases s with
      | object fields =>
        simp only [List.cons_append, at?_field]
        cases fields.find? (·.name == name) with
        | none => rfl
        | some f => exact at?_append p q f.schema
      | _ => simp [at?]

/-- What is found under a name after fields are put into an object: the last one of that name. -/
theorem find?_insertField (name : String) (f : SchemaField) : ∀ fields : List SchemaField,
    (insertField fields f).find? (·.name == name) =
      if f.name = name then some f else fields.find? (·.name == name)
  | [] => by
      by_cases h : f.name = name <;> simp [insertField, h]
  | g :: rest => by
      unfold insertField
      by_cases hg : g.name = f.name
      · by_cases h : f.name = name <;> simp [hg, h]
      · have hne : ¬(g.name == f.name) = true := by simpa using hg
        rw [if_neg hne, List.find?_cons, List.find?_cons, find?_insertField name f rest]
        by_cases h : g.name = name
        · simp [h, show f.name ≠ name from fun h' => hg (h.trans h'.symm)]
        · rw [beq_false_of_ne h]

theorem find?_foldl_insertField (name : String) : ∀ (fields start : List SchemaField),
    (fields.foldl insertField start).find? (·.name == name) =
      (fields.reverse.find? (·.name == name)).or (start.find? (·.name == name))
  | [], _ => by simp
  | f :: rest, start => by
      rw [List.foldl_cons, find?_foldl_insertField name rest, find?_insertField, List.reverse_cons,
        List.find?_append, Option.or_assoc]
      by_cases h : f.name = name <;> simp [h]

/-- The field of an object is the last one of its name among those it was made from. -/
theorem at?_ofFields (name : String) (rest : List Step) (fields : List SchemaField) :
    (ofFields fields).at? (.field name :: rest) =
      (fields.reverse.find? (·.name == name)).bind fun f => f.schema.at? rest := by
  rw [ofFields, at?_field, find?_foldl_insertField]
  simp

theorem mem_names_foldl_insertField (name : String) (fields : List SchemaField) :
    name ∈ (fields.foldl insertField []).map (·.name) ↔ name ∈ fields.map (·.name) := by
  have hfind := find?_foldl_insertField name fields []
  rw [List.find?_nil, Option.or_none] at hfind
  have hmem : ∀ l : List SchemaField, name ∈ l.map (·.name) ↔ (l.find? (·.name == name)).isSome := by
    intro l
    simp [List.find?_isSome]
  rw [hmem, hfind, ← hmem, List.map_reverse, List.mem_reverse]

/-! ### Tags -/

/-- A schema after tags were applied to it. -/
inductive Retagged (s : Schema) : Schema → Prop
  | refl : Retagged s s
  | tags {n : Schema} (h : Retagged s n) (tags : TagSet) (subject : String) :
    Retagged s (n.withTags tags subject).value

/-- What tags leave of a schema: all but values and constraints. -/
structure SameBelow (s n : Schema) : Prop where
  below : ∀ step rest, n.at? (step :: rest) = s.at? (step :: rest)
  unsupported : ∀ reason, n = .unsupported reason ↔ s = .unsupported reason
  object : ∀ fields, n = .object fields ↔ s = .object fields

theorem SameBelow.refl (s : Schema) : SameBelow s s := ⟨fun _ _ => rfl, fun _ => .rfl, fun _ => .rfl⟩

theorem SameBelow.trans {r s n : Schema} (h : SameBelow r s) (h' : SameBelow s n) : SameBelow r n where
  below step rest := (h'.below step rest).trans (h.below step rest)
  unsupported reason := (h'.unsupported reason).trans (h.unsupported reason)
  object fields := (h'.object fields).trans (h.object fields)

theorem sameBelow_withConstraints (c : Constraints) (s : Schema) :
    SameBelow s (s.withConstraints c) := by
  cases s with
  | leaf kind d => exact ⟨by simp [withConstraints], by simp [withConstraints], by simp [withConstraints]⟩
  | list items d =>
    refine ⟨fun step rest => ?_, by simp [withConstraints], by simp [withConstraints]⟩
    cases step <;> rfl
  | _ => exact .refl _

theorem sameBelow_withValues (tag : Tagged (List String)) (subject : String) (s : Schema) :
    SameBelow s (s.withValues tag subject).value := by
  cases s with
  | leaf kind d =>
    cases kind with
    | string => exact ⟨by simp [withValues], by simp [withValues], by simp [withValues]⟩
    | _ => exact .refl _
  | enumeration declared =>
    rw [withValues]
    split
    · exact ⟨by simp, by simp, by simp⟩
    · exact .refl _
  | _ => exact .refl _

theorem sameBelow_withTags (tags : TagSet) (subject : String) (s : Schema) :
    SameBelow s (s.withTags tags subject).value := by
  unfold withTags
  cases tags.enumValues? with
  | none =>
    rw [Noted.value_bind, Noted.value_pure, value_withBounds]
    exact sameBelow_withConstraints _ s
  | some tag =>
    rw [Noted.value_bind, value_withBounds]
    exact (sameBelow_withValues tag subject s).trans (sameBelow_withConstraints _ _)

namespace Retagged

variable {r s n : Schema}

theorem sameBelow (h : Retagged s n) : SameBelow s n := by
  induction h with
  | refl => exact .refl s
  | tags _ tags subject ih => exact ih.trans (sameBelow_withTags tags subject _)

theorem trans (h : Retagged r s) (h' : Retagged s n) : Retagged r n := by
  induction h' with
  | refl => exact h
  | tags _ tags subject ih => exact ih.tags tags subject

/-- Tags at the root change a node below it at most by tags. -/
theorem at? (h : Retagged s n) {p : List Step} {m : Schema} (hm : s.at? p = some m)
    (hr : Retagged r m) : ∃ m', n.at? p = some m' ∧ Retagged r m' := by
  cases p with
  | nil =>
    cases hm
    exact ⟨n, rfl, hr.trans h⟩
  | cons step rest =>
    rw [← h.sameBelow.below] at hm
    exact ⟨m, hm, hr⟩

/-- Tags neither cut a schema nor close a cut. -/
theorem at?_eq_unsupported (h : Retagged s n) {p : List Step} {reason : String}
    (hn : n.at? p = some (.unsupported reason)) : s.at? p = some (.unsupported reason) := by
  cases p with
  | nil => exact congrArg some ((h.sameBelow.unsupported reason).mp (Option.some_inj.mp hn))
  | cons step rest => rwa [← h.sameBelow.below]

end Retagged

end Schema

open Schema (Step Retagged)

/-! ## 2. What is met on the way -/

/-- An element is the last one of its name. -/
def IsLast {α : Type} (name : α → String) (l : List α) (a : α) : Prop :=
  l.reverse.find? (name · == name a) = some a

theorem isLast_of_find? {α : Type} {name : α → String} {l : List α} {a : α} {wanted : String}
    (h : l.reverse.find? (name · == wanted) = some a) : name a = wanted ∧ IsLast name l a ∧ a ∈ l := by
  obtain rfl : name a = wanted := by simpa using List.find?_some h
  exact ⟨rfl, h, List.mem_reverse.mp (List.mem_of_find?_eq_some h)⟩

/-- A type stands inside another one. Its schema stands at a position below the other's. -/
inductive Syntax.TypeExpr.Inside : TypeExpr → List Step → TypeExpr → Prop
  | here {t : TypeExpr} : Inside t [] t
  | item {span : Span} {inner u : TypeExpr} {p : List Step} (h : Inside inner p u) :
    Inside (.array span inner) (.item :: p) u
  | argument {span : Span} {name : String} {inner u : TypeExpr} {p : List Step}
    (hlist : TypePath.isListName name = true) (h : Inside inner p u) :
    Inside (.reference span name [inner]) (.item :: p) u
  | field {span : Span} {fields : List Field} {skipped : List SkippedMember} {f : Field}
    {t u : TypeExpr} {p : List Step} (hf : IsLast (·.name) fields f) (ht : f.type? = some t)
    (h : Inside t p u) : Inside (.object span fields skipped) (.field f.name :: p) u
  | kept {span : Span} {members : List TypeExpr} {single u : TypeExpr} {p : List Step}
    (hkept : TypeSchema.kept members = [single]) (h : Inside single p u) :
    Inside (.union span members) p u

/-- A type stands in a shape: the type of one of its fields, or, if it has no fields, the type it is an
alias of. Its comments are looked up under an owner and a path. -/
inductive ShapeInfo.Holds (s : ShapeInfo) : List Step → String → String → TypeExpr → Prop
  | field {m : MergedField} {t : TypeExpr} (hobject : s.isObjectLike = true)
    (hm : IsLast MergedField.name s.fields m) (ht : m.type? = some t) :
    Holds s [.field m.name] m.owner m.name t
  | type (hobject : s.isObjectLike = false) : Holds s [] s.name "" s.decl.type

namespace ShapeCatalog

variable {c : ShapeCatalog}

/-- A type is a reference to a shape. -/
structure Names (c : ShapeCatalog) (t : TypeExpr) (s : ShapeInfo) : Prop where
  reference : ∃ span name args, t = .reference span name args ∧
    (∀ item, args = [item] → TypePath.isListName name = false) ∧
    c.get? (TypeExpr.lastSegment name) = some s

/-- Reading a type comes to a reference to a shape, at a position and below the expansion of the shapes on a
stack; those on the first stack are under expansion from the start. -/
inductive Meets (c : ShapeCatalog) :
    List String → TypeExpr → List Step → ShapeInfo → List String → Prop
  | here {σ : List String} {t u : TypeExpr} {p : List Step} {s : ShapeInfo} (hu : t.Inside p u)
    (hs : c.Names u s) : Meets c σ t p s σ
  | expanded {σ σ' : List String} {t u v : TypeExpr} {p q r : List Step} {s s' : ShapeInfo}
    {owner path : String} (hu : t.Inside p u) (hs : c.Names u s) (hstack : s.name ∉ σ)
    (hv : s.Holds q owner path v) (h : Meets c (s.name :: σ) v r s' σ') :
    Meets c σ t (p ++ (q ++ r)) s' σ'

/-- A shape has a reference to another one, in a type that is read. -/
def Refers (c : ShapeCatalog) (a b : String) : Prop :=
  ∃ s, c.get? a = some s ∧ ∃ q owner path t p u s', s.Holds q owner path t ∧ t.Inside p u ∧
    c.Names u s' ∧ s'.name = b

/-- A shape leads back to itself. -/
def IsRecursive (c : ShapeCatalog) (name : String) : Prop := Relation.TransGen c.Refers name name

end ShapeCatalog

namespace Syntax.TypeExpr.Inside

theorem trans {t u v : TypeExpr} {p q : List Step} (h : t.Inside p u) (h' : u.Inside q v) :
    t.Inside (p ++ q) v := by
  induction h with
  | here => exact h'
  | item _ ih => exact .item (ih h')
  | argument hlist _ ih => exact .argument hlist (ih h')
  | field hf ht _ ih => exact .field hf ht (ih h')
  | kept hkept _ ih => exact .kept hkept (ih h')

end Syntax.TypeExpr.Inside

namespace ShapeCatalog

variable {c : ShapeCatalog} {σ σ' : List String} {t : TypeExpr} {p : List Step} {s : ShapeInfo}

theorem Names.get?_self {u : TypeExpr} (h : c.Names u s) : c.get? s.name = some s := by
  obtain ⟨_, _, _, _, _, hs⟩ := h.reference
  exact ShapeCatalog.get?_self hs

namespace Meets

/-- What is met inside a type that stands inside another one is met in that one. -/
theorem of_inside {u : TypeExpr} {q : List Step} (hu : t.Inside q u) (h : c.Meets σ u p s σ') :
    c.Meets σ t (q ++ p) s σ' := by
  cases h with
  | here hw hs => exact .here (hu.trans hw) hs
  | expanded hw hs hstack hv h =>
    rw [← List.append_assoc]
    exact .expanded (hu.trans hw) hs hstack hv h

/-- No shape is under expansion twice. -/
theorem nodup (h : c.Meets σ t p s σ') (hσ : σ.Nodup) : σ'.Nodup := by
  induction h with
  | here => exact hσ
  | expanded _ _ hstack _ _ ih => exact ih (List.nodup_cons.mpr ⟨hstack, hσ⟩)

/-- Expansions are put on top of the stack. -/
theorem suffix (h : c.Meets σ t p s σ') : σ <:+ σ' := by
  induction h with
  | here => exact List.suffix_refl _
  | expanded _ _ _ _ _ ih => exact (List.suffix_cons _ _).trans ih

/-- From a shape that holds the type there is a way to what is met. -/
theorem transGen_of_holds (h : c.Meets σ t p s σ') {a : ShapeInfo} (ha : c.get? a.name = some a)
    {q : List Step} {owner path : String} (hold : a.Holds q owner path t) :
    Relation.TransGen c.Refers a.name s.name := by
  induction h generalizing a q owner path with
  | here hu hs => exact .single ⟨a, ha, _, _, _, _, _, _, _, hold, hu, hs, rfl⟩
  | expanded hu hs _ hv _ ih =>
    have hstep : c.Refers a.name _ := ⟨a, ha, _, _, _, _, _, _, _, hold, hu, hs, rfl⟩
    exact .head hstep (ih hs.get?_self hv)

/-- From a shape under expansion there is a way to what is met, unless it is so from the start. -/
theorem transGen_of_mem (h : c.Meets σ t p s σ') {name : String} (hmem : name ∈ σ') :
    name ∈ σ ∨ Relation.TransGen c.Refers name s.name := by
  induction h with
  | here => exact .inl hmem
  | expanded hu hs _ hv h ih =>
    rcases ih hmem with hmem | hway
    · rcases List.mem_cons.mp hmem with rfl | hmem
      · exact .inr (h.transGen_of_holds hs.get?_self hv)
      · exact .inl hmem
    · exact .inr hway

end Meets

end ShapeCatalog

/-! ## 3. The nodes of what is met -/

namespace TypeSchema

variable {ctx : TypeContext} {free : List String}

/-- The schema of a type, without its notes. -/
def schemaAt (ctx : TypeContext) (free : List String) (owner path : String) (t : TypeExpr) : Schema :=
  (ofType ctx free owner path t).value.schema

theorem name_field (annotations : AnnotationTable) (owner path name : String) (mayBeMissing : Bool)
    (t : TypeSchema) : (field annotations owner path name mayBeMissing t).value.name = name := by
  cases h : annotations.get? owner path with
  | none => rw [field_of_none h]; rfl
  | some note => rw [value_field_of_some h]

theorem retagged_field (annotations : AnnotationTable) (owner path name : String)
    (mayBeMissing : Bool) (t : TypeSchema) :
    Retagged t.schema (field annotations owner path name mayBeMissing t).value.schema := by
  cases h : annotations.get? owner path with
  | none => rw [field_of_none h]; exact .refl
  | some note => rw [value_field_of_some h]; exact .tags .refl _ _

theorem retagged_withDeclarationTags (name : String) (t : TypeSchema) :
    Retagged t.schema (withDeclarationTags ctx name t).schema := by
  unfold withDeclarationTags
  cases ctx.annotations.declaration? name with
  | none => exact .refl
  | some note => exact .tags .refl _ _

theorem name_fieldAt (place : Field × String × String) : (fieldAt ctx free place).name = place.1.name := by
  rw [fieldAt, value_ofField, name_field]

/-- The schema of a field is the one of its type, but for tags. -/
theorem retagged_fieldAt (place : Field × String × String) {t : TypeExpr} (ht : place.1.type? = some t) :
    Retagged (schemaAt ctx free place.2.1 place.2.2 t) (fieldAt ctx free place).schema := by
  rw [fieldAt, value_ofField, ht, ofDeclared]
  exact retagged_field ..

/-- The object that places make has the field of the last place of a name. -/
theorem at?_ofFields_places {α : Type} (name : α → String) (place : α → Field × String × String)
    (hname : ∀ a, (place a).1.name = name a) {l : List α} (wanted : String) (rest : List Step) :
    (Schema.ofFields ((l.map place).map (fieldAt ctx free))).at? (.field wanted :: rest) =
      (l.reverse.find? (name · == wanted)).bind fun a => (fieldAt ctx free (place a)).schema.at? rest := by
  rw [Schema.at?_ofFields, List.map_map, ← List.map_reverse, List.find?_map]
  have hkey : ((fun f : SchemaField => f.name == wanted) ∘ (fieldAt ctx free ∘ place)) =
      fun a => name a == wanted := by
    funext a
    simp [name_fieldAt, hname]
  rw [hkey]
  cases l.reverse.find? (name · == wanted) <;> rfl

/-- The node of a type inside another one is the schema of that type, but for tags. -/
theorem exists_node_of_inside {t u : TypeExpr} {p : List Step} (h : t.Inside p u)
    (owner path : String) : ∃ path' n, (schemaAt ctx free owner path t).at? p = some n ∧
      Retagged (schemaAt ctx free owner path' u) n := by
  induction h generalizing path with
  | here => exact ⟨path, _, rfl, .refl⟩
  | item _ ih =>
    rw [schemaAt, value_ofType_array]
    exact ih _
  | argument hlist _ ih =>
    rw [schemaAt, value_ofType_argument hlist]
    exact ih _
  | @field span fields skipped f t u p hf ht _ ih =>
    obtain ⟨path', m, hm, hr⟩ := ih (TypePath.field path f.name)
    have htags : Retagged (schemaAt ctx free owner (TypePath.field path f.name) t)
        (fieldAt ctx free (f, owner, TypePath.field path f.name)).schema :=
      retagged_fieldAt (f, owner, TypePath.field path f.name) ht
    obtain ⟨n, hn, hr⟩ := htags.at? hm hr
    refine ⟨path', n, ?_, hr⟩
    rw [schemaAt, value_ofType_object, ofSchema, placesOf,
      at?_ofFields_places (·.name) _ (fun _ => rfl), hf]
    exact hn
  | kept hkept _ ih =>
    rw [schemaAt, value_ofType_single hkept]
    exact ih path

/-- What stands in the place of a reference to a shape that may be expanded: an object with the shape's
fields, or what the shape is an alias of. -/
structure Expands (ctx : TypeContext) (free : List String) (s : ShapeInfo) (n : Schema) : Prop where
  fields : s.isObjectLike = true → ∃ fields, n = .object fields ∧ (fields.map (·.name)).Nodup ∧
    ∀ name, name ∈ fields.map (·.name) ↔ name ∈ s.fields.map MergedField.name
  types : ∀ q owner path t, s.Holds q owner path t →
    ∃ m, n.at? q = some m ∧ Retagged (schemaAt ctx free owner path t) m

theorem Expands.retagged {s : ShapeInfo} {n m : Schema} (h : Expands ctx free s n)
    (hm : Retagged n m) : Expands ctx free s m where
  fields hobject := by
    obtain ⟨fields, hn, hnames⟩ := h.fields hobject
    exact ⟨fields, (hm.sameBelow.object fields).mpr hn, hnames⟩
  types q owner path t ht := by
    obtain ⟨x, hx, hr⟩ := h.types q owner path t ht
    exact hm.at? hx hr

theorem expands_ofName {name : String} {s : ShapeInfo}
    (hs : ctx.catalog.get? (TypeExpr.lastSegment name) = some s) (hfree : s.name ∈ free)
    (span : Span) : Expands ctx (free.erase s.name) s (ofName ctx free span name).value.schema where
  fields hobject := by
    rw [value_ofName_fields hs hfree hobject]
    refine ⟨_, rfl, Schema.nodup_foldl_insertField _ _ List.nodup_nil, fun other => ?_⟩
    rw [Schema.mem_names_foldl_insertField, mergedPlaces, List.map_map, List.map_map]
    have hnames : ((fun f : SchemaField => f.name) ∘ fieldAt ctx (free.erase s.name)) ∘
        (fun m : MergedField => (m.field, m.owner, m.name)) = MergedField.name := by
      funext m
      exact name_fieldAt _
    rw [hnames]
  types q owner path t ht := by
    cases ht with
    | @field m _ hobject hm ht =>
      rw [value_ofName_fields hs hfree hobject, ofSchema, mergedPlaces,
        at?_ofFields_places MergedField.name _ (fun _ => rfl), hm]
      exact ⟨_, rfl, retagged_fieldAt (m.field, m.owner, m.name) ht⟩
    | type hobject =>
      rw [value_ofName_type hs hfree hobject]
      exact ⟨_, rfl, retagged_withDeclarationTags ..⟩

section

variable (hn : (ctx.catalog.shapes.map (·.name)).Nodup)

include hn

/-- The node of a reference that is met is the schema of the name, but for tags. -/
theorem exists_node_of_meets {σ σ' : List String} {t : TypeExpr} {p : List Step} {s : ShapeInfo}
    (h : ctx.catalog.Meets σ t p s σ') (owner path : String) :
    ∃ span name n, ctx.catalog.get? (TypeExpr.lastSegment name) = some s ∧
      (schemaAt ctx (ctx.catalog.unused σ) owner path t).at? p = some n ∧
      Retagged (ofName ctx (ctx.catalog.unused σ') span name).value.schema n := by
  induction h generalizing owner path with
  | here hu hs =>
    obtain ⟨span, name, args, rfl, hname, hget⟩ := hs.reference
    obtain ⟨path', n, hnode, hr⟩ := exists_node_of_inside hu owner path
    rw [schemaAt, ofType_reference hname] at hr
    exact ⟨span, name, n, hget, hnode, hr⟩
  | expanded hu hs hstack hv _ ih =>
    obtain ⟨span, name, args, rfl, hname, hget⟩ := hs.reference
    obtain ⟨path', n, hnode, hr⟩ := exists_node_of_inside hu owner path
    rw [schemaAt, ofType_reference hname] at hr
    have hexpands := (expands_ofName hget ((ShapeCatalog.mem_unused hget).mpr hstack) span).retagged hr
    rw [ShapeCatalog.erase_unused hn] at hexpands
    obtain ⟨m, hm, hr⟩ := hexpands.types _ _ _ _ hv
    obtain ⟨span', name', x, hget', hx, hr'⟩ := ih _ _
    obtain ⟨y, hy, hr'⟩ := hr.at? hx hr'
    refine ⟨span', name', y, hget', ?_, hr'⟩
    rw [Schema.at?_append, hnode, Option.bind_some, Schema.at?_append, hm, Option.bind_some, hy]

end

/-! ## 4. The nodes that are cut -/

theorem toList_cutReason (name : String) :
    (cutReason name).toList = "recursive reference to `".toList ++ name.toList ++ ['`'] := by
  change ("recursive reference to `" ++ name ++ "`").toList = _
  rw [String.toList_append, String.toList_append]
  rfl

theorem cutReason_inj {a b : String} (h : cutReason a = cutReason b) : a = b := by
  have hlist := congrArg String.toList h
  rw [toList_cutReason, toList_cutReason] at hlist
  exact String.toList_inj.mp (List.append_cancel_left (List.append_cancel_right hlist))

/-- A schema has no node that is cut. -/
def Uncut (s : Schema) : Prop := ∀ p name, s.at? p ≠ some (.unsupported (cutReason name))

theorem uncut_leaf (kind : LeafKind) (c : Constraints) : Uncut (.leaf kind c) := by
  intro p name
  cases p <;> simp

theorem uncut_enumeration (values : List String) : Uncut (.enumeration values) := by
  intro p name
  cases p <;> simp

theorem uncut_unsupported {reason : String} (h : ∀ name, reason ≠ cutReason name) :
    Uncut (.unsupported reason) := by
  intro p name
  cases p with
  | nil => simpa using h name
  | cons step rest => simp

/-- The other reasons end otherwise. -/
theorem ne_cutReason_of_last {reason : String} {c : Char} (h : reason.toList.getLast? = some c)
    (hc : c ≠ '`') (name : String) : reason ≠ cutReason name := by
  rintro rfl
  rw [toList_cutReason, List.getLast?_concat] at h
  exact hc (Option.some_inj.mp h).symm

theorem getLast?_append (text ending : String) {c : Char} (h : ending.toList.getLast? = some c) :
    (text ++ ending).toList.getLast? = some c := by
  rw [String.toList_append, List.getLast?_append, h, Option.some_or]

theorem uncut_ofKeyword (span : Span) (name : String) : Uncut (ofKeyword span name).value.schema := by
  unfold ofKeyword
  split <;> try exact uncut_leaf _ _
  exact uncut_unsupported (ne_cutReason_of_last (getLast?_append _ "` type" rfl) (by decide))

theorem uncut_ofLiteral (span : Span) (value : Literal) : Uncut (ofLiteral span value).value.schema := by
  cases value with
  | string s => exact uncut_enumeration _
  | _ => exact uncut_leaf _ _

theorem uncut_ofForeignName (span : Span) (name : String) :
    Uncut (ofForeignName span name).value.schema := by
  unfold ofForeignName
  dsimp only
  split
  · exact uncut_leaf _ _
  · split
    · exact uncut_leaf _ _
    · split
      · exact uncut_unsupported
          (ne_cutReason_of_last (getLast?_append _ "` used as a field type" rfl) (by decide))
      · refine uncut_unsupported fun other h => ?_
        change "unknown type `" ++ name ++ "`" = cutReason other at h
        have hlist := congrArg String.toList h
        rw [toList_cutReason, String.toList_append, String.toList_append] at hlist
        have hhead : some 'u' = some 'r' := congrArg List.head? hlist
        exact absurd hhead (by decide)

theorem uncut_ofMembers (span : Span) (members : List TypeExpr) :
    Uncut (ofMembers span members).value.schema := by
  unfold ofMembers
  split
  · exact uncut_enumeration _
  · split
    · exact uncut_leaf _ _
    · split
      · exact uncut_leaf _ _
      · exact uncut_unsupported (ne_cutReason_of_last (c := 's') rfl (by decide))

/-- A cut below a list is one below its items. -/
theorem cut_of_listOf {items : Schema} {p : List Step} {reason : String}
    (h : (Schema.listOf items).at? p = some (.unsupported reason)) :
    ∃ rest, p = .item :: rest ∧ items.at? rest = some (.unsupported reason) := by
  match p with
  | [] => simp [Schema.listOf] at h
  | .item :: rest => exact ⟨rest, rfl, h⟩
  | .field name :: rest => simp [Schema.listOf, Schema.at?] at h

/-- A cut below an object is one below the type of a field. -/
theorem cut_of_fields {α : Type} (name : α → String) (place : α → Field × String × String)
    (hname : ∀ a, (place a).1.name = name a) {l : List α} {p : List Step} {N : String}
    (h : (Schema.ofFields ((l.map place).map (fieldAt ctx free))).at? p =
      some (.unsupported (cutReason N))) :
    ∃ a t rest, p = .field (name a) :: rest ∧ IsLast name l a ∧ a ∈ l ∧ (place a).1.type? = some t ∧
      (schemaAt ctx free (place a).2.1 (place a).2.2 t).at? rest = some (.unsupported (cutReason N)) := by
  match p with
  | [] => simp [Schema.ofFields] at h
  | .item :: rest => simp [Schema.ofFields, Schema.at?] at h
  | .field wanted :: rest =>
    rw [at?_ofFields_places name place hname] at h
    obtain ⟨a, ha, hcut⟩ := Option.bind_eq_some_iff.mp h
    obtain ⟨rfl, hlast, hmem⟩ := isLast_of_find? ha
    cases ht : (place a).1.type? with
    | none =>
      rw [fieldAt, value_ofField, ht, ofDeclared] at hcut
      exact absurd ((retagged_field ..).at?_eq_unsupported hcut) (uncut_leaf _ _ rest N)
    | some t =>
      exact ⟨a, t, rest, rfl, hlast, hmem, ht, (retagged_fieldAt _ ht).at?_eq_unsupported hcut⟩

theorem sizeOf_lt_of_field {fields : List Field} {f : Field} {t : TypeExpr} (hf : f ∈ fields)
    (ht : f.type? = some t) : sizeOf t < sizeOf fields := by
  have hfield := List.sizeOf_lt_of_mem hf
  obtain ⟨name, isOptional, isReadonly, type?, doc?, span⟩ := f
  cases ht
  simp only [FieldOf.mk.sizeOf_spec, Option.some.sizeOf_spec] at hfield
  omega

mutual

/-- Where a schema is cut, a reference to a shape under expansion is met. -/
theorem exists_meets_of_cut (hn : (ctx.catalog.shapes.map (·.name)).Nodup) (σ : List String)
    (owner path : String) (t : TypeExpr) {p : List Step} {N : String}
    (h : (schemaAt ctx (ctx.catalog.unused σ) owner path t).at? p = some (.unsupported (cutReason N))) :
    ∃ s σ', ctx.catalog.Meets σ t p s σ' ∧ s.name = N ∧ N ∈ σ' := by
  match t with
  | .keyword span name =>
    rw [schemaAt, ofType] at h
    exact absurd h (uncut_ofKeyword _ _ _ _)
  | .literal span value =>
    rw [schemaAt, ofType] at h
    exact absurd h (uncut_ofLiteral _ _ _ _)
  | .array span item =>
    rw [schemaAt, value_ofType_array] at h
    obtain ⟨rest, rfl, h⟩ := cut_of_listOf h
    obtain ⟨s, σ', hmeets, hN⟩ := exists_meets_of_cut hn σ owner _ item h
    exact ⟨s, σ', .of_inside (.item .here) hmeets, hN⟩
  | .reference span name args =>
    by_cases hlist : ∃ item, args = [item] ∧ TypePath.isListName name = true
    · obtain ⟨item, rfl, hlist⟩ := hlist
      rw [schemaAt, value_ofType_argument hlist] at h
      obtain ⟨rest, rfl, h⟩ := cut_of_listOf h
      obtain ⟨s, σ', hmeets, hN⟩ := exists_meets_of_cut hn σ owner _ item h
      exact ⟨s, σ', .of_inside (.argument hlist .here) hmeets, hN⟩
    · have hname : ∀ item, args = [item] → TypePath.isListName name = false :=
        fun item hitem => by simpa using fun h => hlist ⟨item, hitem, h⟩
      rw [schemaAt, ofType_reference hname] at h
      exact exists_meets_of_cut_name hn σ hname h
  | .object span fields skipped =>
    rw [schemaAt, value_ofType_object] at h
    obtain ⟨f, u, rest, rfl, hlast, hmem, hu, h⟩ := cut_of_fields (·.name) _ (fun _ => rfl) h
    have := sizeOf_lt_of_field hmem hu
    obtain ⟨s, σ', hmeets, hN⟩ := exists_meets_of_cut hn σ owner _ u h
    exact ⟨s, σ', .of_inside (.field hlast hu .here) hmeets, hN⟩
  | .union span members =>
    rcases hkept : kept members with _ | ⟨single, _ | ⟨second, rest⟩⟩
    · rw [schemaAt, value_ofType_empty hkept] at h
      exact absurd h (uncut_leaf _ _ _ _)
    · have := sizeOf_lt_of_kept hkept
      rw [schemaAt, value_ofType_single hkept] at h
      obtain ⟨s, σ', hmeets, hN⟩ := exists_meets_of_cut hn σ owner path single h
      exact ⟨s, σ', .of_inside (.kept hkept .here) hmeets, hN⟩
    · rw [schemaAt, value_ofType_several hkept] at h
      exact absurd h (uncut_ofMembers _ _ _ _)
  | .tuple span items =>
    rw [schemaAt, ofType] at h
    exact absurd h (uncut_unsupported (ne_cutReason_of_last (c := 'e') rfl (by decide)) _ _)
  | .intersection span items =>
    rw [schemaAt, ofType] at h
    exact absurd h (uncut_unsupported (ne_cutReason_of_last (c := 'e') rfl (by decide)) _ _)
  | .function span =>
    rw [schemaAt, ofType] at h
    exact absurd h (uncut_unsupported (ne_cutReason_of_last (c := 'e') rfl (by decide)) _ _)
  | .other span construct =>
    rw [schemaAt, ofType] at h
    exact absurd h (uncut_unsupported
      (ne_cutReason_of_last (getLast?_append _ " syntax" rfl) (by decide)) _ _)
termination_by ((ctx.catalog.unused σ).length, sizeOf t)

theorem exists_meets_of_cut_name (hn : (ctx.catalog.shapes.map (·.name)).Nodup) (σ : List String)
    {span : Span} {name : String} {args : List TypeExpr}
    (hname : ∀ item, args = [item] → TypePath.isListName name = false) {p : List Step} {N : String}
    (h : (ofName ctx (ctx.catalog.unused σ) span name).value.schema.at? p =
      some (.unsupported (cutReason N))) :
    ∃ s σ', ctx.catalog.Meets σ (.reference span name args) p s σ' ∧ s.name = N ∧ N ∈ σ' := by
  cases hs : ctx.catalog.get? (TypeExpr.lastSegment name) with
  | none =>
    rw [ofName_foreign hs] at h
    exact absurd h (uncut_ofForeignName _ _ _ _)
  | some s =>
    have hnames : ctx.catalog.Names (.reference span name args) s := ⟨span, name, args, rfl, hname, hs⟩
    by_cases hstack : s.name ∈ σ
    · rw [value_ofName_cut hs fun hfree => (ShapeCatalog.mem_unused hs).mp hfree hstack] at h
      cases p with
      | nil =>
        obtain rfl : s.name = N := cutReason_inj (by simpa [ofSchema] using h)
        exact ⟨s, σ, .here .here hnames, rfl, hstack⟩
      | cons step rest => simp [ofSchema] at h
    · have hfree := (ShapeCatalog.mem_unused hs).mpr hstack
      have hless := ShapeCatalog.length_unused_cons hn hs hstack
      cases hobject : s.isObjectLike with
      | true =>
        rw [value_ofName_fields hs hfree hobject, ShapeCatalog.erase_unused hn] at h
        obtain ⟨m, u, rest, rfl, hlast, -, hu, h⟩ := cut_of_fields MergedField.name
          (fun m => (m.field, m.owner, m.name)) (fun _ => rfl) h
        obtain ⟨s', σ', hmeets, hN⟩ := exists_meets_of_cut hn (s.name :: σ) m.owner m.name u h
        exact ⟨s', σ', .expanded .here hnames hstack (.field hobject hlast hu) hmeets, hN⟩
      | false =>
        rw [value_ofName_type hs hfree hobject, ShapeCatalog.erase_unused hn] at h
        have h := (retagged_withDeclarationTags ..).at?_eq_unsupported h
        obtain ⟨s', σ', hmeets, hN⟩ := exists_meets_of_cut hn (s.name :: σ) s.name "" s.decl.type h
        exact ⟨s', σ', .expanded .here hnames hstack (.type hobject) hmeets, hN⟩
termination_by ((ctx.catalog.unused σ).length, 0)

end

end TypeSchema

/-! ## 5. Declarations -/

/-- Reading a declared shape comes to a type before it comes to another shape. -/
structure ShapeInfo.Contains (c : ShapeCatalog) (s : ShapeInfo) (t : TypeExpr) : Prop where
  declared : c.get? s.name = some s
  inside : ∃ q owner path u p, s.Holds q owner path u ∧ u.Inside p t

namespace TypeSchema

variable {ctx : TypeContext}

/-- The schema of a type in a declaration is cut where it must be, and only there. -/
structure CutsRecursion (ctx : TypeContext) (root : ShapeInfo) (owner path : String) (t : TypeExpr) :
    Prop where
  /-- Translating the type ends, in one way, and with nothing but the declaration under expansion again. -/
  runs : ∀ r σ, Translates ctx [root.name] owner path t r σ ↔
    r = (ofType ctx (root.others ctx) owner path t).value ∧ σ = [root.name]
  /-- The nodes that are cut are those of the references to the declaration itself, or to a shape below whose
  expansion they stand. -/
  cut : ∀ p name,
    (schemaAt ctx (root.others ctx) owner path t).at? p = some (.unsupported (cutReason name)) ↔
      ∃ s σ, ctx.catalog.Meets [root.name] t p s σ ∧ s.name = name ∧ name ∈ σ
  /-- All other references are expanded. -/
  expanded : ∀ p s σ, ctx.catalog.Meets [root.name] t p s σ → s.name ∉ σ →
    ∃ n, (schemaAt ctx (root.others ctx) owner path t).at? p = some n ∧
      Expands ctx (ctx.catalog.unused (s.name :: σ)) s n
  /-- On the way to a reference no shape is expanded twice, and the declaration not at all. -/
  once : ∀ p s σ, ctx.catalog.Meets [root.name] t p s σ → σ.Nodup ∧ [root.name] <:+ σ
  /-- A shape that does not lead back to itself is always expanded. -/
  always : ∀ p s σ, ctx.catalog.Meets [root.name] t p s σ → ¬ctx.catalog.IsRecursive s.name →
    (s.name = root.name → root.Contains ctx.catalog t) → s.name ∉ σ

/-- **Recursion is cut exactly where it must be.** -/
theorem cutsRecursion (hn : (ctx.catalog.shapes.map (·.name)).Nodup) (root : ShapeInfo)
    (owner path : String) (t : TypeExpr) : CutsRecursion ctx root owner path t where
  runs r σ := by
    rw [ShapeInfo.others_eq_unused hn]
    exact translates_iff hn
  cut p name := by
    rw [ShapeInfo.others_eq_unused hn]
    constructor
    · exact exists_meets_of_cut hn _ owner path t
    · rintro ⟨s, σ, hmeets, rfl, hmem⟩
      obtain ⟨span, name, n, hs, hnode, hr⟩ := exists_node_of_meets hn hmeets owner path
      rw [value_ofName_cut hs fun hfree => (ShapeCatalog.mem_unused hs).mp hfree hmem] at hr
      rw [hnode, (hr.sameBelow.unsupported _).mpr rfl]
  expanded p s σ hmeets hstack := by
    rw [ShapeInfo.others_eq_unused hn]
    obtain ⟨span, name, n, hs, hnode, hr⟩ := exists_node_of_meets hn hmeets owner path
    have hexpands := expands_ofName hs ((ShapeCatalog.mem_unused hs).mpr hstack) span
    rw [ShapeCatalog.erase_unused hn] at hexpands
    exact ⟨n, hnode, hexpands.retagged hr⟩
  once p s σ hmeets := ⟨hmeets.nodup (List.nodup_singleton _), hmeets.suffix⟩
  always p s σ hmeets hfinite hroot hmem := by
    rcases hmeets.transGen_of_mem hmem with hstart | hway
    · have hname : s.name = root.name := List.mem_singleton.mp hstart
      obtain ⟨hdeclared, q, owner', path', u, p', hold, hin⟩ := hroot hname
      have hway := (hmeets.of_inside hin).transGen_of_holds hdeclared hold
      rw [← hname] at hway
      exact hfinite hway
    · exact hfinite hway

end TypeSchema

/-! ### A word with its followers -/

namespace Sample

/-- An interface with required fields that have no comments. -/
def plainShape (name : String) (fields : List (String × TypeExpr)) : ShapeInfo where
  decl := ⟨name, .interface, [], .object Span.origin [] [], none, false, Span.origin, Span.origin⟩
  markers := []
  fields := fields.map fun (field, t) => ⟨⟨field, false, false, some t, none, Span.origin⟩, name⟩
  skipped := []
  isObjectLike := true
  kind := .parameter

def formShape : ShapeInfo := plainShape "Form" [("text", .keyword Span.origin "string")]

/-- A word has two forms, and a list of words that may come after it. -/
def wordShape : ShapeInfo :=
  plainShape "Word" [("written", .reference Span.origin "Form" []),
    ("spoken", .reference Span.origin "Form" []),
    ("next", .array Span.origin (.reference Span.origin "Word" []))]

def dictionary : TypeContext := ⟨⟨[formShape, wordShape], []⟩, .empty⟩

def aWord : TypeExpr := .reference Span.origin "Word" []

/-- The words that come after a word are cut. Its forms are not, though they are one shape. -/
theorem word_cut : (dictionary.catalog.shapes.map (·.name)).Nodup ∧
    TypeSchema.CutsRecursion dictionary (plainShape "Speak" []) "Speak" "params" aWord ∧
    (TypeSchema.schemaAt dictionary ["Form", "Word"] "Speak" "params" aWord).at?
      [.field "next", .item] = some (.unsupported "recursive reference to `Word`") ∧
    ∀ name ∈ ["written", "spoken"], ∃ n,
      (TypeSchema.schemaAt dictionary ["Form", "Word"] "Speak" "params" aWord).at? [.field name] = some n ∧
        TypeSchema.Expands dictionary [] formShape n := by
  have hn : (dictionary.catalog.shapes.map (·.name)).Nodup := by decide
  have hcuts := TypeSchema.cutsRecursion hn (plainShape "Speak" []) "Speak" "params" aWord
  have hword : dictionary.catalog.Names aWord wordShape := ⟨Span.origin, "Word", [], rfl, by simp, rfl⟩
  have hform : dictionary.catalog.Names (.reference Span.origin "Form" []) formShape :=
    ⟨Span.origin, "Form", [], rfl, by simp, rfl⟩
  have hnext : wordShape.Holds [.field "next"] "Word" "next" (.array Span.origin aWord) :=
    .field (m := wordShape.fields[2]) rfl rfl rfl
  have hcut : dictionary.catalog.Meets ["Speak"] aWord [.field "next", .item] wordShape ["Word", "Speak"] :=
    .expanded .here hword (by decide) hnext (.here (.item .here) hword)
  refine ⟨hn, hcuts, (hcuts.cut _ _).mpr ⟨wordShape, _, hcut, rfl, List.mem_cons_self⟩, ?_⟩
  have hmet : ∀ name ∈ ["written", "spoken"],
      dictionary.catalog.Meets ["Speak"] aWord [.field name] formShape ["Word", "Speak"] := by
    simp only [List.forall_mem_cons, List.not_mem_nil, false_implies, implies_true, and_true]
    exact ⟨.expanded .here hword (by decide) (.field (m := wordShape.fields[0]) rfl rfl rfl) (.here .here hform),
      .expanded .here hword (by decide) (.field (m := wordShape.fields[1]) rfl rfl rfl) (.here .here hform)⟩
  exact fun name hname => hcuts.expanded _ _ _ (hmet name hname) (by decide)

end Sample

end ServiceGraph
