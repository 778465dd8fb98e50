import Mathlib.Data.List.Basic
import ServiceGraph.Descriptor.OfShape
import ServiceGraph.Proofs.Noted

/-!
Translating types with a stack of the shapes under expansion.

`Translates` is the translation as a machine with one piece of state runs it: a shape is put on the stack when its
expansion begins and taken off when it ends, and a reference to a shape on the stack is cut. Nothing in the
relation says that a run ends, or that it leaves the stack as it was.

Both hold (`TypeSchema.translates_iff`): every type has exactly one run, which ends with the stack it began
with and gives the schema that `ofType` gives with all other names free. `ofType` is handed the complement of
the stack, so its list of free names shrinks where the stack grows.
-/

namespace ServiceGraph

open Syntax

/-! ## 1. The shapes that are not under expansion -/

namespace ShapeCatalog

variable {c : ShapeCatalog} {stack : List String}

/-- The names of the shapes that are not on a stack. -/
def unused (c : ShapeCatalog) (stack : List String) : List String :=
  (c.shapes.map (·.name)).filter fun name => name ∉ stack

theorem name_of_get? {name : String} {s : ShapeInfo} (hs : c.get? name = some s) : s.name = name := by
  simpa using List.find?_some hs

theorem get?_self {name : String} {s : ShapeInfo} (hs : c.get? name = some s) :
    c.get? s.name = some s := by
  rw [name_of_get? hs, hs]

theorem mem_unused {name : String} {s : ShapeInfo} (hs : c.get? name = some s) :
    s.name ∈ c.unused stack ↔ s.name ∉ stack := by
  have hmem : s.name ∈ c.shapes.map (·.name) :=
    List.mem_map_of_mem (List.mem_of_find?_eq_some hs)
  simp [unused, List.mem_filter, hmem]

/-- Expanding a shape puts it on the stack. -/
theorem erase_unused (hn : (c.shapes.map (·.name)).Nodup) (name : String) :
    (c.unused stack).erase name = c.unused (name :: stack) := by
  unfold unused
  rw [List.Nodup.erase_eq_filter (hn.filter _), List.filter_filter]
  congr 1
  funext other
  rw [Bool.eq_iff_iff]
  simp

theorem length_unused_cons {name : String} {s : ShapeInfo} (hn : (c.shapes.map (·.name)).Nodup)
    (hs : c.get? name = some s) (hstack : s.name ∉ stack) :
    (c.unused (s.name :: stack)).length < (c.unused stack).length := by
  have hmem := (mem_unused hs).mpr hstack
  rw [← erase_unused hn, List.length_erase_of_mem hmem]
  have := List.length_pos_of_mem hmem
  omega

end ShapeCatalog

/-- Below a declaration all shapes may be expanded but the declared one. -/
theorem ShapeInfo.others_eq_unused {ctx : TypeContext} (hn : (ctx.catalog.shapes.map (·.name)).Nodup)
    (s : ShapeInfo) : s.others ctx = ctx.catalog.unused [s.name] := by
  unfold others ShapeCatalog.unused
  rw [List.Nodup.erase_eq_filter hn]
  congr 1
  funext name
  rw [Bool.eq_iff_iff]
  simp

namespace TypeSchema

/-! ## 2. The machine -/

/-- A schema with what the comment of a declaration says. -/
def withDeclarationTags (ctx : TypeContext) (name : String) (t : TypeSchema) : TypeSchema :=
  match ctx.annotations.declaration? name with
  | some note => { t with schema := (t.schema.withTags note.tags name).value }
  | none => t

/-- The message in the place of a reference that leads back. -/
def cutReason (name : String) : String := s!"recursive reference to `{name}`"

/-- Fields with the places under which their comments are looked up. -/
def placesOf (owner path : String) (fields : List Field) : List (Field × String × String) :=
  fields.map fun f => (f, owner, TypePath.field path f.name)

def mergedPlaces (fields : List MergedField) : List (Field × String × String) :=
  fields.map fun m => (m.field, m.owner, m.name)

mutual

/-- Translating a type, between two stacks of shapes under expansion. -/
inductive Translates (ctx : TypeContext) :
    List String → String → String → TypeExpr → TypeSchema → List String → Prop
  | keyword {σ : List String} {owner path : String} {span : Span} {name : String} :
    Translates ctx σ owner path (.keyword span name) (ofKeyword span name).value σ
  | literal {σ : List String} {owner path : String} {span : Span} {value : Literal} :
    Translates ctx σ owner path (.literal span value) (ofLiteral span value).value σ
  | array {σ σ' : List String} {owner path : String} {span : Span} {item : TypeExpr} {t : TypeSchema}
    (hitem : Translates ctx σ owner (TypePath.item path) item t σ') :
    Translates ctx σ owner path (.array span item) (ofSchema (.listOf t.schema)) σ'
  | argument {σ σ' : List String} {owner path : String} {span : Span} {name : String}
    {item : TypeExpr} {t : TypeSchema} (hlist : TypePath.isListName name = true)
    (hitem : Translates ctx σ owner (TypePath.item path) item t σ') :
    Translates ctx σ owner path (.reference span name [item]) (ofSchema (.listOf t.schema)) σ'
  | reference {σ σ' : List String} {owner path : String} {span : Span} {name : String}
    {args : List TypeExpr} {t : TypeSchema}
    (hname : ∀ item, args = [item] → TypePath.isListName name = false)
    (h : TranslatesName ctx σ span name t σ') :
    Translates ctx σ owner path (.reference span name args) t σ'
  | object {σ σ' : List String} {owner path : String} {span : Span} {fields : List Field}
    {skipped : List SkippedMember} {xs : List SchemaField}
    (h : TranslatesFields ctx σ (placesOf owner path fields) xs σ') :
    Translates ctx σ owner path (.object span fields skipped) (ofSchema (.ofFields xs)) σ'
  | empty {σ : List String} {owner path : String} {span : Span} {members : List TypeExpr}
    (hkept : kept members = []) :
    Translates ctx σ owner path (.union span members) ⟨.plain .null, members.any isUndefinedType⟩ σ
  | single {σ σ' : List String} {owner path : String} {span : Span} {members : List TypeExpr}
    {single : TypeExpr} {t : TypeSchema} (hkept : kept members = [single])
    (h : Translates ctx σ owner path single t σ') :
    Translates ctx σ owner path (.union span members)
      ⟨t.schema, members.any isUndefinedType || t.isOptional⟩ σ'
  | several {σ : List String} {owner path : String} {span : Span}
    {members : List TypeExpr} {first second : TypeExpr} {rest : List TypeExpr}
    (hkept : kept members = first :: second :: rest) :
    Translates ctx σ owner path (.union span members)
      ⟨(ofMembers first.span (first :: second :: rest)).value.schema, members.any isUndefinedType⟩ σ
  | tuple {σ : List String} {owner path : String} {span : Span} {items : List TypeExpr} :
    Translates ctx σ owner path (.tuple span items) (ofSchema (.unsupported "tuple type")) σ
  | intersection {σ : List String} {owner path : String} {span : Span} {items : List TypeExpr} :
    Translates ctx σ owner path (.intersection span items)
      (ofSchema (.unsupported "intersection type")) σ
  | function {σ : List String} {owner path : String} {span : Span} :
    Translates ctx σ owner path (.function span) (ofSchema (.unsupported "function type")) σ
  | other {σ : List String} {owner path : String} {span : Span} {construct : String} :
    Translates ctx σ owner path (.other span construct) (ofSchema (.unsupported
      (String.ofList (construct.toList.map fun c => if c = '_' then ' ' else c) ++ " syntax"))) σ

/-- Translating a name. What an expansion leaves on top of the stack is taken off, whatever it is. -/
inductive TranslatesName (ctx : TypeContext) :
    List String → Span → String → TypeSchema → List String → Prop
  | foreign {σ : List String} {span : Span} {name : String}
    (hs : ctx.catalog.get? (TypeExpr.lastSegment name) = none) :
    TranslatesName ctx σ span name (ofForeignName span name).value σ
  | cut {σ : List String} {span : Span} {name : String} {s : ShapeInfo}
    (hs : ctx.catalog.get? (TypeExpr.lastSegment name) = some s) (hstack : s.name ∈ σ) :
    TranslatesName ctx σ span name (ofSchema (.unsupported (cutReason s.name))) σ
  | fields {σ σ' : List String} {span : Span} {name : String} {s : ShapeInfo}
    {xs : List SchemaField} (hs : ctx.catalog.get? (TypeExpr.lastSegment name) = some s)
    (hstack : s.name ∉ σ) (hobject : s.isObjectLike = true)
    (h : TranslatesFields ctx (s.name :: σ) (mergedPlaces s.fields) xs σ') :
    TranslatesName ctx σ span name (ofSchema (.ofFields xs)) σ'.tail
  | type {σ σ' : List String} {span : Span} {name : String} {s : ShapeInfo} {t : TypeSchema}
    (hs : ctx.catalog.get? (TypeExpr.lastSegment name) = some s) (hstack : s.name ∉ σ)
    (hobject : s.isObjectLike = false)
    (h : Translates ctx (s.name :: σ) s.name "" s.decl.type t σ') :
    TranslatesName ctx σ span name (withDeclarationTags ctx s.name t) σ'.tail

/-- Translating fields one after another, each from the stack that the one before it leaves. -/
inductive TranslatesFields (ctx : TypeContext) :
    List String → List (Field × String × String) → List SchemaField → List String → Prop
  | nil {σ : List String} : TranslatesFields ctx σ [] [] σ
  | typed {σ σ' σ'' : List String} {f : Field} {owner path : String}
    {rest : List (Field × String × String)} {type : TypeExpr} {t : TypeSchema}
    {xs : List SchemaField} (htype : f.type? = some type)
    (hfirst : Translates ctx σ owner path type t σ') (hrest : TranslatesFields ctx σ' rest xs σ'') :
    TranslatesFields ctx σ ((f, owner, path) :: rest)
      ((field ctx.annotations owner path f.name f.isOptional t).value :: xs) σ''
  | untyped {σ σ' : List String} {f : Field} {owner path : String}
    {rest : List (Field × String × String)} {xs : List SchemaField} (htype : f.type? = none)
    (hrest : TranslatesFields ctx σ rest xs σ') :
    TranslatesFields ctx σ ((f, owner, path) :: rest)
      ((field ctx.annotations owner path f.name f.isOptional (ofSchema (.plain .any))).value :: xs) σ'

end

/-! ## 3. What `ofType` gives -/

variable {ctx : TypeContext} {free : List String}

/-- The fields of an object type or of a shape, each from its own declaration. -/
def fieldAt (ctx : TypeContext) (free : List String) (place : Field × String × String) : SchemaField :=
  (ofField ctx free place.2.1 place.2.2 place.1).value

theorem value_ofFields (owner path : String) : ∀ fields : List Field,
    (ofFields ctx free owner path fields).value = (placesOf owner path fields).map (fieldAt ctx free)
  | [] => by rw [ofFields]; rfl
  | f :: rest => by
      rw [ofFields, Noted.value_bind, Noted.value_bind, value_ofFields owner path rest]
      rfl

theorem value_ofMerged : ∀ fields : List MergedField,
    (ofMerged ctx free fields).value = (mergedPlaces fields).map (fieldAt ctx free)
  | [] => by rw [ofMerged]; rfl
  | ⟨f, owner⟩ :: rest => by
      rw [ofMerged, Noted.value_bind, Noted.value_bind, value_ofMerged rest]
      rfl

theorem value_ofField (owner path : String) (f : Field) :
    (ofField ctx free owner path f).value =
      (field ctx.annotations owner path f.name f.isOptional
        (ofDeclared ctx free owner path f.type?).value).value := by
  cases f
  rw [ofField]
  rfl

theorem value_ofType_array (owner path : String) (span : Span) (item : TypeExpr) :
    (ofType ctx free owner path (.array span item)).value =
      ofSchema (.listOf (ofType ctx free owner (TypePath.item path) item).value.schema) := by
  rw [ofType]
  rfl

theorem value_ofType_argument {name : String} (hlist : TypePath.isListName name = true)
    (owner path : String) (span : Span) (item : TypeExpr) :
    (ofType ctx free owner path (.reference span name [item])).value =
      ofSchema (.listOf (ofType ctx free owner (TypePath.item path) item).value.schema) := by
  rw [ofType, if_pos hlist]
  rfl

theorem ofType_reference {name : String} {args : List TypeExpr}
    (hname : ∀ item, args = [item] → TypePath.isListName name = false) (owner path : String)
    (span : Span) : ofType ctx free owner path (.reference span name args) = ofName ctx free span name := by
  match args with
  | [item] => rw [ofType, if_neg (by simp [hname item rfl])]
  | [] | _ :: _ :: _ => rw [ofType]; simp

theorem value_ofType_object (owner path : String) (span : Span) (fields : List Field)
    (skipped : List SkippedMember) :
    (ofType ctx free owner path (.object span fields skipped)).value =
      ofSchema (.ofFields ((placesOf owner path fields).map (fieldAt ctx free))) := by
  rw [ofType, ← value_ofFields]
  rfl

theorem value_ofType_empty {members : List TypeExpr} (hkept : kept members = [])
    (owner path : String) (span : Span) :
    (ofType ctx free owner path (.union span members)).value =
      ⟨.plain .null, members.any isUndefinedType⟩ := by
  rw [ofType, Noted.value_bind]
  dsimp only
  split <;> simp_all

theorem value_ofType_single {members : List TypeExpr} {single : TypeExpr}
    (hkept : kept members = [single]) (owner path : String) (span : Span) :
    (ofType ctx free owner path (.union span members)).value =
      ⟨(ofType ctx free owner path single).value.schema,
        members.any isUndefinedType || (ofType ctx free owner path single).value.isOptional⟩ := by
  rw [ofType, Noted.value_bind]
  dsimp only
  split <;> simp_all

theorem value_ofType_several {members : List TypeExpr} {first second : TypeExpr}
    {rest : List TypeExpr} (hkept : kept members = first :: second :: rest) (owner path : String)
    (span : Span) :
    (ofType ctx free owner path (.union span members)).value =
      ⟨(ofMembers first.span (first :: second :: rest)).value.schema,
        members.any isUndefinedType⟩ := by
  rw [ofType, Noted.value_bind]
  dsimp only
  split <;> simp_all

theorem ofName_foreign {name : String} (hs : ctx.catalog.get? (TypeExpr.lastSegment name) = none)
    (span : Span) : ofName ctx free span name = ofForeignName span name := by
  rw [ofName, hs]

theorem value_ofName_cut {name : String} {s : ShapeInfo}
    (hs : ctx.catalog.get? (TypeExpr.lastSegment name) = some s) (hfree : s.name ∉ free)
    (span : Span) :
    (ofName ctx free span name).value = ofSchema (.unsupported (cutReason s.name)) := by
  rw [ofName, hs]
  dsimp only
  rw [dif_neg hfree]
  rfl

theorem value_ofName_fields {name : String} {s : ShapeInfo}
    (hs : ctx.catalog.get? (TypeExpr.lastSegment name) = some s) (hfree : s.name ∈ free)
    (hobject : s.isObjectLike = true) (span : Span) :
    (ofName ctx free span name).value =
      ofSchema (.ofFields ((mergedPlaces s.fields).map (fieldAt ctx (free.erase s.name)))) := by
  rw [ofName, hs]
  dsimp only
  rw [dif_pos hfree, if_pos hobject, ← value_ofMerged]
  rfl

theorem value_ofName_type {name : String} {s : ShapeInfo}
    (hs : ctx.catalog.get? (TypeExpr.lastSegment name) = some s) (hfree : s.name ∈ free)
    (hobject : s.isObjectLike = false) (span : Span) :
    (ofName ctx free span name).value = withDeclarationTags ctx s.name
      (ofType ctx (free.erase s.name) s.name "" s.decl.type).value := by
  rw [ofName, hs]
  dsimp only
  rw [dif_pos hfree, if_neg (by simp [hobject]), Noted.value_bind]
  unfold withDeclarationTags
  cases ctx.annotations.declaration? s.name <;> rfl

/-! ## 4. Every run ends as `ofType` says -/

mutual

/-- A run gives what `ofType` gives, and takes off the stack what it puts there. -/
theorem Translates.eq (hn : (ctx.catalog.shapes.map (·.name)).Nodup)
    {σ σ' : List String} {owner path : String} {t : TypeExpr} {r : TypeSchema} :
    Translates ctx σ owner path t r σ' →
      r = (ofType ctx (ctx.catalog.unused σ) owner path t).value ∧ σ' = σ
  | .keyword | .literal => ⟨by rw [ofType], rfl⟩
  | .tuple | .intersection | .function | .other => ⟨by rw [ofType]; rfl, rfl⟩
  | .array hitem => by
      obtain ⟨rfl, hσ⟩ := Translates.eq hn hitem
      exact ⟨(value_ofType_array ..).symm, hσ⟩
  | .argument hlist hitem => by
      obtain ⟨rfl, hσ⟩ := Translates.eq hn hitem
      exact ⟨(value_ofType_argument hlist ..).symm, hσ⟩
  | .reference hname h => by
      rw [ofType_reference hname]
      exact TranslatesName.eq hn h
  | .object h => by
      obtain ⟨rfl, hσ⟩ := TranslatesFields.eq hn h
      exact ⟨(value_ofType_object ..).symm, hσ⟩
  | .empty hkept => ⟨(value_ofType_empty hkept ..).symm, rfl⟩
  | .single hkept h => by
      obtain ⟨rfl, hσ⟩ := Translates.eq hn h
      exact ⟨(value_ofType_single hkept ..).symm, hσ⟩
  | .several hkept => ⟨(value_ofType_several hkept ..).symm, rfl⟩

theorem TranslatesName.eq (hn : (ctx.catalog.shapes.map (·.name)).Nodup)
    {σ σ' : List String} {span : Span} {name : String} {r : TypeSchema} :
    TranslatesName ctx σ span name r σ' →
      r = (ofName ctx (ctx.catalog.unused σ) span name).value ∧ σ' = σ
  | .foreign hs => ⟨by rw [ofName_foreign hs], rfl⟩
  | .cut hs hstack =>
      ⟨(value_ofName_cut hs (fun h => (ShapeCatalog.mem_unused hs).mp h hstack) _).symm, rfl⟩
  | .fields hs hstack hobject h => by
      obtain ⟨rfl, rfl⟩ := TranslatesFields.eq hn h
      rw [value_ofName_fields hs ((ShapeCatalog.mem_unused hs).mpr hstack) hobject,
        ShapeCatalog.erase_unused hn]
      exact ⟨rfl, rfl⟩
  | .type hs hstack hobject h => by
      obtain ⟨rfl, rfl⟩ := Translates.eq hn h
      rw [value_ofName_type hs ((ShapeCatalog.mem_unused hs).mpr hstack) hobject,
        ShapeCatalog.erase_unused hn]
      exact ⟨rfl, rfl⟩

theorem TranslatesFields.eq (hn : (ctx.catalog.shapes.map (·.name)).Nodup)
    {σ σ' : List String} {places : List (Field × String × String)} {xs : List SchemaField} :
    TranslatesFields ctx σ places xs σ' →
      xs = places.map (fieldAt ctx (ctx.catalog.unused σ)) ∧ σ' = σ
  | .nil => ⟨rfl, rfl⟩
  | .typed htype hfirst hrest => by
      obtain ⟨rfl, rfl⟩ := Translates.eq hn hfirst
      obtain ⟨rfl, hσ⟩ := TranslatesFields.eq hn hrest
      rw [List.map_cons, fieldAt, value_ofField, htype, ofDeclared]
      exact ⟨rfl, hσ⟩
  | .untyped htype hrest => by
      obtain ⟨rfl, hσ⟩ := TranslatesFields.eq hn hrest
      rw [List.map_cons, fieldAt, value_ofField, htype, ofDeclared]
      exact ⟨rfl, hσ⟩

end

mutual

/-- Every type has a run: fewer shapes are left to expand, or the type is smaller. -/
theorem translates_ofType (hn : (ctx.catalog.shapes.map (·.name)).Nodup)
    (σ : List String) (owner path : String) (t : TypeExpr) :
    Translates ctx σ owner path t (ofType ctx (ctx.catalog.unused σ) owner path t).value σ := by
  match t with
  | .keyword span name => rw [ofType]; exact .keyword
  | .literal span value => rw [ofType]; exact .literal
  | .array span item =>
    rw [value_ofType_array]
    exact .array (translates_ofType hn σ owner _ item)
  | .reference span name args =>
    by_cases hlist : ∃ item, args = [item] ∧ TypePath.isListName name = true
    · obtain ⟨item, rfl, hlist⟩ := hlist
      rw [value_ofType_argument hlist]
      exact .argument hlist (translates_ofType hn σ owner _ item)
    · have hname : ∀ item, args = [item] → TypePath.isListName name = false :=
        fun item hitem => by simpa using fun h => hlist ⟨item, hitem, h⟩
      rw [ofType_reference hname]
      exact .reference hname (translatesName_ofName hn σ span name)
  | .object span fields skipped =>
    rw [value_ofType_object]
    exact .object (translatesFields_own hn σ owner path fields)
  | .union span members =>
    match hkept : kept members with
    | [] =>
      rw [value_ofType_empty hkept]
      exact .empty hkept
    | [single] =>
      have := sizeOf_lt_of_kept hkept
      rw [value_ofType_single hkept]
      exact .single hkept (translates_ofType hn σ owner path single)
    | first :: second :: rest =>
      rw [value_ofType_several hkept]
      exact .several hkept
  | .tuple span items => rw [ofType]; exact .tuple
  | .intersection span items => rw [ofType]; exact .intersection
  | .function span => rw [ofType]; exact .function
  | .other span construct => rw [ofType]; exact .other
termination_by ((ctx.catalog.unused σ).length, sizeOf t)

theorem translatesName_ofName (hn : (ctx.catalog.shapes.map (·.name)).Nodup)
    (σ : List String) (span : Span) (name : String) :
    TranslatesName ctx σ span name (ofName ctx (ctx.catalog.unused σ) span name).value σ := by
  match hs : ctx.catalog.get? (TypeExpr.lastSegment name) with
  | none =>
    rw [ofName_foreign hs]
    exact .foreign hs
  | some s =>
    by_cases hstack : s.name ∈ σ
    · rw [value_ofName_cut hs fun h => (ShapeCatalog.mem_unused hs).mp h hstack]
      exact .cut hs hstack
    · have hfree := (ShapeCatalog.mem_unused hs).mpr hstack
      have hless := ShapeCatalog.length_unused_cons hn hs hstack
      cases hobject : s.isObjectLike with
      | true =>
        rw [value_ofName_fields hs hfree hobject, ShapeCatalog.erase_unused hn]
        exact .fields hs hstack hobject (translatesFields_merged hn (s.name :: σ) s.fields)
      | false =>
        rw [value_ofName_type hs hfree hobject, ShapeCatalog.erase_unused hn]
        exact .type hs hstack hobject (translates_ofType hn (s.name :: σ) s.name "" s.decl.type)
termination_by ((ctx.catalog.unused σ).length, 0)

theorem translatesFields_own (hn : (ctx.catalog.shapes.map (·.name)).Nodup)
    (σ : List String) (owner path : String)
    (fields : List (FieldOf TypeExpr)) :
    TranslatesFields ctx σ (placesOf owner path fields)
      ((placesOf owner path fields).map (fieldAt ctx (ctx.catalog.unused σ))) σ := by
  match fields with
  | [] => exact .nil
  | f :: rest =>
    exact translatesFields_cons hn σ owner _ f (translatesFields_own hn σ owner path rest)
termination_by ((ctx.catalog.unused σ).length, sizeOf fields)

theorem translatesFields_merged (hn : (ctx.catalog.shapes.map (·.name)).Nodup)
    (σ : List String) (fields : List MergedField) :
    TranslatesFields ctx σ (mergedPlaces fields)
      ((mergedPlaces fields).map (fieldAt ctx (ctx.catalog.unused σ))) σ := by
  match fields with
  | [] => exact .nil
  | ⟨f, owner⟩ :: rest =>
    exact translatesFields_cons hn σ owner f.name f (translatesFields_merged hn σ rest)
termination_by ((ctx.catalog.unused σ).length, sizeOf fields)

theorem translatesFields_cons (hn : (ctx.catalog.shapes.map (·.name)).Nodup)
    (σ : List String) (owner path : String) (f : FieldOf TypeExpr)
    {rest : List (Field × String × String)}
    (hrest : TranslatesFields ctx σ rest (rest.map (fieldAt ctx (ctx.catalog.unused σ))) σ) :
    TranslatesFields ctx σ ((f, owner, path) :: rest)
      (((f, owner, path) :: rest).map (fieldAt ctx (ctx.catalog.unused σ))) σ := by
  match f with
  | ⟨name, isOptional, isReadonly, some t, doc?, span⟩ =>
    rw [List.map_cons, fieldAt, value_ofField, ofDeclared]
    exact .typed rfl (translates_ofType hn σ owner path t) hrest
  | ⟨name, isOptional, isReadonly, none, doc?, span⟩ =>
    rw [List.map_cons, fieldAt, value_ofField, ofDeclared]
    exact .untyped rfl hrest
termination_by ((ctx.catalog.unused σ).length, sizeOf f)

end

/-- **Every type has exactly one run.** It gives what `ofType` gives, and leaves the stack as it was. -/
theorem translates_iff (hn : (ctx.catalog.shapes.map (·.name)).Nodup)
    {σ σ' : List String} {owner path : String} {t : TypeExpr} {r : TypeSchema} :
    Translates ctx σ owner path t r σ' ↔
      r = (ofType ctx (ctx.catalog.unused σ) owner path t).value ∧ σ' = σ := by
  constructor
  · exact Translates.eq hn
  · rintro ⟨rfl, rfl⟩
    exact translates_ofType hn σ' owner path t

end TypeSchema

end ServiceGraph
