import Mathlib.Data.List.Perm.Basic
import ServiceGraph.Proofs.Syntax.Parts
import ServiceGraph.Schema.OfType

/-!
What a schema depends on.

A type is read against a context and a list of names that may still be expanded. Of the context only what is
found under a name matters, and of the list only which names are in it: contexts that agree on a set
of names give the same schemas with the same notes to types in which only these names stand
(`TypeSchema.ofType_eq_on`), by induction along the reader. The set has to be closed: what is found under a
name of the set names only the set again.
-/

namespace ServiceGraph

open Syntax

/-! ## 1. Names -/

/-- All names in a type belong to a set. -/
abbrev Syntax.TypeExpr.NamesIn (known : String → Bool) : TypeExpr → Prop :=
  TypeExpr.Everywhere fun u => ∀ name ∈ u.referenceName?, known name = true

/-- A field is declared by a shape of a set, and so are the shapes named in its type. -/
structure MergedField.NamesIn (known : String → Bool) (f : MergedField) : Prop where
  owner : known f.owner = true
  type : ∀ t ∈ f.type?, t.NamesIn known

/-- A shape belongs to a set of names, together with all that it names. -/
structure ShapeInfo.NamesIn (known : String → Bool) (s : ShapeInfo) : Prop where
  name : known s.name = true
  type : s.decl.type.NamesIn known
  fields : ∀ f ∈ s.fields, f.NamesIn known

theorem MergedField.namesIn_all (f : MergedField) : f.NamesIn fun _ => true :=
  ⟨rfl, fun _ _ _ _ _ _ => rfl⟩

theorem ShapeInfo.namesIn_all (s : ShapeInfo) : s.NamesIn fun _ => true :=
  ⟨rfl, fun _ _ _ _ => rfl, fun f _ => f.namesIn_all⟩

namespace TypeContext

/-- Two contexts in which the same is found under the names of a closed set. -/
structure AgreesOn (known : String → Bool) (ctx ctx' : TypeContext) : Prop where
  shape : ∀ name, known name = true → ctx'.catalog.get? name = ctx.catalog.get? name
  annotation : ∀ owner path, known owner = true →
    ctx'.annotations.get? owner path = ctx.annotations.get? owner path
  names : ((ctx.catalog.shapes.map (·.name)).filter known).Perm
    ((ctx'.catalog.shapes.map (·.name)).filter known)
  closed : ∀ name s, known name = true → ctx.catalog.get? name = some s → s.NamesIn known

/-- Two contexts in which the same is found. -/
structure Agrees (ctx ctx' : TypeContext) : Prop where
  shape : ∀ name, ctx'.catalog.get? name = ctx.catalog.get? name
  annotation : ∀ owner path, ctx'.annotations.get? owner path = ctx.annotations.get? owner path
  names : (ctx.catalog.shapes.map (·.name)).Perm (ctx'.catalog.shapes.map (·.name))

variable {ctx ctx' : TypeContext}

theorem Agrees.on (h : ctx.Agrees ctx') : ctx.AgreesOn (fun _ => true) ctx' where
  shape name _ := h.shape name
  annotation owner path _ := h.annotation owner path
  names := h.names.filter _
  closed _ s _ _ := s.namesIn_all

end TypeContext

/-! ## 2. Reading -/

namespace TypeSchema

variable {known : String → Bool} {ctx ctx' : TypeContext} {free free' : List String}

theorem mem_of_kept {members : List TypeExpr} {t : TypeExpr} (h : kept members = [t]) :
    t ∈ members := by
  have ht : t ∈ kept members := by simp [h]
  exact (List.mem_filter.mp ht).1

/-- Of the names of a set the same may still be expanded. -/
theorem mem_free_iff (hfree : (free.filter known).Perm (free'.filter known)) {name : String}
    (hname : known name = true) : name ∈ free ↔ name ∈ free' := by
  have hmem := hfree.mem_iff (a := name)
  simpa [List.mem_filter, hname] using hmem

theorem free_erase (hfree : (free.filter known).Perm (free'.filter known)) (name : String) :
    ((free.erase name).filter known).Perm ((free'.erase name).filter known) := by
  rw [← List.erase_filter, ← List.erase_filter]
  exact hfree.erase name

theorem field_eq_on (h : ctx.AgreesOn known ctx') {owner : String} (howner : known owner = true)
    (path name : String) (mayBeMissing : Bool) (t : TypeSchema) :
    field ctx'.annotations owner path name mayBeMissing t =
      field ctx.annotations owner path name mayBeMissing t := by
  unfold field
  rw [h.annotation owner path howner]

mutual

/-- Contexts that agree on the names of a type give it the same schema. -/
theorem ofType_eq_on (h : ctx.AgreesOn known ctx') {free free' : List String}
    (hfree : (free.filter known).Perm (free'.filter known)) {owner : String}
    (howner : known owner = true) (path : String) (t : TypeExpr) (ht : t.NamesIn known) :
    ofType ctx' free' owner path t = ofType ctx free owner path t := by
  match t, ht with
  | .array span item, ht =>
    rw [ofType, ofType, ofType_eq_on h hfree howner _ item ht.item]
  | .reference span name args, ht =>
    have hname : known (TypeExpr.lastSegment name) = true := ht.self _ rfl
    match args with
    | [item] =>
      rw [ofType, ofType, ofType_eq_on h hfree howner _ item (ht.argument List.mem_cons_self),
        ofName_eq_on h hfree span name hname]
    | [] | _ :: _ :: _ => simp only [ofType, ofName_eq_on h hfree span name hname]
  | .object span fields skipped, ht =>
    rw [ofType, ofType,
      ofFields_eq_on h hfree howner path fields fun f hf t ht' => ht.field hf ht']
  | .union span members, ht =>
    rw [ofType, ofType]
    congr 1
    funext _
    dsimp only
    split
    · rfl
    · rename_i single hkept
      have := sizeOf_lt_of_kept hkept
      rw [ofType_eq_on h hfree howner path single (ht.unionMember (mem_of_kept hkept))]
    · rfl
  | .keyword span name, _ => rw [ofType, ofType]
  | .literal span value, _ => rw [ofType, ofType]
  | .tuple span items, _ => rw [ofType, ofType]
  | .intersection span items, _ => rw [ofType, ofType]
  | .function span, _ => rw [ofType, ofType]
  | .other span construct, _ => rw [ofType, ofType]
termination_by (free.length, sizeOf t)

theorem ofName_eq_on (h : ctx.AgreesOn known ctx') {free free' : List String}
    (hfree : (free.filter known).Perm (free'.filter known)) (span : Span) (name : String)
    (hname : known (TypeExpr.lastSegment name) = true) :
    ofName ctx' free' span name = ofName ctx free span name := by
  rw [ofName, ofName, h.shape _ hname]
  cases hget : ctx.catalog.get? (TypeExpr.lastSegment name) with
  | none => rfl
  | some s =>
    have hs := h.closed _ s hname hget
    dsimp only
    by_cases hmem : s.name ∈ free
    · have hmem' := (mem_free_iff hfree hs.name).mp hmem
      have hlength : (free.erase s.name).length < free.length := by
        rw [List.length_erase_of_mem hmem]
        have := List.length_pos_of_mem hmem
        omega
      rw [dif_pos hmem, dif_pos hmem', ofMerged_eq_on h (free_erase hfree _) s.fields hs.fields,
        ofType_eq_on h (free_erase hfree _) hs.name "" s.decl.type hs.type]
      simp only [AnnotationTable.declaration?, h.annotation s.name "" hs.name]
    · rw [dif_neg hmem, dif_neg (fun hmem' => hmem ((mem_free_iff hfree hs.name).mpr hmem'))]
termination_by (free.length, 0)

theorem ofFields_eq_on (h : ctx.AgreesOn known ctx') {free free' : List String}
    (hfree : (free.filter known).Perm (free'.filter known)) {owner : String}
    (howner : known owner = true) (path : String) (fields : List (FieldOf TypeExpr))
    (hfields : ∀ f ∈ fields, ∀ t ∈ f.type?, t.NamesIn known) :
    ofFields ctx' free' owner path fields = ofFields ctx free owner path fields := by
  match fields with
  | [] => rw [ofFields, ofFields]
  | f :: rest =>
    rw [ofFields, ofFields, ofField_eq_on h hfree howner _ f (hfields f List.mem_cons_self),
      ofFields_eq_on h hfree howner path rest fun g hg => hfields g (List.mem_cons_of_mem _ hg)]
termination_by (free.length, sizeOf fields)

theorem ofMerged_eq_on (h : ctx.AgreesOn known ctx') {free free' : List String}
    (hfree : (free.filter known).Perm (free'.filter known)) (fields : List MergedField)
    (hfields : ∀ f ∈ fields, f.NamesIn known) :
    ofMerged ctx' free' fields = ofMerged ctx free fields := by
  match fields with
  | [] => rw [ofMerged, ofMerged]
  | ⟨f, owner⟩ :: rest =>
    have hf := hfields ⟨f, owner⟩ List.mem_cons_self
    rw [ofMerged, ofMerged, ofField_eq_on h hfree hf.owner _ f hf.type,
      ofMerged_eq_on h hfree rest fun g hg => hfields g (List.mem_cons_of_mem _ hg)]
termination_by (free.length, sizeOf fields)

theorem ofField_eq_on (h : ctx.AgreesOn known ctx') {free free' : List String}
    (hfree : (free.filter known).Perm (free'.filter known)) {owner : String}
    (howner : known owner = true) (path : String) (f : FieldOf TypeExpr)
    (hf : ∀ t ∈ f.type?, t.NamesIn known) :
    ofField ctx' free' owner path f = ofField ctx free owner path f := by
  match f with
  | ⟨name, isOptional, isReadonly, type?, doc?, span⟩ =>
    rw [ofField, ofField, ofDeclared_eq_on h hfree howner path type? hf]
    simp only [field_eq_on h howner]
termination_by (free.length, sizeOf f)

theorem ofDeclared_eq_on (h : ctx.AgreesOn known ctx') {free free' : List String}
    (hfree : (free.filter known).Perm (free'.filter known)) {owner : String}
    (howner : known owner = true) (path : String) (type? : Option TypeExpr)
    (htype : ∀ t ∈ type?, t.NamesIn known) :
    ofDeclared ctx' free' owner path type? = ofDeclared ctx free owner path type? := by
  match type? with
  | some t => rw [ofDeclared, ofDeclared, ofType_eq_on h hfree howner path t (htype t rfl)]
  | none => rw [ofDeclared, ofDeclared]
termination_by (free.length, sizeOf type?)

end

theorem ofName_eq (h : ctx.Agrees ctx') {free free' : List String} (hfree : free.Perm free')
    (span : Span) (name : String) : ofName ctx' free' span name = ofName ctx free span name :=
  ofName_eq_on h.on (hfree.filter _) span name rfl

end TypeSchema

end ServiceGraph
