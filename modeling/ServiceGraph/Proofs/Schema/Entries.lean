import ServiceGraph.Proofs.Related
import ServiceGraph.Schema.OfType

/-!
What the reading of types asks of a catalog.

Of an entry that a name leads to, the reading of types uses the name, the fields, the members that are no fields,
and, of a shape without fields, the type. Where two contexts agree in that (`TypeContext.SameReading`), they read
every type alike (`TypeSchema.ofType_eq_of_sameReading`), whatever else the entries tell, such as how their bases
are written.
-/

namespace ServiceGraph

open Syntax

/-- Two entries that types are read alike from. -/
structure ShapeInfo.SameReading (s s' : ShapeInfo) : Prop where
  name : s'.name = s.name
  fields : s'.fields = s.fields
  skipped : s'.skipped = s.skipped
  isObjectLike : s'.isObjectLike = s.isObjectLike
  type : s.isObjectLike = false → s'.decl.type = s.decl.type

/-- Two contexts that types are read alike in. -/
structure TypeContext.SameReading (ctx ctx' : TypeContext) : Prop where
  shape : ∀ name, Option.Rel ShapeInfo.SameReading (ctx.catalog.get? name) (ctx'.catalog.get? name)
  annotations : ctx'.annotations = ctx.annotations

namespace TypeSchema

variable {ctx ctx' : TypeContext}

mutual

/-- **A type is read alike.** -/
theorem ofType_eq_of_sameReading (h : ctx.SameReading ctx') (free : List String) (owner path : String)
    (t : TypeExpr) : ofType ctx' free owner path t = ofType ctx free owner path t := by
  match t with
  | .array span inner => rw [ofType, ofType, ofType_eq_of_sameReading h free owner _ inner]
  | .reference span name [inner] =>
    rw [ofType, ofType, ofType_eq_of_sameReading h free owner _ inner,
      ofName_eq_of_sameReading h free span name]
  | .reference span name [] | .reference span name (_ :: _ :: _) =>
    simp only [ofType, ofName_eq_of_sameReading h free span name]
  | .object span fields skipped =>
    rw [ofType, ofType, ofFields_eq_of_sameReading h free owner path fields]
  | .union span members =>
    rw [ofType, ofType]
    congr 1
    funext _
    dsimp only
    split
    · rfl
    · rename_i single hkept
      have := sizeOf_lt_of_kept hkept
      rw [ofType_eq_of_sameReading h free owner path single]
    · rfl
  | .keyword _ _ | .literal _ _ | .tuple _ _ | .intersection _ _ | .function _ | .other _ _ =>
    rw [ofType, ofType]
termination_by (free.length, sizeOf t)

theorem ofName_eq_of_sameReading (h : ctx.SameReading ctx') (free : List String) (span : Span)
    (name : String) : ofName ctx' free span name = ofName ctx free span name := by
  rw [ofName, ofName]
  have hrel := h.shape (TypeExpr.lastSegment name)
  generalize ctx.catalog.get? (TypeExpr.lastSegment name) = found at hrel
  generalize ctx'.catalog.get? (TypeExpr.lastSegment name) = found' at hrel
  cases hrel with
  | none => rfl
  | @some s s' hs =>
    simp only [hs.name, hs.isObjectLike, hs.fields, hs.skipped, h.annotations]
    split
    · rename_i hmem
      have hlength : (free.erase s.name).length < free.length := by
        rw [List.length_erase_of_mem hmem]
        have := List.length_pos_of_mem hmem
        omega
      split
      · rw [ofMerged_eq_of_sameReading h (free.erase s.name) s.fields]
      · rename_i hplain
        rw [hs.type (by simpa using hplain),
          ofType_eq_of_sameReading h (free.erase s.name) s.name "" s.decl.type]
    · rfl
termination_by (free.length, 0)

theorem ofFields_eq_of_sameReading (h : ctx.SameReading ctx') (free : List String) (owner path : String)
    (fields : List (FieldOf TypeExpr)) :
    ofFields ctx' free owner path fields = ofFields ctx free owner path fields := by
  match fields with
  | [] => rw [ofFields, ofFields]
  | f :: rest =>
    rw [ofFields, ofFields, ofField_eq_of_sameReading h free owner _ f,
      ofFields_eq_of_sameReading h free owner path rest]
termination_by (free.length, sizeOf fields)

theorem ofMerged_eq_of_sameReading (h : ctx.SameReading ctx') (free : List String)
    (fields : List MergedField) : ofMerged ctx' free fields = ofMerged ctx free fields := by
  cases fields with
  | nil => rw [ofMerged, ofMerged]
  | cons m rest =>
    obtain ⟨f, owner⟩ := m
    rw [ofMerged, ofMerged, ofField_eq_of_sameReading h free owner _ f,
      ofMerged_eq_of_sameReading h free rest]
termination_by (free.length, sizeOf fields)

theorem ofField_eq_of_sameReading (h : ctx.SameReading ctx') (free : List String) (owner path : String)
    (f : FieldOf TypeExpr) : ofField ctx' free owner path f = ofField ctx free owner path f := by
  match f with
  | ⟨name, isOptional, isReadonly, type?, doc?, span⟩ =>
    rw [ofField, ofField, ofDeclared_eq_of_sameReading h free owner path type?, h.annotations]
termination_by (free.length, sizeOf f)

theorem ofDeclared_eq_of_sameReading (h : ctx.SameReading ctx') (free : List String)
    (owner path : String) (type? : Option TypeExpr) :
    ofDeclared ctx' free owner path type? = ofDeclared ctx free owner path type? := by
  match type? with
  | some t => rw [ofDeclared, ofDeclared, ofType_eq_of_sameReading h free owner path t]
  | none => rw [ofDeclared, ofDeclared]
termination_by (free.length, sizeOf type?)

end

end TypeSchema

end ServiceGraph
