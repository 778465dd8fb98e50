import ServiceGraph.Shape.Structure

/-!
The parts of a type: the type itself, and the parts of all types that stand in it, of whatever sort and
at whatever depth.

A condition on a whole type is a condition on each of its parts (`TypeExpr.Everywhere`); it then
holds of the types that stand in it as well (`Everywhere.item` and its like), and of what a shape
declares (`ShapeStructure.everywhere_of_decl`).
-/

namespace ServiceGraph

open Syntax

namespace Syntax.TypeExpr

mutual

/-- The types that stand in a type, the type itself first. -/
def parts : TypeExpr → List TypeExpr
  | .keyword span name => [.keyword span name]
  | .literal span value => [.literal span value]
  | .reference span name args => .reference span name args :: partsOfTypes args
  | .array span item => .array span item :: parts item
  | .tuple span items => .tuple span items :: partsOfTypes items
  | .object span fields skipped => .object span fields skipped :: partsOfFields fields
  | .union span items => .union span items :: partsOfTypes items
  | .intersection span items => .intersection span items :: partsOfTypes items
  | .function span => [.function span]
  | .other span construct => [.other span construct]

def partsOfTypes : List TypeExpr → List TypeExpr
  | [] => []
  | t :: rest => parts t ++ partsOfTypes rest

def partsOfFields : List (FieldOf TypeExpr) → List TypeExpr
  | [] => []
  | f :: rest => partsOfField f ++ partsOfFields rest

def partsOfField : FieldOf TypeExpr → List TypeExpr
  | ⟨_, _, _, type?, _, _⟩ => partsOfDeclared type?

def partsOfDeclared : Option TypeExpr → List TypeExpr
  | some t => parts t
  | none => []

end

theorem self_mem_parts (t : TypeExpr) : t ∈ t.parts := by
  cases t <;> simp [parts]

theorem mem_partsOfTypes {u : TypeExpr} :
    ∀ {items : List TypeExpr}, u ∈ partsOfTypes items ↔ ∃ t ∈ items, u ∈ t.parts
  | [] => by simp [partsOfTypes]
  | t :: rest => by
      rw [partsOfTypes, List.mem_append, mem_partsOfTypes]
      simp

theorem partsOfField_eq (f : Field) : partsOfField f = partsOfDeclared f.type? := by
  cases f
  rw [partsOfField]

theorem mem_partsOfFields {u : TypeExpr} :
    ∀ {fields : List Field}, u ∈ partsOfFields fields ↔
      ∃ f ∈ fields, ∃ t ∈ f.type?, u ∈ t.parts
  | [] => by simp [partsOfFields]
  | f :: rest => by
      rw [partsOfFields, List.mem_append, mem_partsOfFields, partsOfField_eq]
      cases h : f.type? <;> simp [partsOfDeclared, h]

/-- The fields of an object type. -/
def objectFields : TypeExpr → List Field
  | .object _ fields _ => fields
  | _ => []

/-- A condition on every part of a type. -/
def Everywhere (P : TypeExpr → Prop) (t : TypeExpr) : Prop := ∀ u ∈ t.parts, P u

instance (P : TypeExpr → Prop) [DecidablePred P] (t : TypeExpr) : Decidable (t.Everywhere P) :=
  inferInstanceAs (Decidable (∀ u ∈ t.parts, P u))

section

variable {P Q : TypeExpr → Prop} {span : Span}

theorem Everywhere.self {t : TypeExpr} (h : t.Everywhere P) : P t := h t t.self_mem_parts

theorem Everywhere.mono {t : TypeExpr} (h : t.Everywhere P) (hPQ : ∀ u, P u → Q u) :
    t.Everywhere Q :=
  fun u hu => hPQ u (h u hu)

theorem Everywhere.item {item : TypeExpr} (h : (array span item).Everywhere P) :
    item.Everywhere P :=
  fun u hu => h u (by rw [parts]; exact List.mem_cons_of_mem _ hu)

theorem Everywhere.argument {name : String} {args : List TypeExpr} {t : TypeExpr}
    (h : (reference span name args).Everywhere P) (ht : t ∈ args) : t.Everywhere P :=
  fun u hu => h u (by rw [parts]; exact List.mem_cons_of_mem _ (mem_partsOfTypes.mpr ⟨t, ht, hu⟩))

theorem Everywhere.unionMember {items : List TypeExpr} {t : TypeExpr}
    (h : (union span items).Everywhere P) (ht : t ∈ items) : t.Everywhere P :=
  fun u hu => h u (by rw [parts]; exact List.mem_cons_of_mem _ (mem_partsOfTypes.mpr ⟨t, ht, hu⟩))

theorem Everywhere.tupleItem {items : List TypeExpr} {t : TypeExpr}
    (h : (tuple span items).Everywhere P) (ht : t ∈ items) : t.Everywhere P :=
  fun u hu => h u (by rw [parts]; exact List.mem_cons_of_mem _ (mem_partsOfTypes.mpr ⟨t, ht, hu⟩))

theorem Everywhere.intersectionMember {items : List TypeExpr} {t : TypeExpr}
    (h : (intersection span items).Everywhere P) (ht : t ∈ items) : t.Everywhere P :=
  fun u hu => h u (by rw [parts]; exact List.mem_cons_of_mem _ (mem_partsOfTypes.mpr ⟨t, ht, hu⟩))

theorem Everywhere.field {fields : List Field} {skipped : List SkippedMember} {f : Field}
    {t : TypeExpr} (h : (object span fields skipped).Everywhere P) (hf : f ∈ fields)
    (ht : t ∈ f.type?) : t.Everywhere P :=
  fun u hu => h u (by
    rw [parts]
    exact List.mem_cons_of_mem _ (mem_partsOfFields.mpr ⟨f, hf, t, ht, hu⟩))

theorem everywhere_array {t : TypeExpr} (h : P (.array span t)) (ht : t.Everywhere P) :
    (array span t).Everywhere P := by
  intro u hu
  rw [parts] at hu
  rcases List.mem_cons.mp hu with rfl | hu
  · exact h
  · exact ht u hu

theorem everywhere_of_types {t : TypeExpr} {types : List TypeExpr}
    (hparts : t.parts = t :: partsOfTypes types) (h : P t) (htypes : ∀ u ∈ types, u.Everywhere P) :
    t.Everywhere P := by
  intro u hu
  rw [hparts] at hu
  rcases List.mem_cons.mp hu with rfl | hu
  · exact h
  · obtain ⟨v, hv, hu⟩ := mem_partsOfTypes.mp hu
    exact htypes v hv u hu

theorem everywhere_keyword {name : String} (h : P (.keyword span name)) : (keyword span name).Everywhere P :=
  everywhere_of_types (by rw [parts, partsOfTypes]) h (by simp)

theorem everywhere_literal {value : Literal} (h : P (.literal span value)) : (literal span value).Everywhere P :=
  everywhere_of_types (by rw [parts, partsOfTypes]) h (by simp)

theorem everywhere_reference {name : String} {args : List TypeExpr} (h : P (.reference span name args))
    (hargs : ∀ t ∈ args, t.Everywhere P) : (reference span name args).Everywhere P :=
  everywhere_of_types (by rw [parts]) h hargs

theorem everywhere_union {members : List TypeExpr} (h : P (.union span members))
    (hmembers : ∀ t ∈ members, t.Everywhere P) : (union span members).Everywhere P :=
  everywhere_of_types (by rw [parts]) h hmembers

theorem everywhere_intersection {members : List TypeExpr} (h : P (.intersection span members))
    (hmembers : ∀ t ∈ members, t.Everywhere P) : (intersection span members).Everywhere P :=
  everywhere_of_types (by rw [parts]) h hmembers

theorem everywhere_object {fields : List Field} {skipped : List SkippedMember}
    (h : P (.object span fields skipped)) (hfields : ∀ f ∈ fields, ∀ t ∈ f.type?, t.Everywhere P) :
    (object span fields skipped).Everywhere P := by
  intro u hu
  rw [parts] at hu
  rcases List.mem_cons.mp hu with rfl | hu
  · exact h
  · obtain ⟨f, hf, t, ht, hu⟩ := mem_partsOfFields.mp hu
    exact hfields f hf t ht u hu

end

end Syntax.TypeExpr

/-! ## What a shape declares -/

namespace ShapeStructure

theorem mem_bases_addMembers {base : TypeExpr} : ∀ {members : List TypeExpr} {s : ShapeStructure},
    base ∈ (s.addMembers members).1.bases → base ∈ s.bases ∨ base ∈ members
  | [], _, h => .inl h
  | member :: rest, s, h => by
      have hrest : base ∈ ((s.addMember member).1.addMembers rest).1.bases := h
      rcases mem_bases_addMembers hrest with h | h
      · cases member with
        | reference span name args =>
          rcases List.mem_append.mp h with h | h
          · exact .inl h
          · exact .inr (List.mem_singleton.mp h ▸ List.mem_cons_self)
        | _ => exact .inl h
      · exact .inr (List.mem_cons_of_mem _ h)

theorem fields_addMembers : ∀ (members : List TypeExpr) (s : ShapeStructure),
    (s.addMembers members).1.fields = s.fields ++ members.flatMap (·.objectFields)
  | [], s => by simp [addMembers]
  | member :: rest, s => by
      have hrest : (s.addMembers (member :: rest)).1.fields =
          ((s.addMember member).1.addMembers rest).1.fields := rfl
      rw [hrest, fields_addMembers rest]
      cases member <;> simp [addMember, TypeExpr.objectFields]

theorem mem_fields_addMembers {f : Field} {members : List TypeExpr} {s : ShapeStructure} :
    f ∈ (s.addMembers members).1.fields ↔
      f ∈ s.fields ∨ ∃ span fields skipped, .object span fields skipped ∈ members ∧ f ∈ fields := by
  rw [fields_addMembers, List.mem_append, List.mem_flatMap]
  refine or_congr_right ⟨?_, ?_⟩
  · rintro ⟨member, hm, hf⟩
    cases member with
    | object span fields skipped => exact ⟨span, fields, skipped, hm, hf⟩
    | _ => cases hf
  · rintro ⟨span, fields, skipped, hm, hf⟩
    exact ⟨_, hm, hf⟩

theorem mem_skipped_addMembers {m : SkippedMember} :
    ∀ {members : List TypeExpr} {s : ShapeStructure},
    m ∈ (s.addMembers members).1.skipped →
      m ∈ s.skipped ∨ ∃ span fields skipped, .object span fields skipped ∈ members ∧ m ∈ skipped
  | [], _, h => .inl h
  | member :: rest, s, h => by
      have hrest : m ∈ ((s.addMember member).1.addMembers rest).1.skipped := h
      rcases mem_skipped_addMembers hrest with h | ⟨span, fields, skipped, hm, hf⟩
      · cases member with
        | object span fields skipped =>
          rcases List.mem_append.mp h with h | h
          · exact .inl h
          · exact .inr ⟨span, fields, skipped, List.mem_cons_self, h⟩
        | _ => exact .inl h
      · exact .inr ⟨span, fields, skipped, List.mem_cons_of_mem _ hm, hf⟩

variable {P : TypeExpr → Prop} {d : ShapeDecl}

/-- A base is written behind `extends`, or stands in the type. -/
theorem everywhere_of_mem_bases (htype : d.type.Everywhere P)
    (hheritage : ∀ t ∈ d.heritage, t.Everywhere P) {base : TypeExpr}
    (h : base ∈ (ofDecl d).1.bases) : base.Everywhere P := by
  unfold ofDecl at h
  dsimp only at h
  split at h
  · exact hheritage base h
  · rename_i span members htypeIs
    split at h
    · exact hheritage base h
    · rcases mem_bases_addMembers h with h | h
      · exact hheritage base h
      · rw [htypeIs] at htype
        exact htype.intersectionMember h
  · split at h
    · rcases List.mem_append.mp h with h | h
      · exact hheritage base h
      · exact List.mem_singleton.mp h ▸ htype
    · exact hheritage base h
  · exact hheritage base h

/-- A field stands in an object type. -/
theorem exists_object_of_mem_fields (htype : d.type.Everywhere P) {f : Field}
    (h : f ∈ (ofDecl d).1.fields) :
    ∃ span fields skipped, (TypeExpr.object span fields skipped).Everywhere P ∧ f ∈ fields := by
  unfold ofDecl at h
  dsimp only at h
  split at h
  · rename_i span fields skipped htypeIs
    exact ⟨span, fields, skipped, htypeIs ▸ htype, h⟩
  · rename_i span members htypeIs
    split at h
    · cases h
    · rcases mem_fields_addMembers.mp h with h | ⟨span, fields, skipped, hm, hf⟩
      · cases h
      · rw [htypeIs] at htype
        exact ⟨span, fields, skipped, htype.intersectionMember hm, hf⟩
  · split at h <;> cases h
  · cases h

/-- A member that is no field stands in an object type as well. -/
theorem exists_object_of_mem_skipped (htype : d.type.Everywhere P) {m : SkippedMember}
    (h : m ∈ (ofDecl d).1.skipped) :
    ∃ span fields skipped, (TypeExpr.object span fields skipped).Everywhere P ∧ m ∈ skipped := by
  unfold ofDecl at h
  dsimp only at h
  split at h
  · rename_i span fields skipped htypeIs
    exact ⟨span, fields, skipped, htypeIs ▸ htype, h⟩
  · rename_i span members htypeIs
    split at h
    · cases h
    · rcases mem_skipped_addMembers h with h | ⟨span, fields, skipped, hm, hf⟩
      · cases h
      · rw [htypeIs] at htype
        exact ⟨span, fields, skipped, htype.intersectionMember hm, hf⟩
  · split at h <;> cases h
  · cases h

end ShapeStructure

end ServiceGraph
