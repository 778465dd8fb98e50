import ServiceGraph.Proofs.Schema.Stack

/-!
Unions inside unions.

A union written in parentheses is a member of the union around it; `TypeExpr.flatten` puts its own members
in its place, at every depth. Reading a union does not: `null` and `undefined` are left out at each level,
and what is left is sorted by kind at that level alone.

The two agree wherever a union stands by itself in the one around it, apart from `null` and `undefined`
(`Alone`), with the schema and the flag that the flattened union has. Where a union has a neighbour, the
outer one is of mixed types, whatever its flattened members are (`ofType_union_flatten`).
-/

namespace ServiceGraph

open Syntax

/-! ## 1. Flattened members -/

namespace Syntax.TypeExpr

def isUnion : TypeExpr → Bool
  | .union _ _ => true
  | _ => false

mutual

/-- The members that a type brings into a union: a union its own, any other type itself. -/
def alternatives : TypeExpr → List TypeExpr
  | .union _ members => flatten members
  | t => [t]

/-- The members of a union, those of its unions in their places. -/
def flatten : List TypeExpr → List TypeExpr
  | [] => []
  | t :: rest => alternatives t ++ flatten rest

end

theorem alternatives_union (span : Span) (members : List TypeExpr) :
    alternatives (.union span members) = flatten members := by
  rw [alternatives]

theorem alternatives_of_isUnion {t : TypeExpr} (h : t.isUnion = false) : alternatives t = [t] := by
  cases t <;> first | rfl | simp [isUnion] at h

theorem exists_of_isUnion {t : TypeExpr} (h : t.isUnion = true) :
    ∃ span members, t = .union span members := by
  cases t <;> first | exact ⟨_, _, rfl⟩ | simp [isUnion] at h

theorem flatten_singleton (t : TypeExpr) : flatten [t] = alternatives t := by
  rw [flatten, flatten, List.append_nil]

/-- A union without unions is flat. -/
theorem flatten_eq_self : ∀ {members : List TypeExpr}, (∀ t ∈ members, t.isUnion = false) →
    flatten members = members
  | [], _ => rfl
  | t :: rest, h => by
      rw [flatten, alternatives_of_isUnion (h t List.mem_cons_self),
        flatten_eq_self fun u hu => h u (List.mem_cons_of_mem t hu), List.singleton_append]

mutual

theorem isUnion_of_mem_alternatives : ∀ {t u : TypeExpr}, u ∈ alternatives t → u.isUnion = false
  | .union span members, u, h => by
      rw [alternatives_union] at h
      exact isUnion_of_mem_flatten h
  | .keyword .., _, h | .literal .., _, h | .reference .., _, h | .array .., _, h | .tuple .., _, h
  | .object .., _, h | .intersection .., _, h | .function .., _, h | .other .., _, h => by
      cases List.mem_singleton.mp h
      rfl

/-- No unions are left. -/
theorem isUnion_of_mem_flatten : ∀ {members : List TypeExpr} {u : TypeExpr},
    u ∈ flatten members → u.isUnion = false
  | t :: rest, u, h => by
      rw [flatten] at h
      rcases List.mem_append.mp h with h | h
      · exact isUnion_of_mem_alternatives h
      · exact isUnion_of_mem_flatten h

end

theorem flatten_flatten (members : List TypeExpr) : flatten (flatten members) = flatten members :=
  flatten_eq_self fun _ h => isUnion_of_mem_flatten h

end Syntax.TypeExpr

namespace TypeSchema

open TypeExpr

/-! ## 2. What is left of a flattened union -/

/-- A member that is left out of a union is no union. -/
theorem isUnion_of_left_out {t : TypeExpr} (h : isNullType t = true ∨ isUndefinedType t = true) :
    t.isUnion = false := by
  cases t <;> first | rfl | simp [isNullType, isUndefinedType] at h

theorem kept_append (xs ys : List TypeExpr) : kept (xs ++ ys) = kept xs ++ kept ys :=
  List.filter_append ..

theorem kept_cons_of_left_out {t : TypeExpr} (h : isNullType t = true ∨ isUndefinedType t = true)
    (rest : List TypeExpr) : kept (t :: rest) = kept rest :=
  List.filter_cons_of_neg (by rcases h with h | h <;> simp [h])

theorem kept_cons_of_kept {t : TypeExpr} (h : ¬(isNullType t = true ∨ isUndefinedType t = true))
    (rest : List TypeExpr) : kept (t :: rest) = t :: kept rest :=
  List.filter_cons_of_pos (by simpa using h)

theorem mem_kept_of_isUnion {members : List TypeExpr} {t : TypeExpr} (ht : t ∈ members)
    (h : t.isUnion = true) : t ∈ kept members := by
  obtain ⟨span, inner, rfl⟩ := exists_of_isUnion h
  exact List.mem_filter.mpr ⟨ht, rfl⟩

/-- Leaving out before flattening loses nothing that is left afterwards. -/
theorem kept_flatten (members : List TypeExpr) :
    kept (flatten members) = kept (flatten (kept members)) := by
  induction members with
  | nil => rfl
  | cons t rest ih =>
    by_cases h : isNullType t = true ∨ isUndefinedType t = true
    · rw [kept_cons_of_left_out h, flatten, alternatives_of_isUnion (isUnion_of_left_out h),
        List.singleton_append, kept_cons_of_left_out h, ih]
    · rw [kept_cons_of_kept h, flatten, flatten, kept_append, kept_append, ih]

/-- A flattened union has `undefined` from its own level or from below. -/
theorem any_undefined_flatten (members : List TypeExpr) :
    (flatten members).any isUndefinedType =
      (members.any isUndefinedType || (flatten (kept members)).any isUndefinedType) := by
  induction members with
  | nil => rfl
  | cons t rest ih =>
    by_cases h : isNullType t = true ∨ isUndefinedType t = true
    · rw [kept_cons_of_left_out h, flatten, alternatives_of_isUnion (isUnion_of_left_out h),
        List.singleton_append, List.any_cons, List.any_cons, ih, Bool.or_assoc]
    · have hdefined : isUndefinedType t = false := by simpa using fun hu => h (.inr hu)
      rw [kept_cons_of_kept h, flatten, flatten, List.any_append, List.any_append, List.any_cons,
        hdefined, ih, Bool.false_or, Bool.or_left_comm]

/-! ## 3. What the schema of a union depends on -/

variable {ctx : TypeContext} {free : List String} {owner path : String}

/-- Two unions with the same members left have the schema in common, and differ in the flag only by their
own `undefined`. -/
theorem value_union_congr {span span' : Span} {members members' : List TypeExpr} {flag : Bool}
    (hkept : kept members = kept members')
    (hflag : members.any isUndefinedType = (flag || members'.any isUndefinedType)) :
    (ofType ctx free owner path (.union span members)).value =
      ⟨(ofType ctx free owner path (.union span' members')).value.schema,
        flag || (ofType ctx free owner path (.union span' members')).value.isOptional⟩ := by
  rcases h : kept members' with _ | ⟨single, _ | ⟨second, rest⟩⟩
  · rw [value_ofType_empty (hkept.trans h), value_ofType_empty h, hflag]
  · rw [value_ofType_single (hkept.trans h), value_ofType_single h, hflag, Bool.or_assoc]
  · rw [value_ofType_several (hkept.trans h), value_ofType_several h, hflag]

/-- Members of which one is a union are of mixed types. -/
theorem value_ofMembers_of_isUnion {members : List TypeExpr} {t : TypeExpr} (ht : t ∈ members)
    (h : t.isUnion = true) (span : Span) :
    (ofMembers span members).value = ofSchema (.unsupported "union of mixed types") := by
  obtain ⟨spanOf, inner, rfl⟩ := exists_of_isUnion h
  have hall : ∀ p : TypeExpr → Bool, p (.union spanOf inner) = false → members.all p = false :=
    fun p hp => List.all_eq_false.mpr ⟨_, ht, by rw [hp]; simp⟩
  unfold ofMembers
  rw [hall _ rfl, hall _ rfl, hall _ rfl]
  rfl

/-! ## 4. Unions that stand alone -/

/-- Members of which none is a union, or only one that stands by itself next to `null` and `undefined`, and
in that one the same again. -/
inductive Alone : List TypeExpr → Prop
  | flat {members : List TypeExpr} (h : ∀ t ∈ members, t.isUnion = false) : Alone members
  | nested {members : List TypeExpr} {span : Span} {inner : List TypeExpr}
    (hkept : kept members = [.union span inner]) (h : Alone inner) : Alone members

/-- Flattening keeps the meaning of a union where unions stand alone. -/
theorem Alone.value_eq {members : List TypeExpr} (h : Alone members) (span : Span) :
    (ofType ctx free owner path (.union span members)).value =
      (ofType ctx free owner path (.union span (flatten members))).value := by
  induction h generalizing span with
  | flat h => rw [flatten_eq_self h]
  | @nested members span' inner hkept _ ih =>
    have hflat : flatten (kept members) = flatten inner := by
      rw [hkept, flatten_singleton, alternatives_union]
    rw [value_ofType_single hkept, ih span']
    refine (value_union_congr ?_ ?_).symm
    · rw [kept_flatten, hflat]
    · rw [any_undefined_flatten, hflat]

/-- Elsewhere a union has no schema. -/
theorem schema_of_not_alone (members : List TypeExpr) (h : ¬Alone members) (span : Span) :
    (ofType ctx free owner path (.union span members)).value.schema =
      .unsupported "union of mixed types" := by
  have hunion : ∃ t ∈ members, t.isUnion = true := by
    by_contra hflat
    exact h (.flat fun t ht => by simpa using fun hu => hflat ⟨t, ht, hu⟩)
  obtain ⟨t, ht, hu⟩ := hunion
  have hmem := mem_kept_of_isUnion ht hu
  rcases hkept : kept members with _ | ⟨first, _ | ⟨second, rest⟩⟩
  · simp [hkept] at hmem
  · obtain ⟨span', inner, rfl⟩ := exists_of_isUnion hu
    rw [hkept, List.mem_singleton] at hmem
    subst hmem
    have hsize := sizeOf_lt_of_kept hkept
    rw [value_ofType_single hkept]
    exact schema_of_not_alone inner (fun hinner => h (.nested hkept hinner)) span'
  · rw [hkept] at hmem
    rw [value_ofType_several hkept, value_ofMembers_of_isUnion hmem hu]
    rfl
termination_by sizeOf members
decreasing_by
  simp at hsize
  omega

/-- **Grouping the members of a union.** It changes neither the schema nor the flag of the union where every
group stands alone; a union in which a group has a neighbour has no schema. -/
theorem ofType_union_flatten (ctx : TypeContext) (free : List String) (owner path : String)
    (span : Span) (members : List TypeExpr) :
    (Alone members → (ofType ctx free owner path (.union span members)).value =
      (ofType ctx free owner path (.union span (flatten members))).value) ∧
    (¬Alone members → (ofType ctx free owner path (.union span members)).value.schema =
      .unsupported "union of mixed types") :=
  ⟨fun h => h.value_eq span, fun h => schema_of_not_alone members h span⟩

/-! ## 5. Samples -/

namespace Sample

/-- One of two texts, in parentheses. -/
def firstTwo : TypeExpr :=
  .union .origin [.literal .origin (.string "a"), .literal .origin (.string "b")]

/-- The two texts, or nothing. -/
def firstTwoOrNothing : List TypeExpr :=
  [.keyword .origin "null", firstTwo, .keyword .origin "undefined"]

/-- The two texts, or a third one. -/
def groupedThree : List TypeExpr := [firstTwo, .literal .origin (.string "c")]

/-- A context without shapes and comments. -/
def nowhere : TypeContext := ⟨⟨[], []⟩, ⟨[]⟩⟩

theorem firstTwoOrNothing_alone : Alone firstTwoOrNothing :=
  .nested rfl (.flat (by decide))

theorem groupedThree_not_alone : ¬Alone groupedThree
  | .flat h => absurd (h firstTwo List.mem_cons_self) (by decide)
  | .nested hkept _ => by simp [groupedThree, firstTwo, kept, isNullType, isUndefinedType] at hkept

theorem ofType_union_flatten_samples :
    (ofType nowhere [] "" "" (.union .origin firstTwoOrNothing)).value =
        (ofType nowhere [] "" "" (.union .origin (flatten firstTwoOrNothing))).value ∧
      (ofType nowhere [] "" "" (.union .origin groupedThree)).value.schema =
        .unsupported "union of mixed types" :=
  ⟨(ofType_union_flatten nowhere [] "" "" .origin firstTwoOrNothing).1 firstTwoOrNothing_alone,
    (ofType_union_flatten nowhere [] "" "" .origin groupedThree).2 groupedThree_not_alone⟩

theorem value_groupedThree :
    (ofType nowhere [] "" "" (.union .origin groupedThree)).value =
      ⟨.unsupported "union of mixed types", false⟩ := by
  cbv

theorem value_flatten_groupedThree :
    (ofType nowhere [] "" "" (.union .origin (flatten groupedThree))).value =
      ⟨.enumeration ["a", "b", "c"], false⟩ := by
  cbv

/-- Three texts have a schema without the parentheses around two of them, and none with them. -/
theorem parentheses_matter :
    (ofType nowhere [] "" "" (.union .origin groupedThree)).value ≠
      (ofType nowhere [] "" "" (.union .origin (flatten groupedThree))).value := by
  rw [value_groupedThree, value_flatten_groupedThree]
  nofun

end Sample

end TypeSchema

end ServiceGraph
