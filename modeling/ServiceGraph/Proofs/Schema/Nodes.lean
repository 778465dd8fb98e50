import ServiceGraph.Schema.Tagging

/-!
The nodes of a schema: the schema itself, and the nodes of its items and of its fields.

A property of whole schemas is stated as a property that holds `Everywhere`, of every node; there is
one lemma for each way to build a schema. What an object may hold is said by `mem_foldl_insertField`
and `nodup_foldl_insertField`: its fields are among those it was made from, and have different names.
-/

namespace ServiceGraph.Schema

/-- One of the schemas that another one is built from, itself included. -/
inductive IsNode (n : Schema) : Schema → Prop
  | self : IsNode n n
  | item {items : Schema} {c : Constraints} : IsNode n items → IsNode n (.list items c)
  | field {fields : List SchemaField} {f : SchemaField} :
      f ∈ fields → IsNode n f.schema → IsNode n (.object fields)

/-- A property of every node. -/
def Everywhere (P : Schema → Prop) (s : Schema) : Prop := ∀ n, IsNode n s → P n

section Everywhere

variable {P Q : Schema → Prop}

theorem Everywhere.self {s : Schema} (h : Everywhere P s) : P s := h s .self

theorem Everywhere.mono {s : Schema} (h : Everywhere P s) (hPQ : ∀ n, P n → Q n) :
    Everywhere Q s :=
  fun n hn => hPQ n (h n hn)

theorem everywhere_leaf {kind : LeafKind} {c : Constraints} (h : P (.leaf kind c)) :
    Everywhere P (.leaf kind c) := by
  intro n hn
  cases hn
  exact h

theorem everywhere_enumeration {values : List String} (h : P (.enumeration values)) :
    Everywhere P (.enumeration values) := by
  intro n hn
  cases hn
  exact h

theorem everywhere_unsupported {reason : String} (h : P (.unsupported reason)) :
    Everywhere P (.unsupported reason) := by
  intro n hn
  cases hn
  exact h

theorem everywhere_list {items : Schema} {c : Constraints} (h : P (.list items c))
    (hitems : Everywhere P items) : Everywhere P (.list items c) := by
  intro n hn
  cases hn with
  | self => exact h
  | item hn => exact hitems n hn

theorem everywhere_object {fields : List SchemaField} (h : P (.object fields))
    (hfields : ∀ f ∈ fields, Everywhere P f.schema) : Everywhere P (.object fields) := by
  intro n hn
  cases hn with
  | self => exact h
  | field hf hn => exact hfields _ hf n hn

theorem Everywhere.items {items : Schema} {c : Constraints} (h : Everywhere P (.list items c)) :
    Everywhere P items :=
  fun n hn => h n (.item hn)

theorem Everywhere.field {fields : List SchemaField} {f : SchemaField}
    (h : Everywhere P (.object fields)) (hf : f ∈ fields) : Everywhere P f.schema :=
  fun n hn => h n (.field hf hn)

end Everywhere

/-! ## Fields of objects -/

theorem mem_insertField {f g : SchemaField} {fields : List SchemaField}
    (h : f ∈ insertField fields g) : f = g ∨ f ∈ fields := by
  induction fields with
  | nil => simpa [insertField] using h
  | cons x rest ih =>
    unfold insertField at h
    split at h
    · rcases List.mem_cons.mp h with h | h
      · exact .inl h
      · exact .inr (List.mem_cons_of_mem _ h)
    · rcases List.mem_cons.mp h with h | h
      · exact .inr (h ▸ List.mem_cons_self)
      · exact (ih h).imp id (List.mem_cons_of_mem _)

theorem mem_names_insertField {name : String} {g : SchemaField} {fields : List SchemaField}
    (h : name ∈ (insertField fields g).map (·.name)) :
    name = g.name ∨ name ∈ fields.map (·.name) := by
  obtain ⟨f, hf, rfl⟩ := List.mem_map.mp h
  rcases mem_insertField hf with rfl | hf
  · exact .inl rfl
  · exact .inr (List.mem_map_of_mem hf)

theorem nodup_insertField {g : SchemaField} {fields : List SchemaField}
    (h : (fields.map (·.name)).Nodup) : ((insertField fields g).map (·.name)).Nodup := by
  induction fields with
  | nil => simp [insertField]
  | cons x rest ih =>
    rw [List.map_cons, List.nodup_cons] at h
    unfold insertField
    split
    · rename_i hx
      rw [List.map_cons, List.nodup_cons, ← beq_iff_eq.mp hx]
      exact h
    · rename_i hx
      rw [List.map_cons, List.nodup_cons]
      refine ⟨fun hmem => ?_, ih h.2⟩
      rcases mem_names_insertField hmem with hname | hname
      · exact hx (by simp [hname])
      · exact h.1 hname

/-- The fields of an object are among those it was made from. -/
theorem mem_foldl_insertField {f : SchemaField} :
    ∀ (fields start : List SchemaField), f ∈ fields.foldl insertField start →
      f ∈ fields ∨ f ∈ start
  | [], _, h => .inr h
  | g :: rest, start, h => by
      rcases mem_foldl_insertField rest _ h with h | h
      · exact .inl (List.mem_cons_of_mem _ h)
      · rcases mem_insertField h with rfl | h
        · exact .inl List.mem_cons_self
        · exact .inr h

/-- The fields of an object have different names. -/
theorem nodup_foldl_insertField :
    ∀ (fields start : List SchemaField), (start.map (·.name)).Nodup →
      ((fields.foldl insertField start).map (·.name)).Nodup
  | [], _, h => h
  | _ :: rest, _, h => nodup_foldl_insertField rest _ (nodup_insertField h)

theorem insertField_of_new {g : SchemaField} : ∀ {fields : List SchemaField},
    g.name ∉ fields.map (·.name) → insertField fields g = fields ++ [g]
  | [], _ => rfl
  | f :: rest, h => by
      rw [List.map_cons, List.mem_cons, not_or] at h
      rw [insertField, if_neg (by simpa using Ne.symm h.1), insertField_of_new h.2, List.cons_append]

theorem foldl_insertField_of_nodup : ∀ {fields start : List SchemaField},
    ((start ++ fields).map (·.name)).Nodup → fields.foldl insertField start = start ++ fields
  | [], start, _ => (List.append_nil start).symm
  | f :: rest, start, h => by
      have hnew : f.name ∉ start.map (·.name) := by
        rw [List.map_append, List.map_cons] at h
        exact fun hmem => (List.nodup_append.mp h).2.2 _ hmem _ List.mem_cons_self rfl
      rw [List.foldl_cons, insertField_of_new hnew, foldl_insertField_of_nodup (by simpa using h)]
      simp

/-- Fields with different names all stay. -/
theorem ofFields_of_nodup {fields : List SchemaField} (h : (fields.map (·.name)).Nodup) :
    ofFields fields = .object fields := by
  rw [ofFields, foldl_insertField_of_nodup (by simpa using h), List.nil_append]

end ServiceGraph.Schema
