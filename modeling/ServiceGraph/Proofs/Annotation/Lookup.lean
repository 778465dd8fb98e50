import ServiceGraph.Annotation.Table
import ServiceGraph.Proofs.Keyed

/-!
What is found in the annotations of several shapes.

An entry has the name of its shape in its key. So, unless two shapes have one name, what is found for a shape
is what the comments of that shape say, whatever other shapes there are (`Annotation.get?_ofShapes`), and
the order of the shapes does not matter (`Annotation.get?_ofShapes_of_perm`).
-/

namespace ServiceGraph

open Syntax

namespace AnnotationTable

theorem lookup_filter_ne {key other : String × String} (h : other ≠ key) :
    ∀ entries : List ((String × String) × Annotation),
      (entries.filter (·.1 != key)).lookup other = entries.lookup other
  | [] => rfl
  | (k, a) :: rest => by
      by_cases hk : k = key
      · rw [List.filter_cons_of_neg (by simp [hk]), lookup_filter_ne h rest, List.lookup_cons,
          beq_false_of_ne (hk ▸ h)]
      · rw [List.filter_cons_of_pos (by simp [hk]), List.lookup_cons, List.lookup_cons,
          lookup_filter_ne h rest]

theorem get?_insert (t : AnnotationTable) (shape path n p : String) (a : Annotation) :
    (t.insert shape path a).get? n p =
      if (n, p) = (shape, path) then some a else t.get? n p := by
  unfold get? insert
  dsimp only
  split
  · rename_i heq
    rw [heq, List.lookup_cons_self]
  · rename_i hne
    rw [List.lookup_cons, beq_false_of_ne hne]
    exact lookup_filter_ne hne _

end AnnotationTable

namespace Annotation

/-- A later entry hides an earlier one. -/
theorem get?_foldl_enter (shape n p : String) :
    ∀ (docs : List (String × Doc)) (state : AnnotationTable × List Diagnostic),
      (docs.foldl (enter shape) state).1.get? n p =
        ((docs.foldl (enter shape) (.empty, [])).1.get? n p).or (state.1.get? n p)
  | [], _ => rfl
  | e :: rest, state => by
      rw [List.foldl_cons, List.foldl_cons, get?_foldl_enter shape n p rest,
        get?_foldl_enter shape n p rest (enter shape (.empty, []) e), Option.or_assoc]
      congr 1
      simp only [enter, AnnotationTable.get?_insert]
      split <;> rfl

theorem get?_foldl_enter_of_ne {shape n : String} (h : n ≠ shape) (p : String) :
    ∀ docs : List (String × Doc), (docs.foldl (enter shape) (.empty, [])).1.get? n p = none
  | [] => rfl
  | e :: rest => by
      rw [List.foldl_cons, get?_foldl_enter, get?_foldl_enter_of_ne h p rest]
      simp [enter, AnnotationTable.get?_insert, h]
      rfl

/-- What the comments of a shape say about a place in it. -/
def ofPlace? (d : ShapeDecl) (path : String) : Option Annotation :=
  ((docsOfShape d).foldl (enter d.name) (.empty, [])).1.get? d.name path

theorem get?_foldl_enter_eq_none {shape p : String} {docs : List (String × Doc)}
    (h : ∀ e ∈ docs, e.1 ≠ p) : (docs.foldl (enter shape) (.empty, [])).1.get? shape p = none := by
  induction docs with
  | nil => rfl
  | cons e rest ih =>
    have hne : p ≠ e.1 := Ne.symm (h e List.mem_cons_self)
    rw [List.foldl_cons, get?_foldl_enter, ih fun f hf => h f (List.mem_cons_of_mem _ hf)]
    simp [enter, AnnotationTable.get?_insert, hne]
    rfl

/-- A place without a comment has no annotation. -/
theorem ofPlace?_eq_none {d : ShapeDecl} {path : String} (h : ∀ e ∈ docsOfShape d, e.1 ≠ path) :
    ofPlace? d path = none :=
  get?_foldl_enter_eq_none h

theorem get?_foldl_enter_eq_some {shape p : String} {doc : Doc} {docs : List (String × Doc)}
    (hmem : (p, doc) ∈ docs) (honly : ∀ e ∈ docs, e.1 = p → e.2 = doc) :
    (docs.foldl (enter shape) (.empty, [])).1.get? shape p = some (ofDoc doc).1 := by
  induction docs with
  | nil => cases hmem
  | cons e rest ih =>
    have hrest : ∀ f ∈ rest, f.1 = p → f.2 = doc := fun f hf => honly f (List.mem_cons_of_mem _ hf)
    rw [List.foldl_cons, get?_foldl_enter]
    by_cases hlater : (p, doc) ∈ rest
    · rw [ih hlater hrest]
      rfl
    · obtain rfl : (p, doc) = e := (List.mem_cons.mp hmem).resolve_right hlater
      -- no later comment stands here, so this one is found
      have hnone : ∀ f ∈ rest, f.1 ≠ p := by
        intro f hf heq
        refine hlater ?_
        obtain ⟨key, other⟩ := f
        obtain rfl : key = p := heq
        obtain rfl : other = doc := hrest _ hf rfl
        exact hf
      rw [get?_foldl_enter_eq_none hnone]
      simp [enter, AnnotationTable.get?_insert]

/-- A place with one comment has the annotation of that comment. -/
theorem ofPlace?_eq_some {d : ShapeDecl} {path : String} {doc : Doc}
    (hmem : (path, doc) ∈ docsOfShape d) (honly : ∀ e ∈ docsOfShape d, e.1 = path → e.2 = doc) :
    ofPlace? d path = some (ofDoc doc).1 :=
  get?_foldl_enter_eq_some hmem honly

theorem exists_of_get?_foldl_enter {shape p : String} {a : Annotation} :
    ∀ {docs : List (String × Doc)}, (docs.foldl (enter shape) (.empty, [])).1.get? shape p = some a →
      ∃ doc, (p, doc) ∈ docs ∧ a = (ofDoc doc).1
  | e :: rest, h => by
      rw [List.foldl_cons, get?_foldl_enter, Option.or_eq_some_iff] at h
      rcases h with h | ⟨-, h⟩
      · obtain ⟨doc, hdoc, ha⟩ := exists_of_get?_foldl_enter h
        exact ⟨doc, List.mem_cons_of_mem _ hdoc, ha⟩
      · simp only [enter, AnnotationTable.get?_insert] at h
        split at h
        · rename_i heq
          obtain ⟨-, rfl⟩ := Prod.mk.inj heq
          exact ⟨e.2, List.mem_cons_self, (Option.some_inj.mp h).symm⟩
        · cases h

/-- What is found at a place is what a comment at that place says. -/
theorem exists_of_ofPlace? {d : ShapeDecl} {path : String} {a : Annotation}
    (h : ofPlace? d path = some a) : ∃ doc, (path, doc) ∈ docsOfShape d ∧ a = (ofDoc doc).1 :=
  exists_of_get?_foldl_enter h

theorem get?_foldl_shapes (n p : String) :
    ∀ (shapes : List ShapeDecl) (state : AnnotationTable × List Diagnostic),
      (shapes.map (·.name)).Nodup →
      (shapes.foldl (fun state d => (docsOfShape d).foldl (enter d.name) state) state).1.get? n p =
        ((shapes.find? (·.name == n)).bind (ofPlace? · p)).or (state.1.get? n p)
  | [], _, _ => rfl
  | d :: rest, state, hn => by
      obtain ⟨hnew, hn⟩ := List.nodup_cons.mp hn
      rw [List.foldl_cons, get?_foldl_shapes n p rest _ hn, get?_foldl_enter]
      by_cases hd : d.name = n
      · subst hd
        have hnone : rest.find? (·.name == d.name) = none := by
          rw [List.find?_eq_none]
          intro e he heq
          exact hnew (List.mem_map.mpr ⟨e, he, by simpa using heq⟩)
        rw [hnone, List.find?_cons_of_pos (by simp)]
        rfl
      · rw [get?_foldl_enter_of_ne (Ne.symm hd), List.find?_cons_of_neg (by simpa using hd)]
        rfl

/-- What is found for a shape is what its own comments say. -/
theorem get?_ofShapes {shapes : List ShapeDecl} (hn : (shapes.map (·.name)).Nodup) (n p : String) :
    (ofShapes shapes).1.get? n p = (shapes.find? (·.name == n)).bind (ofPlace? · p) := by
  unfold ofShapes
  rw [get?_foldl_shapes n p shapes _ hn]
  exact Option.or_none

/-- Another order of the shapes finds the same. -/
theorem get?_ofShapes_of_perm {shapes others : List ShapeDecl} (hp : shapes.Perm others)
    (hn : (shapes.map (·.name)).Nodup) (n p : String) :
    (ofShapes others).1.get? n p = (ofShapes shapes).1.get? n p := by
  rw [get?_ofShapes hn, get?_ofShapes (Keyed.nodup_of_perm hp hn), Keyed.find?_of_perm hp hn]

end Annotation

end ServiceGraph
