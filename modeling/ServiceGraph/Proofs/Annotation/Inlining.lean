import ServiceGraph.Proofs.Syntax.Inlining

/-!
Comments in a file in which references to a shape are replaced.

The comments of the shape move along with its type, so there are new ones, but only at and below the fields
that describe data. At all other places a shape has the comments that it had
(`Annotation.ofPlace?_of_inlines`), and the ignored members of an intersection are what they were.
-/

namespace ServiceGraph

open Syntax TypePath

namespace Annotation

/-! ## 1. One place -/

/-- What is found at a place depends on the comments of that place only. -/
theorem get?_foldl_enter_filter (shape p : String) : ∀ docs : List (String × Doc),
    (docs.foldl (enter shape) (.empty, [])).1.get? shape p =
      ((docs.filter (·.1 == p)).foldl (enter shape) (.empty, [])).1.get? shape p
  | [] => rfl
  | e :: rest => by
      rw [List.foldl_cons, get?_foldl_enter, get?_foldl_enter_filter shape p rest]
      by_cases he : e.1 = p
      · rw [List.filter_cons_of_pos (by simpa using he), List.foldl_cons]
        exact (get?_foldl_enter shape shape p _ _).symm
      · have hnone : (enter shape (.empty, []) e).1.get? shape p = none := by
          simp [enter, AnnotationTable.get?_insert, Ne.symm he]
          rfl
        rw [List.filter_cons_of_neg (by simpa using he), hnone, Option.or_none]

/-- Shapes of one name with the same comments at a place say the same about it. -/
theorem ofPlace?_congr {e e' : ShapeDecl} {p : String} (hname : e'.name = e.name)
    (hdocs : (docsOfShape e').filter (·.1 == p) = (docsOfShape e).filter (·.1 == p)) :
    ofPlace? e' p = ofPlace? e p := by
  rw [ofPlace?, ofPlace?, get?_foldl_enter_filter e'.name, get?_foldl_enter_filter e.name, hdocs, hname]

/-! ## 2. Places outside of the fields that describe data -/

/-- A place that is neither at nor below a field that describes data. -/
def OutsideData (p : String) : Prop := ∀ name ∈ dataFields, ¬ Within name p

theorem outsideData_empty : OutsideData "" := by
  intro name hname hwithin
  rcases hwithin with rfl | hbelow
  · exact absurd hname (by decide)
  · exact not_below_empty name hbelow

variable {d : ShapeDecl} {p : String}

section

variable (hd : d.type.Everywhere TypeExpr.HasPlainFields) (hp : OutsideData p)

include hd hp

theorem filter_docsOfField {f f' : Field} (h : FieldOf.InlinesData d f f')
    (hf : ∀ t ∈ f.type?, t.Everywhere TypeExpr.HasPlainFields) :
    (docsOfField "" f').filter (·.1 == p) = (docsOfField "" f).filter (·.1 == p) := by
  have hf' := h.plain hd hf
  cases h with
  | same => rfl
  | @data t t' hname _ _ =>
    have hnone : ∀ g : Field, g.name ∈ dataFields →
        (∀ t ∈ g.type?, t.Everywhere TypeExpr.HasPlainFields) →
        (docsOfField "" g).filter (·.1 == p) = [] := by
      intro g hg hplain
      rw [List.filter_eq_nil_iff]
      intro e he heq
      obtain rfl : e.1 = p := by simpa using heq
      exact hp _ hg (within_of_mem_docsOfField "" g hplain e he)
    exact (hnone { f with type? := some t' } hname hf').trans (hnone _ hname hf).symm

theorem filter_docsOfFields {fields fields' : List Field}
    (h : List.Forall₂ (FieldOf.InlinesData d) fields fields')
    (hfields : ∀ f ∈ fields, ∀ t ∈ f.type?, t.Everywhere TypeExpr.HasPlainFields) :
    (docsOfFields "" fields').filter (·.1 == p) = (docsOfFields "" fields).filter (·.1 == p) := by
  induction h with
  | nil => rfl
  | cons hf _ ih =>
    rw [docsOfFields, docsOfFields, List.filter_append, List.filter_append,
      filter_docsOfField hd hp hf (hfields _ List.mem_cons_self),
      ih fun g hg => hfields g (List.mem_cons_of_mem _ hg)]

theorem filter_docsOfType {t t' : TypeExpr} (h : t.InlinesData d t')
    (ht : t.Everywhere TypeExpr.HasPlainFields) :
    (docsOfType "" t').filter (·.1 == p) = (docsOfType "" t).filter (·.1 == p) := by
  cases h with
  | same => rfl
  | object h =>
    rw [docsOfType, docsOfType]
    exact filter_docsOfFields hd hp h fun f hf u hu => ht.field hf hu

theorem filter_docsOfTypes {members members' : List TypeExpr}
    (h : List.Forall₂ (TypeExpr.InlinesData d) members members')
    (hmembers : ∀ t ∈ members, t.Everywhere TypeExpr.HasPlainFields) :
    (docsOfTypes "" members').filter (·.1 == p) = (docsOfTypes "" members).filter (·.1 == p) := by
  induction h with
  | nil => rfl
  | cons ht _ ih =>
    rw [docsOfTypes, docsOfTypes, List.filter_append, List.filter_append,
      filter_docsOfType hd hp ht (hmembers _ List.mem_cons_self),
      ih fun u hu => hmembers u (List.mem_cons_of_mem _ hu)]

/-- **At a place outside, a shape has the comments that it had.** -/
theorem ofPlace?_of_inlines {e e' : ShapeDecl} (h : ShapeDecl.InlinesData d e e')
    (he : e.type.Everywhere TypeExpr.HasPlainFields) : ofPlace? e' p = ofPlace? e p := by
  refine ofPlace?_congr h.name ?_
  rw [docsOfShape, docsOfShape, h.doc?, List.filter_append, List.filter_append]
  congr 1
  cases h with
  | type h => exact filter_docsOfType hd hp h he
  | members _ htype h =>
    rw [htype] at he ⊢
    rw [docsOfType, docsOfType]
    exact filter_docsOfTypes hd hp h fun t ht => he.intersectionMember ht

end

/-! ## 3. Ignored members -/

theorem filter_isIgnoredMember {members members' : List TypeExpr}
    (h : List.Forall₂ (TypeExpr.InlinesData d) members members') :
    members'.filter isIgnoredMember = members.filter isIgnoredMember := by
  induction h with
  | nil => rfl
  | cons ht _ ih =>
    rw [List.filter_cons, List.filter_cons, ht.isIgnoredMember, ih]
    split
    · rw [ht.eq_of_ignored ‹_›]
    · rfl

/-- The ignored members stay. -/
theorem strayDocs_of_inlines {e e' : ShapeDecl} (h : ShapeDecl.InlinesData d e e') :
    strayDocs e' = strayDocs e := by
  cases h with
  | type h =>
    unfold strayDocs
    dsimp only
    generalize e.type = t at h
    cases h <;> rfl
  | members _ htype h =>
    unfold strayDocs
    rw [htype]
    exact congrArg _ (filter_isIgnoredMember h)

end Annotation

end ServiceGraph
