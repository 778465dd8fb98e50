import ServiceGraph.Proofs.Annotation.Places
import ServiceGraph.Proofs.Noted
import ServiceGraph.Schema.OfType

/-!
Which notes are made while a type is read: warnings about what has no schema, and findings about tags
(`TypeSchema.only_ofType`). In particular reading a type is never a problem. Each of them points to a
place in the type, in a shape that it leads to, or in a comment: a condition on those places
(`TypeContext.Sited`) holds of the places of the notes.
-/

namespace ServiceGraph

open Syntax

namespace Noted

variable {α β : Type} {P : Note → Prop}

/-- All notes are of one sort. -/
def Only (P : Note → Prop) (x : Noted α) : Prop := ∀ n ∈ x.notes, P n

theorem only_pure (a : α) : Only P (pure a) := by
  intro n hn
  simp at hn

theorem only_bind {x : Noted α} {f : α → Noted β} (hx : Only P x) (hf : ∀ a, Only P (f a)) :
    Only P (x >>= f) := by
  intro n hn
  rcases mem_notes_bind.mp hn with hn | hn
  · exact hx n hn
  · exact hf _ n hn

theorem only_forM {f : α → Noted Unit} {xs : List α} (hf : ∀ a ∈ xs, Only P (f a)) :
    Only P (xs.forM f) := by
  intro n hn
  obtain ⟨x, hx, hn⟩ := mem_notes_forM.mp hn
  exact hf x hx n hn

theorem only_warn {code : Code} {span : Span} {message : String}
    (h : P (.warning ⟨code, span, message⟩)) : Only P (warn code span message) := by
  intro n hn
  obtain rfl := List.mem_singleton.mp hn
  exact h

theorem only_report {code : Code} {span : Span} {message : String}
    (h : P (.problem ⟨code, span, message⟩)) : Only P (report code span message) := by
  intro n hn
  obtain rfl := List.mem_singleton.mp hn
  exact h

theorem only_find {kind : FindingKind} {span : Span} {subject : String}
    (h : P (.finding ⟨kind, span, subject⟩)) : Only P (find kind span subject) := by
  intro n hn
  obtain rfl := List.mem_singleton.mp hn
  exact h

theorem Only.mono {Q : Note → Prop} {x : Noted α} (h : Only P x) (hPQ : ∀ n, P n → Q n) :
    Only Q x :=
  fun n hn => hPQ n (h n hn)

end Noted

open Noted

/-- A warning that something has no schema, or a finding, at a place that satisfies a condition. -/
def Note.OfType (ok : Span → Prop) : Note → Prop
  | .warning d => d.code = .unsupportedConstruct ∧ ok d.span
  | .problem _ => False
  | .finding f => ok f.span

/-- All places that a type may lead to satisfy a condition. -/
structure TypeContext.Sited (ok : Span → Prop) (ctx : TypeContext) : Prop where
  shapes : ∀ s ∈ ctx.catalog.shapes, s.Sited ok
  annotations : ctx.annotations.Every (·.tags.Sited ok)

theorem TagSet.sited_true (tags : TagSet) : tags.Sited fun _ => True := by
  constructor <;> exact fun _ _ => trivial

theorem TypeContext.sited_true (ctx : TypeContext) : ctx.Sited fun _ => True :=
  ⟨fun s _ => s.sited_true, fun e _ => e.2.tags.sited_true⟩

theorem TypeContext.Sited.get? {ok : Span → Prop} {ctx : TypeContext} (h : ctx.Sited ok)
    {name : String} {s : ShapeInfo} (hs : ctx.catalog.get? name = some s) : s.Sited ok :=
  h.shapes s (List.mem_of_find?_eq_some hs)

variable {ok : Span → Prop}

namespace TagSet

variable {tags : TagSet}

theorem ok_of_mem_misplaced (h : tags.Sited ok) {s : Schema} :
    ∀ m ∈ tags.misplaced s, ok m.2 := by
  have hone : ∀ {α : Type} {tag? : Option (Tagged α)} {belongs : Bool} {name : String},
      (∀ t ∈ tag?, ok t.span) → ∀ m ∈ Tagged.misplaced tag? belongs name, ok m.2 := by
    intro α tag? belongs name htag m hm
    unfold Tagged.misplaced at hm
    split at hm
    · split at hm
      · cases hm
      · exact List.mem_singleton.mp hm ▸ htag _ rfl
    · cases hm
  intro m hm
  simp only [misplaced, List.mem_append] at hm
  rcases hm with ((((hm | hm) | hm) | hm) | hm) | hm
  · exact hone h.minimum m hm
  · exact hone h.maximum m hm
  · exact hone h.minLength m hm
  · exact hone h.maxLength m hm
  · exact hone h.pattern m hm
  · exact hone h.format m hm

theorem ok_of_boundSpan? {α : Type} {low? high? : Option (Tagged α)} (hlow : ∀ t ∈ low?, ok t.span)
    (hhigh : ∀ t ∈ high?, ok t.span) : ∀ s ∈ boundSpan? low? high?, ok s := by
  intro s hs
  cases high? with
  | some high =>
    obtain rfl : high.span = s := by simpa [boundSpan?] using hs
    exact hhigh high rfl
  | none =>
    cases low? with
    | some low =>
      obtain rfl : low.span = s := by simpa [boundSpan?] using hs
      exact hlow low rfl
    | none => simp [boundSpan?] at hs

theorem ok_of_mem_contradiction {α : Type} {low? high? : Option α} {exceeds : α → α → Bool}
    {span? : Option Span} {names : String × String} (h : ∀ s ∈ span?, ok s) :
    ∀ c ∈ contradiction low? high? exceeds span? names, ok c.2 := by
  intro c hc
  unfold contradiction at hc
  split at hc
  · split at hc
    · exact List.mem_singleton.mp hc ▸ h _ rfl
    · cases hc
  · cases hc

theorem ok_of_mem_contradictions (h : tags.Sited ok) {c : Constraints} :
    ∀ m ∈ tags.contradictions c, ok m.2 := by
  intro m hm
  rcases List.mem_append.mp hm with hm | hm
  · exact ok_of_mem_contradiction (ok_of_boundSpan? h.minimum h.maximum) m hm
  · exact ok_of_mem_contradiction (ok_of_boundSpan? h.minLength h.maxLength) m hm

end TagSet

namespace Schema

theorem only_withValues {tag : Tagged (List String)} (h : ok tag.span) (subject : String)
    (s : Schema) : Only (Note.OfType ok) (s.withValues tag subject) := by
  unfold withValues
  split
  · exact only_pure _
  · split
    · exact only_pure _
    · exact only_bind (only_find h) fun _ => only_pure _
  · exact only_pure _
  · exact only_bind (only_find h) fun _ => only_pure _

variable {tags : TagSet} (h : tags.Sited ok) (subject : String) (s : Schema)

include h

theorem only_withBounds : Only (Note.OfType ok) (s.withBounds tags subject) := by
  unfold withBounds
  split
  · exact only_pure _
  · exact only_bind (only_forM fun m hm => only_find (TagSet.ok_of_mem_misplaced h m hm)) fun _ =>
      only_bind (only_forM fun m hm => only_find (TagSet.ok_of_mem_contradictions h m hm)) fun _ =>
      only_pure _

theorem only_withTags : Only (Note.OfType ok) (s.withTags tags subject) := by
  unfold withTags
  cases hvalues : tags.enumValues? with
  | none => exact only_withBounds h subject s
  | some tag =>
    exact only_bind (only_withValues (h.values tag hvalues) subject s) fun s =>
      only_withBounds h subject s

end Schema

namespace TypeSchema

theorem only_unsupported {span : Span} (h : ok span) (what : String) :
    Only (Note.OfType ok) (TypeSchema.unsupported span what) :=
  only_bind (only_warn ⟨rfl, h⟩) fun _ => only_pure _

theorem only_warnSkipped {members : List SkippedMember} (h : ∀ m ∈ members, ok m.span) :
    Only (Note.OfType ok) (warnSkipped members) :=
  only_forM fun m hm => only_warn ⟨rfl, h m hm⟩

theorem only_ofKeyword {span : Span} (h : ok span) (name : String) :
    Only (Note.OfType ok) (ofKeyword span name) := by
  unfold ofKeyword
  split <;> first | exact only_pure _ | exact only_unsupported h _

theorem only_ofLiteral {span : Span} (h : ok span) (value : Literal) :
    Only (Note.OfType ok) (ofLiteral span value) := by
  cases value with
  | number text => exact only_bind (only_warn ⟨rfl, h⟩) fun _ => only_pure _
  | _ => exact only_pure _

theorem only_ofForeignName {span : Span} (h : ok span) (name : String) :
    Only (Note.OfType ok) (ofForeignName span name) := by
  unfold ofForeignName
  dsimp only
  split
  · exact only_pure _
  · split
    · exact only_pure _
    · split
      · exact only_unsupported h _
      · exact only_unsupported h _

theorem only_ofMembers {span : Span} (h : ok span) (members : List TypeExpr) :
    Only (Note.OfType ok) (ofMembers span members) := by
  unfold ofMembers
  split
  · exact only_pure _
  · split
    · exact only_pure _
    · split
      · exact only_bind (only_warn ⟨rfl, h⟩) fun _ => only_pure _
      · exact only_unsupported h _

theorem only_field {annotations : AnnotationTable} (h : annotations.Every (·.tags.Sited ok))
    (owner path name : String) (mayBeMissing : Bool) (t : TypeSchema) :
    Only (Note.OfType ok) (field annotations owner path name mayBeMissing t) := by
  unfold field
  dsimp only
  split
  · exact only_pure _
  · rename_i note hnote
    have htags : note.tags.Sited ok := h.get? hnote
    refine only_bind (Schema.only_withTags htags _ _) fun schema => ?_
    split
    · exact only_pure _
    · rename_i tag htag
      have htag := htags.default tag htag
      split
      · refine only_bind (only_find htag) fun _ => ?_
        split
        · exact only_bind (only_find htag) fun _ => only_pure _
        · exact only_pure _
      · split
        · exact only_bind (only_find htag) fun _ => only_pure _
        · exact only_pure _

variable {ctx : TypeContext}

mutual

/-- Reading a type warns of what has no schema and finds flaws of tags, and nothing else. -/
theorem only_ofType (hctx : ctx.Sited ok) (free : List String) (owner path : String) (t : TypeExpr)
    (h : t.Sited ok) : Only (Note.OfType ok) (ofType ctx free owner path t) := by
  match t, h with
  | .keyword span name, h =>
    unfold ofType
    exact only_ofKeyword h.span _
  | .literal span value, h =>
    unfold ofType
    exact only_ofLiteral h.span _
  | .array span item, h =>
    unfold ofType
    exact only_bind (only_ofType hctx free owner (TypePath.item path) item h.item) fun _ =>
      only_pure _
  | .reference span name [item], h =>
    unfold ofType
    split
    · exact only_bind (only_ofType hctx free owner (TypePath.item path) item
        (h.argument List.mem_cons_self)) fun _ => only_pure _
    · exact only_ofName hctx free h.span name
  | .reference span name [], h =>
    unfold ofType
    exact only_ofName hctx free h.span name
  | .reference span name (_ :: _ :: _), h =>
    unfold ofType
    exact only_ofName hctx free h.span name
  | .object span fields skipped, h =>
    unfold ofType
    exact only_bind (only_warnSkipped fun m hm => h.skipped hm) fun _ =>
      only_bind (only_ofFields hctx free owner path fields fun f hf => h.field hf) fun _ =>
      only_pure _
  | .union span members, h =>
    have hmembers : ∀ m ∈ members, m.Sited ok := fun m hm => h.unionMember hm
    unfold ofType
    refine only_bind (only_forM fun m hm =>
      only_warn ⟨rfl, (hmembers m (List.mem_filter.mp hm).1).span⟩) fun _ => ?_
    dsimp only
    split
    · exact only_pure _
    · rename_i single hkept
      have := sizeOf_lt_of_kept hkept
      have hsingle : single.Sited ok := by
        have hmem : single ∈ kept members := by simp [hkept]
        exact hmembers single (List.mem_filter.mp hmem).1
      exact only_bind (only_ofType hctx free owner path single hsingle) fun _ => only_pure _
    · rename_i first rest _ hkept
      have hfirst : first.Sited ok := by
        have hmem : first ∈ kept members := by simp [hkept]
        exact hmembers first (List.mem_filter.mp hmem).1
      exact only_bind (only_ofMembers hfirst.span _) fun _ => only_pure _
  | .tuple span items, h =>
    unfold ofType
    exact only_unsupported h.span _
  | .intersection span items, h =>
    unfold ofType
    exact only_unsupported h.span _
  | .function span, h =>
    unfold ofType
    exact only_unsupported h.span _
  | .other span construct, h =>
    unfold ofType
    exact only_unsupported h.span _
termination_by (free.length, sizeOf t)

theorem only_ofName (hctx : ctx.Sited ok) (free : List String) {span : Span} (hspan : ok span)
    (name : String) : Only (Note.OfType ok) (ofName ctx free span name) := by
  unfold ofName
  split
  · exact only_ofForeignName hspan _
  · rename_i s hs
    have hs := hctx.get? hs
    split
    · rename_i hfree
      have : (free.erase s.name).length < free.length := by
        rw [List.length_erase_of_mem hfree]
        have := List.length_pos_of_mem hfree
        omega
      split
      · exact only_bind (only_warnSkipped hs.skipped) fun _ =>
          only_bind (only_ofMerged hctx (free.erase s.name) s.fields hs.fields) fun _ => only_pure _
      · refine only_bind (only_ofType hctx (free.erase s.name) s.name "" s.decl.type hs.type)
          fun t => ?_
        split
        · rename_i note hnote
          have htags : note.tags.Sited ok := hctx.annotations.get? hnote
          exact only_bind (Schema.only_withTags htags _ _) fun _ => only_pure _
        · exact only_pure _
    · exact only_unsupported hspan _
termination_by (free.length, 0)

theorem only_ofFields (hctx : ctx.Sited ok) (free : List String) (owner path : String)
    (fields : List (FieldOf TypeExpr)) (h : ∀ f ∈ fields, FieldOf.Sited ok f) :
    Only (Note.OfType ok) (ofFields ctx free owner path fields) := by
  match fields with
  | [] =>
    unfold ofFields
    exact only_pure _
  | f :: rest =>
    unfold ofFields
    exact only_bind (only_ofField hctx free owner (TypePath.field path f.name) f
        (h f List.mem_cons_self)) fun _ =>
      only_bind (only_ofFields hctx free owner path rest fun g hg =>
        h g (List.mem_cons_of_mem _ hg)) fun _ => only_pure _
termination_by (free.length, sizeOf fields)

theorem only_ofMerged (hctx : ctx.Sited ok) (free : List String) (fields : List MergedField)
    (h : ∀ f ∈ fields, f.field.Sited ok) : Only (Note.OfType ok) (ofMerged ctx free fields) := by
  match fields with
  | [] =>
    unfold ofMerged
    exact only_pure _
  | ⟨f, owner⟩ :: rest =>
    unfold ofMerged
    exact only_bind (only_ofField hctx free owner f.name f (h ⟨f, owner⟩ List.mem_cons_self)) fun _ =>
      only_bind (only_ofMerged hctx free rest fun g hg => h g (List.mem_cons_of_mem _ hg)) fun _ =>
      only_pure _
termination_by (free.length, sizeOf fields)

theorem only_ofField (hctx : ctx.Sited ok) (free : List String) (owner path : String)
    (f : FieldOf TypeExpr) (h : FieldOf.Sited ok f) :
    Only (Note.OfType ok) (ofField ctx free owner path f) := by
  match f, h with
  | ⟨name, isOptional, isReadonly, type?, doc?, span⟩, h =>
    unfold ofField
    exact only_bind (only_ofDeclared hctx free owner path type? h.type) fun _ =>
      only_field hctx.annotations _ _ _ _ _
termination_by (free.length, sizeOf f)

theorem only_ofDeclared (hctx : ctx.Sited ok) (free : List String) (owner path : String)
    (type? : Option TypeExpr) (h : ∀ t ∈ type?, t.Sited ok) :
    Only (Note.OfType ok) (ofDeclared ctx free owner path type?) := by
  match type? with
  | some t =>
    unfold ofDeclared
    exact only_ofType hctx free owner path t (h t rfl)
  | none =>
    unfold ofDeclared
    exact only_pure _
termination_by (free.length, sizeOf type?)

end

end TypeSchema

end ServiceGraph
