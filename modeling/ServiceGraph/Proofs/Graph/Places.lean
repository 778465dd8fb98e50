import ServiceGraph.Proofs.Binding.Places
import ServiceGraph.Proofs.Graph.Consistent
import ServiceGraph.Proofs.Shape.Places

/-!
Where problems are reported.

Every problem stands at a place that is written into the file, on a line of one of its comments, or at the
beginning of the text (`Analysis.ok_of_mem_problems`): descriptors keep the places of their shapes
(`Draft.sited_contentsOf`), a finding has the place of its tag, and an outcome that of its descriptor or of
what was found. If the places and the comments of the file agree with the text, so do the places of the
problems (`Analysis.coherent_of_mem_problems`).
-/

namespace ServiceGraph

open Syntax

variable {ok : Span → Prop}

/-! ## 1. Sites -/

/-- All places of a site satisfy a condition. -/
structure Site.Sited (ok : Span → Prop) (s : Site) : Prop where
  span : ok s.span
  fields : ∀ e ∈ s.fields, ok e.2
  items : ∀ i ∈ s.items, ok i

theorem Site.Sited.field {s : Site} (h : s.Sited ok) (name : String) : ok (s.field name) := by
  unfold Site.field
  cases hspan : s.fields.lookup name with
  | none => exact h.span
  | some span =>
    obtain ⟨front, back, heq, -⟩ := List.lookup_eq_some_iff.mp hspan
    exact h.fields (name, span) (by simp [heq])

theorem ShapeInfo.Sited.site {s : ShapeInfo} (h : s.Sited ok) : (Site.ofShape s).Sited ok where
  span := h.nameSpan
  fields e he := by
    obtain ⟨f, hf, rfl⟩ := List.mem_map.mp he
    exact (h.fields f hf).span
  items := by simp [Site.ofShape]

/-- All places of a graph satisfy a condition. -/
structure LocatedGraph.Sited (ok : Span → Prop) (g : LocatedGraph) : Prop where
  operations : ∀ l ∈ g.operations, l.site.Sited ok
  prompts : ∀ l ∈ g.prompts, l.site.Sited ok
  resources : ∀ l ∈ g.resources, l.site.Sited ok
  groups : ∀ l ∈ g.groups, l.site.Sited ok

theorem mapM_mem {α β : Type} {f : α → Option β} :
    ∀ {xs : List α} {ys : List β}, xs.mapM f = some ys → ∀ y ∈ ys, ∃ x ∈ xs, f x = some y
  | [], ys, h, y, hy => by
      obtain rfl : ys = [] := by simpa using h.symm
      cases hy
  | x :: rest, ys, h, y, hy => by
      simp only [List.mapM_cons, Option.pure_def, Option.bind_eq_bind, Option.bind_eq_some_iff,
        Option.some.injEq] at h
      obtain ⟨first, hfirst, others, hothers, rfl⟩ := h
      rcases List.mem_cons.mp hy with rfl | hy
      · exact ⟨x, List.mem_cons_self, hfirst⟩
      · obtain ⟨z, hz, heq⟩ := mapM_mem hothers y hy
        exact ⟨z, List.mem_cons_of_mem _ hz, heq⟩

/-- The texts of a type stand in it. -/
theorem Syntax.TypeExpr.ok_of_mem_strings? {t : TypeExpr} (h : t.Sited ok)
    {found : List (String × Span)} (hfound : t.strings? = some found) : ∀ e ∈ found, ok e.2 := by
  have hone : ∀ {m : TypeExpr} {e : String × Span}, m.Sited ok →
      m.string?.map (·, m.span) = some e → ok e.2 := by
    intro m e hm he
    obtain ⟨text, -, rfl⟩ := Option.map_eq_some_iff.mp he
    exact hm.span
  intro e he
  unfold strings? at hfound
  dsimp only at hfound
  split at hfound
  · obtain ⟨m, hm, heq⟩ := mapM_mem hfound e he
    exact hone (h.tupleItem hm) heq
  · obtain ⟨m, hm, heq⟩ := mapM_mem hfound e he
    exact hone (h.unionMember hm) heq
  · obtain ⟨only, honly, rfl⟩ := Option.map_eq_some_iff.mp hfound
    exact List.mem_singleton.mp he ▸ hone h honly

/-- The entries of a group stand in its field. -/
theorem Group.ok_of_mem_operationsOf {s : ShapeInfo} (h : s.Sited ok) :
    ∀ e ∈ (operationsOf s).value, ok e.2 := by
  unfold operationsOf
  split
  · simp
  · rename_i f hf
    split
    · rename_i found hfound
      obtain ⟨t, ht, hstrings⟩ := Option.bind_eq_some_iff.mp hfound
      exact TypeExpr.ok_of_mem_strings? ((h.field? hf).type t ht) hstrings
    · simp

/-- Descriptors have the places of their shapes. -/
theorem Draft.sited_contentsOf {ctx : TypeContext} (h : ctx.Sited ok) :
    (contentsOf ctx).value.Sited ok := by
  have hshapes : ∀ s ∈ declaring ctx.catalog, s.Sited ok := fun s hs =>
    h.shapes s (mem_shapes_of_mem_declaring hs)
  refine ⟨fun l hl => ?_, fun l hl => ?_, fun l hl => ?_, fun l hl => ?_⟩
  · obtain ⟨s, hs, -, -, hsite⟩ := exists_operation hl
    exact hsite ▸ (hshapes s hs).site
  · obtain ⟨s, hs, -, -, hsite⟩ := exists_prompt hl
    exact hsite ▸ (hshapes s hs).site
  · obtain ⟨s, hs, -, -, hsite⟩ := exists_resource hl
    exact hsite ▸ (hshapes s hs).site
  · obtain ⟨s, hs, -, hgroup, hsite⟩ := exists_group hl
    have hsited := (hshapes s hs).site
    rw [← hsite] at hsited
    refine ⟨hsited.span, hsited.fields, fun i hi => ?_⟩
    rw [Group.value_ofShape, Option.map_eq_some_iff] at hgroup
    obtain ⟨name, -, hgroup⟩ := hgroup
    have hitems : (Group.operationsOf s).value.map (·.2) = l.site.items := congrArg Prod.snd hgroup
    rw [← hitems] at hi
    obtain ⟨e, he, rfl⟩ := List.mem_map.mp hi
    exact Group.ok_of_mem_operationsOf (hshapes s hs) e he

/-- Binding moves nothing. -/
theorem Scope.sited_bind {scope : Scope} {g : LocatedGraph} (h : g.Sited ok) :
    (scope.bind g).1.Sited ok := by
  refine ⟨fun l hl => ?_, fun l hl => ?_, fun l hl => ?_, h.groups⟩
  · obtain ⟨l₀, hl₀, rfl⟩ := mem_operations_bind hl
    exact h.operations l₀ hl₀
  · obtain ⟨l₀, hl₀, rfl⟩ := mem_prompts_bind hl
    rw [site_bindPrompt]
    exact h.prompts l₀ hl₀
  · obtain ⟨l₀, hl₀, rfl⟩ := mem_resources_bind hl
    rw [site_bindResource]
    exact h.resources l₀ hl₀

/-! ## 2. Outcomes -/

/-- All places that are told of an outcome satisfy a condition. -/
structure Outcome.Sited (ok : Span → Prop) (o : Outcome) : Prop where
  span : ok o.span
  ignoring : ∀ handler c, o.resolution = .bound handler (some c) → ok c.span

theorem Scope.sited_outcomes {scope : Scope} {g : LocatedGraph} (hscope : scope.Sited ok)
    (h : g.Sited ok) : ∀ o ∈ (scope.bind g).2, o.Sited ok := by
  intro o ho
  simp only [bind, List.map_map, List.mem_append, List.mem_map, List.mem_filterMap] at ho
  rcases ho with (⟨l, hl, rfl⟩ | ⟨p, ⟨l, hl, rfl⟩, ho⟩) | ⟨p, ⟨l, hl, rfl⟩, ho⟩
  · exact ⟨(h.operations l hl).span, fun _ _ => Resolution.ok_of_ignoring hscope⟩
  · unfold bindPrompt at ho
    split at ho
    · cases ho
      exact ⟨(h.prompts l hl).span, fun _ _ => Resolution.ok_of_ignoring hscope⟩
    · cases ho
  · unfold bindResource at ho
    split at ho
    · cases ho
      exact ⟨(h.resources l hl).span, fun _ _ => Resolution.ok_of_ignoring hscope⟩
    · cases ho

/-! ## 3. Conflicts -/

namespace Conflict

theorem ok_of_mem_duplicatesAfter {what : String} :
    ∀ {entries : List (String × Span)} {seen : List (String × Nat)}, (∀ e ∈ entries, ok e.2) →
      ∀ d ∈ duplicatesAfter seen what entries, ok d.span
  | [], _, _, d, hd => by simp [duplicatesAfter] at hd
  | (name, span) :: rest, seen, h, d, hd => by
      have hrest : ∀ e ∈ rest, ok e.2 := fun e he => h e (List.mem_cons_of_mem _ he)
      unfold duplicatesAfter at hd
      split at hd
      · rcases List.mem_cons.mp hd with rfl | hd
        · exact h _ List.mem_cons_self
        · exact ok_of_mem_duplicatesAfter hrest d hd
      · exact ok_of_mem_duplicatesAfter hrest d hd

theorem ok_of_mem_named {α : Type} {name : α → String} {field : String} {all : List (Located α)}
    (h : ∀ l ∈ all, l.site.Sited ok) : ∀ e ∈ named name field all, ok e.2 := by
  intro e he
  obtain ⟨l, hl, rfl⟩ := List.mem_map.mp he
  exact (h l hl).field field

theorem ok_of_mem_duplicates {g : LocatedGraph} (h : g.Sited ok) : ∀ d ∈ duplicates g, ok d.span := by
  intro d hd
  simp only [duplicates, List.mem_append] at hd
  rcases hd with (((hd | hd) | hd) | hd) | hd
  · exact ok_of_mem_duplicatesAfter (ok_of_mem_named h.operations) d hd
  · exact ok_of_mem_duplicatesAfter (ok_of_mem_named h.prompts) d hd
  · exact ok_of_mem_duplicatesAfter (ok_of_mem_named h.resources) d hd
  · exact ok_of_mem_duplicatesAfter (ok_of_mem_named h.resources) d hd
  · exact ok_of_mem_duplicatesAfter (ok_of_mem_named h.groups) d hd

theorem ok_of_mem_flags {o : Located Operation} (h : o.site.Sited ok) :
    ∀ d ∈ flags o, ok d.span := by
  intro d hd
  unfold flags at hd
  split at hd
  · exact List.mem_singleton.mp hd ▸ h.field "readOnly"
  · cases hd

theorem ok_of_mem_membersAfter {known : List String} {group : String} :
    ∀ {entries : List (String × Span)} {seen : List String}, (∀ e ∈ entries, ok e.2) →
      ∀ d ∈ membersAfter known seen group entries, ok d.span
  | [], _, _, d, hd => by simp [membersAfter] at hd
  | (name, span) :: rest, seen, h, d, hd => by
      have hrest : ∀ e ∈ rest, ok e.2 := fun e he => h e (List.mem_cons_of_mem _ he)
      have hspan := h _ List.mem_cons_self
      unfold membersAfter at hd
      split at hd
      · rcases List.mem_cons.mp hd with rfl | hd
        · exact hspan
        · exact ok_of_mem_membersAfter hrest d hd
      · split at hd
        · exact ok_of_mem_membersAfter hrest d hd
        · rcases List.mem_cons.mp hd with rfl | hd
          · exact hspan
          · exact ok_of_mem_membersAfter hrest d hd

theorem ok_of_mem_entries {g : Located Group} (h : g.site.Sited ok) : ∀ e ∈ entries g, ok e.2 := by
  intro e he
  obtain ⟨i, hi, rfl⟩ := List.mem_mapIdx.mp he
  dsimp only
  cases hitem : g.site.items[i]? with
  | none => exact h.field "tools"
  | some span => exact h.items span (List.mem_of_getElem? hitem)

theorem ok_of_mem_template {p : Located Prompt} (h : p.site.Sited ok) :
    ∀ d ∈ template p, ok d.span := by
  intro d hd
  unfold template at hd
  split at hd
  · cases hd
  · split at hd
    · cases hd
    · rcases List.mem_append.mp hd with hd | hd
      · obtain ⟨u, -, rfl⟩ := List.mem_map.mp hd
        exact h.field "template"
      · obtain ⟨a, -, rfl⟩ := List.mem_map.mp hd
        exact h.field "args"

theorem span_ofFinding (f : Finding) : (ofFinding f).span = f.span := by
  unfold ofFinding
  split <;> rfl

theorem ok_of_ofOutcome? {o : Outcome} (h : o.Sited ok) : ∀ d ∈ ofOutcome? o, ok d.span := by
  intro d hd
  unfold ofOutcome? at hd
  dsimp only at hd
  split at hd
  · cases hd
  · rename_i handler c hbound
    exact Option.some.inj hd ▸ h.ignoring handler c hbound
  · exact Option.some.inj hd ▸ h.span
  · exact Option.some.inj hd ▸ h.span
  · exact Option.some.inj hd ▸ h.span
  · exact Option.some.inj hd ▸ h.span

/-- What is wrong with a graph is wrong at a place of a descriptor, a tag or an implementation. -/
theorem ok_of_mem_all {g : LocatedGraph} {findings : List Finding} {outcomes : List Outcome}
    (hg : g.Sited ok) (hfindings : ∀ f ∈ findings, ok f.span) (houtcomes : ∀ o ∈ outcomes, o.Sited ok) :
    ∀ d ∈ all g findings outcomes, ok d.span := by
  intro d hd
  simp only [all, List.mem_append] at hd
  rcases hd with ((((hd | hd) | hd) | hd) | hd) | hd
  · exact ok_of_mem_duplicates hg d hd
  · obtain ⟨o, ho, hd⟩ := List.mem_flatMap.mp hd
    exact ok_of_mem_flags (hg.operations o ho) d hd
  · obtain ⟨l, hl, hd⟩ := List.mem_flatMap.mp hd
    exact ok_of_mem_membersAfter (ok_of_mem_entries (hg.groups l hl)) d hd
  · obtain ⟨p, hp, hd⟩ := List.mem_flatMap.mp hd
    exact ok_of_mem_template (hg.prompts p hp) d hd
  · obtain ⟨f, hf, rfl⟩ := List.mem_map.mp hd
    exact span_ofFinding f ▸ hfindings f hf
  · obtain ⟨o, ho, hd⟩ := List.mem_filterMap.mp hd
    exact ok_of_ofOutcome? (houtcomes o ho) d hd

end Conflict

/-! ## 4. Analyses -/

namespace Analysis

variable {f : SourceFile}

section

variable (hplaces : ∀ s ∈ f.places, ok s)
  (hdocs : ∀ d ∈ f.docs, ∀ l ∈ Annotation.contentLines d, ok l.span)

include hdocs

theorem entered_annotations : Annotation.Entered (·.tags.Sited ok) (fun d => ok d.span)
    ( Annotation.ofShapes ((context f).catalog.shapes.map (·.decl))) := by
  refine Annotation.entered_sited fun d hd => ?_
  obtain ⟨s, hs, rfl⟩ := List.mem_map.mp hd
  exact fun doc hdoc => hdocs doc (SourceFile.docs_subset (ShapeCatalog.decl_mem_shapes hs) hdoc)

include hplaces

/-- Whatever the types of a file lead to stands in the file. -/
theorem context_sited : (context f).Sited ok :=
  ⟨ShapeCatalog.sited_of_mem_shapes hplaces, (entered_annotations hdocs).entries⟩

/-- **Every problem stands at a place of the file, on a line of a comment, or at the beginning.** -/
theorem ok_of_mem_problems (horigin : ok Span.origin) : ∀ d ∈ (ofFile f).problems, ok d.span := by
  have hctx := context_sited hplaces hdocs
  have hnotes := Draft.only_contentsOf hctx horigin
  have hdraft := Draft.sited_contentsOf hctx
  intro d hd
  rw [problems, ofFile_eq] at hd
  simp only [List.mem_append] at hd
  rcases hd with ((hd | hd) | hd) | hd
  · exact ShapeCatalog.ok_of_mem_problems hplaces d hd
  · exact (entered_annotations hdocs).problems d hd
  · rcases Note.note_of_mem_diagnosticsAfter _ _ hd with hn | hn
    · exact (hnotes _ hn).2
    · exact hnotes _ hn
  · refine Conflict.ok_of_mem_all (Scope.sited_bind hdraft) (fun finding hf => ?_)
      (Scope.sited_outcomes (Scope.sited_ofFile hplaces) hdraft) d hd
    exact hnotes _ (Note.finding_of_mem_findingsAfter _ _ hf)

end

/-- **Problems are reported where they say.** If all places and comments that are written into a file agree
with a text, every problem has a place in the text, with its line and column. -/
theorem coherent_of_mem_problems (source : String) (f : SourceFile)
    (hplaces : ∀ s ∈ f.places, s.Coherent (Text.bytes source.toList))
    (hdocs : ∀ d ∈ f.docs, d.Coherent (Text.bytes source.toList)) :
    ∀ d ∈ (ofFile f).problems,
      d.span.Coherent (Text.bytes source.toList) ∧ d.span.line ≠ 0 := by
  intro d hd
  have hspan := ok_of_mem_problems hplaces
    (fun doc hdoc => Annotation.coherent_of_mem_contentLines (hdocs doc hdoc))
    (Span.Coherent.origin _) d hd
  exact ⟨hspan, hspan.line_ne_zero⟩

end Analysis

/-! ## A file with a wrong tag on the second line of a comment -/

namespace Sample

def wordText : String := "/** A word.\n *  @minLength none */\ntype Word = string"

def wordDoc : Doc := ⟨"/** A word.\n *  @minLength none */", ⟨0, 34, 1, 1⟩⟩

def word : SourceFile where
  items := [.shape ⟨"Word", .alias, [], .keyword ⟨47, 53, 3, 13⟩ "string", some wordDoc, false,
    ⟨35, 53, 3, 1⟩, ⟨40, 44, 3, 6⟩⟩]
  errors := []

theorem word_places : ∀ s ∈ word.places, s.Coherent (Text.bytes wordText.toList) := by
  have hplaces : word.places = [⟨35, 53, 3, 1⟩, ⟨40, 44, 3, 6⟩, ⟨47, 53, 3, 13⟩] := rfl
  rw [hplaces]
  simp only [List.mem_cons, List.not_mem_nil, or_false, forall_eq_or_imp, forall_eq]
  decide

theorem word_docs : ∀ d ∈ word.docs, d.Coherent (Text.bytes wordText.toList) := by
  have hdocs : word.docs = [wordDoc] := rfl
  rw [hdocs]
  simp only [List.mem_cons, List.not_mem_nil, or_false, forall_eq]
  exact ⟨by decide, by decide⟩

example : (Analysis.ofFile word).problems.map (·.span) = [⟨16, 31, 2, 5⟩, .origin] := by cbv

theorem word_coherent : (∀ s ∈ word.places, s.Coherent (Text.bytes wordText.toList)) ∧
    (∀ d ∈ word.docs, d.Coherent (Text.bytes wordText.toList)) ∧
    ∀ d ∈ (Analysis.ofFile word).problems,
      d.span.Coherent (Text.bytes wordText.toList) ∧ d.span.line ≠ 0 :=
  ⟨word_places, word_docs, Analysis.coherent_of_mem_problems wordText word word_places word_docs⟩

end Sample

end ServiceGraph
