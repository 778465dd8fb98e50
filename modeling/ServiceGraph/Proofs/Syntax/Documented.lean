import ServiceGraph.Proofs.Annotation.Places
import ServiceGraph.Syntax.Reader.File

/-!
The comments and the names of a file are tokens of its text.

A comment comes to document something in two places only: in front of a member of a body and in front of a
statement, where it is the text of a token (`Doc.IsToken`). Every other reader hands on what it is given. So
whatever is read, at whatever depth, is documented by tokens (`SourceFile.isToken_of_mem_docs`). What is bound at the
top level is bound to the text of a token that is a name (`SourceFile.isName_of_mem_bindings`).

`Reader.Gives` says of a reader what is so of all its results, from whatever cursor; a bind has it from its
second reader, which may use what the first one gives. The readers of types call each other with one less in their
budget, so there is one lemma for each of them about one step, and one induction on the budget for all.
-/

namespace ServiceGraph.Syntax

/-- A comment that stands in the text as a token. -/
def Doc.IsToken (d : Doc) : Prop :=
  ∃ t : Token, t.isComment = true ∧ "/**".toList.isPrefixOf t.text.toList = true ∧ d = ⟨t.text, t.span⟩

namespace Reader

variable {α β : Type} {P : β → Prop} {Q : α → Prop}

/-- Whatever a reader gives from a cursor has a property. -/
def GivesAt (Q : α → Prop) (r : Reader α) (c : Cursor) : Prop := ∀ a c', r c = some (a, c') → Q a

/-- Whatever a reader gives has a property. -/
def Gives (Q : α → Prop) (r : Reader α) : Prop := ∀ c, GivesAt Q r c

namespace Gives

theorem fail : Gives Q fail := by
  intro c a c' h
  cases h

theorem pure {a : α} (h : Q a) : Gives Q (pure a) := by
  intro c b c' heq
  cases heq
  exact h

theorem bind {x : Reader α} {f : α → Reader β} (hx : Gives Q x) (hf : ∀ a, Q a → Gives P (f a)) :
    Gives P (x >>= f) := by
  intro c b c' h
  obtain ⟨⟨a, c₁⟩, ha, hb⟩ := Option.bind_eq_some_iff.mp h
  exact hf a (hx c a c₁ ha) c₁ b c' hb

/-- A first reader about which nothing is said. -/
theorem skip {x : Reader α} {f : α → Reader β} (hf : ∀ a, Gives P (f a)) : Gives P (x >>= f) :=
  .bind (Q := fun _ => True) (fun _ _ _ _ => trivial) fun a _ => hf a

theorem ite {p : Prop} [Decidable p] {x y : Reader α} (hx : Gives Q x) (hy : Gives Q y) :
    Gives Q (if p then x else y) := by
  split
  · exact hx
  · exact hy

/-- What is read is taken from a reader or else given. -/
theorem ite_bind {p : Prop} [Decidable p] {x : Reader α} {a : α} {f : α → Reader β} (hx : Gives Q x) (ha : Q a)
    (hf : ∀ a, Q a → Gives P (f a)) : Gives P (if p then x >>= f else Pure.pure a >>= f) :=
  .ite (.bind hx hf) (.bind (.pure ha) hf)

/-- A branch may use the test. -/
theorem dite {p : Prop} [Decidable p] {x y : Reader α} (hx : p → Gives Q x) (hy : ¬p → Gives Q y) :
    Gives Q (if p then x else y) := by
  split
  · exact hx ‹p›
  · exact hy ‹¬p›

/-- A look at the next token leaves the cursor where it is. -/
theorem look {f : Option Token → Reader β} (h : ∀ c, GivesAt P (f (afterComments c.rest).head?) c) :
    Gives P (peek? >>= f) :=
  fun c b c' heq => h c b c' heq

theorem attempt {x : Reader α} (hx : Gives Q x) : Gives (fun a? => ∀ a ∈ a?, Q a) (attempt x) := by
  intro c a? c' h
  unfold Reader.attempt at h
  split at h
  · rename_i a c₁ ha
    cases h
    intro b hb
    cases hb
    exact hx c a _ ha
  · cases h
    simp

end Gives

theorem gives_expectKind (kind : TokenKind) : Gives (fun t => t.kind = kind) (expectKind kind) := by
  unfold expectKind
  exact .skip fun t => .dite (fun h => .pure (beq_iff_eq.mp h)) fun _ => .fail

namespace GivesAt

variable {c : Cursor}

theorem dite {p : Prop} [Decidable p] {x y : Reader α} (hx : p → GivesAt Q x c) (hy : ¬p → GivesAt Q y c) :
    GivesAt Q (if p then x else y) c := by
  split
  · exact hx ‹p›
  · exact hy ‹¬p›

/-- What is taken is what stands in front. -/
theorem take {kind : TokenKind} {t : Token} {f : Token → Reader β}
    (hfront : (afterComments c.rest).head? = some t) (hf : t.kind = kind → ∀ u, Gives P (f u)) :
    GivesAt P (expectKind kind >>= f) c := by
  intro b c' h
  obtain ⟨rest, hrest⟩ := List.head?_eq_some_iff.mp hfront
  obtain ⟨⟨u, c₁⟩, hu, hb⟩ := Option.bind_eq_some_iff.mp h
  obtain ⟨⟨v, c₂⟩, hnext, hkind⟩ := Option.bind_eq_some_iff.mp hu
  unfold next at hnext
  rw [hrest] at hnext
  cases hnext
  dsimp only at hkind
  split at hkind
  · exact hf (beq_iff_eq.mp ‹_›) u c₁ b c' hb
  · cases hkind

end GivesAt

end Reader

open Reader

/-- The name of a token is a name. -/
theorem Token.isName_of_kind {t : Token} (h : t.kind = .name) : Token.isName t.text.toList = true :=
  t.fits.name h

/-! ## 1. Types -/

namespace TypeExpr

/-- A type all of whose comments are tokens. -/
abbrev Sourced : TypeExpr → Prop := Annotation.Documented Doc.IsToken

theorem sourced_of_types {t : TypeExpr} {types : List TypeExpr} (hparts : t.parts = t :: partsOfTypes types)
    (hdocs : t.docs = []) (h : ∀ u ∈ types, u.Sourced) : t.Sourced :=
  everywhere_of_types hparts (by simp [hdocs]) h

section

variable {span : Span}

theorem sourced_keyword (name : String) : (keyword span name).Sourced :=
  sourced_of_types (by rw [parts, partsOfTypes]) rfl (by simp)

theorem sourced_literal (value : Literal) : (literal span value).Sourced :=
  sourced_of_types (by rw [parts, partsOfTypes]) rfl (by simp)

theorem sourced_function : (function span).Sourced :=
  sourced_of_types (by rw [parts, partsOfTypes]) rfl (by simp)

theorem sourced_other (construct : String) : (other span construct).Sourced :=
  sourced_of_types (by rw [parts, partsOfTypes]) rfl (by simp)

theorem sourced_array {item : TypeExpr} (h : item.Sourced) : (array span item).Sourced :=
  everywhere_array (by simp [docs]) h

theorem sourced_reference {name : String} {args : List TypeExpr} (h : ∀ t ∈ args, t.Sourced) :
    (reference span name args).Sourced :=
  sourced_of_types (by rw [parts]) rfl h

theorem sourced_tuple {items : List TypeExpr} (h : ∀ t ∈ items, t.Sourced) : (tuple span items).Sourced :=
  sourced_of_types (by rw [parts]) rfl h

theorem sourced_union {items : List TypeExpr} (h : ∀ t ∈ items, t.Sourced) : (union span items).Sourced :=
  sourced_of_types (by rw [parts]) rfl h

theorem sourced_intersection {items : List TypeExpr} (h : ∀ t ∈ items, t.Sourced) :
    (intersection span items).Sourced :=
  sourced_of_types (by rw [parts]) rfl h

end

end TypeExpr

/-- A field that is documented by a token, and its type by tokens. -/
structure FieldOf.Sourced (f : Field) : Prop where
  doc : ∀ d ∈ f.doc?, d.IsToken
  type : ∀ t ∈ f.type?, t.Sourced

theorem TypeExpr.sourced_object {span : Span} {fields : List Field} {skipped : List SkippedMember}
    (h : ∀ f ∈ fields, f.Sourced) : (object span fields skipped).Sourced := by
  refine everywhere_object ?_ fun f hf => (h f hf).type
  intro d hd
  obtain ⟨f, hf, hdoc⟩ := List.mem_filterMap.mp hd
  exact (h f hf).doc d hdoc

namespace TypeReader

open TypeExpr

/-- What is so of all results of the readers of types, with a given budget. -/
structure Sources (budget : Nat) : Prop where
  type : ∀ ending, Gives Sourced (type ending budget)
  union : ∀ ending, Gives Sourced (union ending budget)
  alternatives : ∀ ending, Gives (∀ t ∈ ·, t.Sourced) (alternatives ending budget)
  intersection : ∀ ending, Gives Sourced (intersection ending budget)
  conjuncts : ∀ ending, Gives (∀ t ∈ ·, t.Sourced) (conjuncts ending budget)
  single : ∀ ending, Gives Sourced (single ending budget)
  functionType : ∀ ending start, Gives Sourced (functionType ending start budget)
  suffixes : ∀ ending start inner, inner.Sourced → Gives Sourced (suffixes ending start inner budget)
  primary : Gives Sourced (primary budget)
  named : ∀ t, Gives Sourced (named t budget)
  reference : ∀ start nameEnd name, Gives Sourced (reference start nameEnd name budget)
  arguments : Gives (∀ t ∈ ·, t.Sourced) (arguments budget)
  tupleItems : Gives (∀ t ∈ ·, t.Sourced) (tupleItems budget)
  tupleItem : Gives Sourced (tupleItem budget)
  members : ∀ doc?, (∀ d ∈ doc?, d.IsToken) → Gives (∀ f ∈ ·.1, f.Sourced) (members doc? budget)
  member : ∀ doc?, (∀ d ∈ doc?, d.IsToken) → Gives (∀ f ∈ ·.1, f.Sourced) (member doc? budget)
  declaredType : Gives (∀ t ∈ ·.1, t.Sourced) (declaredType budget)

theorem sources_zero : Sources 0 where
  type _ := .fail
  union _ := .fail
  alternatives _ := .fail
  intersection _ := .fail
  conjuncts _ := .fail
  single _ := .fail
  functionType _ _ := .fail
  suffixes _ _ _ _ := .fail
  primary := .fail
  named _ := .fail
  reference _ _ _ := .fail
  arguments := .fail
  tupleItems := .fail
  tupleItem := .fail
  members _ _ := .fail
  member _ _ := .fail
  declaredType := .fail

theorem gives_leadingComments : Gives (∀ t ∈ ·, t.Sourced) leadingComments := by
  intro c ts c' h
  cases h
  intro t ht
  obtain ⟨u, -, rfl⟩ := List.mem_map.mp ht
  exact sourced_other _

theorem gives_functionType (budget : Nat) (ending : Option Ending) (start : Mark) :
    Gives Sourced (functionType ending start (budget + 1)) := by
  unfold functionType
  iterate 5 refine .skip fun _ => ?_
  exact .pure sourced_function

/-- A signature in brackets is no field. -/
theorem gives_indexSignature (start : Mark) : ∀ budget : Nat,
    Gives (∀ f ∈ ·.1, f.Sourced) (indexSignature start budget)
  | 0 => .fail
  | budget + 1 => by
      unfold indexSignature
      refine .skip fun _ => .skip fun _ => ?_
      split
      · iterate 4 refine .skip fun _ => ?_
        exact .pure (by simp)
      · iterate 3 refine .skip fun _ => ?_
        exact .pure (by simp)

section Step

variable {budget : Nat} (h : Sources budget)

include h

theorem gives_type (ending : Option Ending) : Gives Sourced (type ending (budget + 1)) := by
  unfold type
  refine .skip fun front? => ?_
  split
  · exact .fail
  · refine .bind (h.union ending) fun left hleft => .skip fun text => .skip fun ends => ?_
    split
    · iterate 7 refine .skip fun _ => ?_
      exact .pure (sourced_other _)
    · exact .pure hleft

theorem gives_union (ending : Option Ending) : Gives Sourced (union ending (budget + 1)) := by
  unfold union
  refine .skip fun bar? => ?_
  split
  · split
    · refine .skip fun _ => .bind (h.intersection ending) fun first hfirst =>
        .bind (h.alternatives ending) fun others hothers => .skip fun _ => .pure (sourced_union ?_)
      exact List.forall_mem_cons.mpr ⟨hfirst, hothers⟩
    · refine .bind (h.intersection ending) fun first hfirst =>
        .bind (h.alternatives ending) fun others hothers => ?_
      split
      · exact .pure hfirst
      · exact .skip fun _ => .pure (sourced_union (List.forall_mem_cons.mpr ⟨hfirst, hothers⟩))
  · exact .fail

theorem gives_alternatives (ending : Option Ending) :
    Gives (∀ t ∈ ·, t.Sourced) (alternatives ending (budget + 1)) := by
  unfold alternatives
  refine .skip fun _ => ?_
  split
  · exact .bind (h.intersection ending) fun first hfirst =>
      .bind (h.alternatives ending) fun others hothers => .pure (List.forall_mem_cons.mpr ⟨hfirst, hothers⟩)
  · exact .pure (by simp)

theorem gives_intersection (ending : Option Ending) : Gives Sourced (intersection ending (budget + 1)) := by
  unfold intersection
  refine .skip fun front? => ?_
  split
  · refine .skip fun leading => .bind (h.single ending) fun first hfirst =>
      .bind (h.conjuncts ending) fun others hothers => ?_
    split
    · split
      · exact .skip fun _ => .pure (sourced_intersection (by simpa using hfirst))
      · exact .pure hfirst
    · exact .skip fun _ => .pure (sourced_intersection (List.forall_mem_cons.mpr ⟨hfirst, hothers⟩))
  · exact .fail

theorem gives_conjuncts (ending : Option Ending) :
    Gives (∀ t ∈ ·, t.Sourced) (conjuncts ending (budget + 1)) := by
  unfold conjuncts
  refine .skip fun _ => ?_
  split
  · exact .bind (h.single ending) fun first hfirst =>
      .bind (h.conjuncts ending) fun others hothers => .pure (List.forall_mem_cons.mpr ⟨hfirst, hothers⟩)
  · exact .pure (by simp)

theorem gives_single (ending : Option Ending) : Gives Sourced (single ending (budget + 1)) := by
  unfold single
  refine .skip fun ts => ?_
  split
  · exact .fail
  · dsimp only
    split
    · exact .skip fun _ => h.type ending
    · split
      · iterate 4 refine .skip fun _ => ?_
        split
        · iterate 3 refine .skip fun _ => ?_
          exact .pure (sourced_other _)
        · exact .skip fun _ => .pure (sourced_other _)
      · split
        · exact .skip fun _ => .skip fun _ => h.functionType ending _
        · split
          · exact h.functionType ending _
          · exact .bind h.primary fun inner hinner => h.suffixes ending _ inner hinner

theorem gives_suffixes (ending : Option Ending) (start : Mark) {inner : TypeExpr} (hinner : inner.Sourced) :
    Gives Sourced (suffixes ending start inner (budget + 1)) := by
  unfold suffixes
  refine .skip fun _ => .skip fun _ => ?_
  split
  · refine .skip fun _ => .skip fun _ => ?_
    split
    · exact .skip fun _ => h.suffixes ending start _ (sourced_array hinner)
    · iterate 3 refine .skip fun _ => ?_
      exact h.suffixes ending start _ (sourced_other _)
  · exact .pure hinner

theorem gives_primary : Gives Sourced (primary (budget + 1)) := by
  unfold primary
  refine .skip fun t => ?_
  split
  · exact .pure (sourced_literal _)
  · exact .pure (sourced_literal _)
  · exact .pure (sourced_other _)
  · exact h.named t
  · split
    · exact .bind (h.members none (by simp)) fun found hfound => .skip fun _ => .skip fun _ =>
        .pure (sourced_object hfound)
    · split
      · exact .bind (h.type none) fun inner hinner => .skip fun _ => .pure hinner
      · split
        · exact .bind h.tupleItems fun items hitems => .skip fun _ => .skip fun _ =>
            .pure (sourced_tuple hitems)
        · split
          · exact .skip fun _ => .skip fun _ => .pure (sourced_literal _)
          · split
            · exact .pure (sourced_other _)
            · split
              · exact .skip fun _ => .skip fun _ => .pure (sourced_other _)
              · exact .fail
  · exact .fail

theorem gives_named (t : Token) : Gives Sourced (named t (budget + 1)) := by
  unfold named
  -- The words with a meaning of their own come first.
  refine .ite (.pure (sourced_literal _)) (.ite (.pure (sourced_literal _)) (.ite (.pure (sourced_literal _))
    (.ite (.pure (sourced_literal _)) (.ite (.pure (sourced_other _)) (.ite (.pure (sourced_keyword _)) ?_)))))
  refine .skip fun _ => .ite ?_ (.ite ?_ (.ite ?_ (.ite ?_ ?_)))
  · exact .skip fun _ => .skip fun _ => .skip fun _ => .pure (sourced_keyword _)
  · refine .skip fun operand? => ?_
    split
    · iterate 3 refine .skip fun _ => ?_
      exact .pure (sourced_other _)
    · exact .fail
  · have hrest : Gives Sourced (do
        queryRest budget
        let last ← stop
        pure (other (t.start.upTo last) "type_query")) :=
      .skip fun _ => .skip fun _ => .pure (sourced_other _)
    exact .skip fun _ => .ite (.skip fun _ => hrest) (.ite (.skip fun _ => hrest) hrest)
  · refine .skip fun _ => .skip fun _ => .ite ?_ ?_
    · exact .skip fun _ => .skip fun _ => .pure (sourced_other _)
    · exact .skip fun _ => .pure (sourced_other _)
  · exact .skip fun _ => .skip fun _ => .skip fun _ => h.reference _ _ _

theorem gives_reference (start : Mark) (nameEnd : Nat) (name : String) :
    Gives Sourced (reference start nameEnd name (budget + 1)) := by
  unfold reference
  refine .skip fun _ => ?_
  split
  · exact .bind h.arguments fun args hargs => .skip fun _ => .skip fun _ => .pure (sourced_reference hargs)
  · exact .pure (sourced_reference (by simp))

theorem gives_arguments : Gives (∀ t ∈ ·, t.Sourced) (arguments (budget + 1)) := by
  unfold arguments
  refine .bind gives_leadingComments fun before hbefore => .skip fun _ => ?_
  split
  · exact .pure hbefore
  · refine .bind (h.type none) fun first hfirst => .bind gives_leadingComments fun behind hbehind =>
      .skip fun _ => ?_
    have hlist : ∀ others : List TypeExpr, (∀ t ∈ others, t.Sourced) →
        ∀ t ∈ before ++ first :: behind ++ others, t.Sourced := by
      intro others hothers
      simp only [List.forall_mem_append, List.forall_mem_cons]
      exact ⟨⟨hbefore, hfirst, hbehind⟩, hothers⟩
    refine .ite (.bind h.arguments fun others hothers => .pure (hlist others hothers)) ?_
    rw [pure_bind]
    exact .pure (hlist [] (by simp))

theorem gives_tupleItems : Gives (∀ t ∈ ·, t.Sourced) (tupleItems (budget + 1)) := by
  unfold tupleItems
  refine .skip fun _ => ?_
  split
  · exact .pure (by simp)
  · refine .bind h.tupleItem fun first hfirst => .skip fun _ => .ite ?_ ?_
    · exact .bind h.tupleItems fun others hothers => .pure (List.forall_mem_cons.mpr ⟨hfirst, hothers⟩)
    · rw [pure_bind]
      exact .pure (List.forall_mem_singleton.mpr hfirst)

theorem gives_tupleItem : Gives Sourced (tupleItem (budget + 1)) := by
  unfold tupleItem
  refine .skip fun ts => ?_
  split
  · exact .fail
  · dsimp only
    split
    · iterate 4 refine .skip fun _ => ?_
      exact .pure (sourced_other _)
    · split
      · iterate 5 refine .skip fun _ => ?_
        exact .pure (sourced_other _)
      · split
        · refine .skip fun _ => .skip fun us => ?_
          split
          · split
            · iterate 4 refine .skip fun _ => ?_
              exact .pure (sourced_other _)
            · exact .skip fun _ => .skip fun _ => .pure (sourced_other _)
          · exact .fail
        · exact .bind (h.type none) fun item hitem => .skip fun _ => .pure hitem

theorem gives_declaredType : Gives (∀ t ∈ ·.1, t.Sourced) (declaredType (budget + 1)) := by
  unfold declaredType
  refine .skip fun colon? => ?_
  split
  · split
    · refine .skip fun _ => .bind (h.type (some .afterType)).attempt fun found? hfound => ?_
      split
      · exact .pure hfound
      · exact .skip fun _ => .pure (by simp)
    · exact .pure (by simp)
  · exact .pure (by simp)

/-- The comment in front of a member becomes its own, unless a later one does. -/
theorem gives_members {doc? : Option Doc} (hdoc : ∀ d ∈ doc?, d.IsToken) :
    Gives (∀ f ∈ ·.1, f.Sourced) (members doc? (budget + 1)) := by
  intro c found c' heq
  unfold members at heq
  split at heq
  · cases heq
    simp
  · rename_i t rest hrest
    split at heq
    · rename_i hcomment
      refine h.members _ ?_ _ _ _ heq
      split
      · rename_i hprefix
        intro d hd
        exact ⟨t, hcomment, hprefix, (Option.mem_some.mp hd).symm⟩
      · exact hdoc
    · split at heq
      · cases heq
        simp
      · split at heq
        · exact h.members _ hdoc _ _ _ heq
        · split at heq
          · cases heq
          · rename_i first c₁ hfirst
            split at heq
            · split at heq
              · cases heq
              · rename_i fields skipped c₂ hothers
                cases heq
                intro f hf
                rcases List.mem_append.mp hf with hf | hf
                · exact h.member _ hdoc _ _ _ hfirst f hf
                · exact h.members none (by simp) _ _ _ hothers f hf
            · cases heq

theorem gives_member {doc? : Option Doc} (hdoc : ∀ d ∈ doc?, d.IsToken) :
    Gives (∀ f ∈ ·.1, f.Sourced) (member doc? (budget + 1)) := by
  unfold member
  refine .skip fun ts => ?_
  split
  · exact .fail
  · refine .ite (.skip fun _ => .skip fun _ => .pure (by simp)) (.ite ?_ (.ite ?_ (.skip fun words => .skip fun us =>
      ?_)))
    · iterate 4 refine .skip fun _ => ?_
      exact .pure (by simp)
    · exact .skip fun _ => .skip fun _ => gives_indexSignature _ _
    · split
      · exact .fail
      · refine .ite (.ite (gives_indexSignature _ _) ?_) (.ite ?_ .fail)
        · refine .skip fun _ => .skip fun _ => .skip fun _ => .ite ?_ ?_
          · exact .skip fun _ => .skip fun _ => .pure (by simp)
          · exact .skip fun _ => .skip fun _ => .pure (by simp)
        · refine .skip fun _ => .skip fun _ => .skip fun _ => .ite ?_ ?_
          · refine .skip fun _ => .skip fun _ => .pure (List.forall_mem_singleton.mpr ⟨hdoc, fun t ht => ?_⟩)
            exact Option.mem_some.mp ht ▸ sourced_function
          · refine .skip fun _ => .bind h.declaredType fun found hfound => .ite ?_ ?_
            · exact .skip fun _ => .pure (List.forall_mem_singleton.mpr ⟨hdoc, hfound⟩)
            · exact .skip fun _ => .pure (List.forall_mem_singleton.mpr ⟨hdoc, hfound⟩)

theorem Sources.succ : Sources (budget + 1) where
  type := gives_type h
  union := gives_union h
  alternatives := gives_alternatives h
  intersection := gives_intersection h
  conjuncts := gives_conjuncts h
  single := gives_single h
  functionType := gives_functionType budget
  suffixes ending start _ := gives_suffixes h ending start
  primary := gives_primary h
  named := gives_named h
  reference := gives_reference h
  arguments := gives_arguments h
  tupleItems := gives_tupleItems h
  tupleItem := gives_tupleItem h
  members _ := gives_members h
  member _ := gives_member h
  declaredType := gives_declaredType h

end Step

/-- **Whatever the readers of types give is documented by tokens.** -/
theorem sources : ∀ budget, Sources budget
  | 0 => sources_zero
  | budget + 1 => (sources budget).succ

end TypeReader

/-! ## 2. Files -/

/-- An item all of whose comments are tokens, and which binds nothing but a name. -/
structure Item.Sourced (i : Item) : Prop where
  docs : ∀ d ∈ i.docs, d.IsToken
  name : ∀ b, i = .binding b → Token.isName b.name.toList = true

theorem Item.sourced_binding {b : Binding} (h : Token.isName b.name.toList = true) : (Item.binding b).Sourced := by
  refine ⟨fun d hd => ?_, fun b' heq => ?_⟩
  · cases hd
  · cases heq
    exact h

theorem Item.sourced_defaultExport (e : DefaultExport) : (Item.defaultExport e).Sourced := by
  refine ⟨fun d hd => ?_, fun b heq => ?_⟩
  · cases hd
  · cases heq

theorem Item.sourced_shape {d : ShapeDecl} (hdoc : ∀ doc ∈ d.doc?, doc.IsToken) (htype : d.type.Sourced)
    (hheritage : ∀ t ∈ d.heritage, t.Sourced) : (Item.shape d).Sourced := by
  refine ⟨fun doc hd => ?_, fun b heq => by cases heq⟩
  rcases List.mem_append.mp hd with hd | hd
  · exact hdoc doc (Option.mem_toList.mp hd)
  · obtain ⟨t, ht, hd⟩ := List.mem_flatMap.mp hd
    obtain ⟨u, hu, hd⟩ := List.mem_flatMap.mp hd
    exact (List.forall_mem_cons.mpr ⟨htype, hheritage⟩) t ht u hu doc hd

namespace FileReader

open TypeExpr

theorem gives_bases : ∀ budget, Gives (∀ t ∈ ·, t.Sourced) (bases budget)
  | 0 => .fail
  | budget + 1 => by
      unfold bases
      refine .bind TypeReader.gives_leadingComments fun before hbefore => ?_
      iterate 4 refine .skip fun _ => ?_
      refine .bind ((TypeReader.sources budget).reference _ _ _) fun base hbase => .skip fun _ => .ite ?_ ?_
      · refine .bind TypeReader.gives_leadingComments fun behind hbehind => .skip fun _ =>
          .bind (gives_bases budget) fun others hothers => .pure ?_
        simp only [List.forall_mem_append, List.forall_mem_cons]
        exact ⟨⟨hbefore, hbase, hbehind⟩, hothers⟩
      · exact .pure (List.forall_mem_append.mpr ⟨hbefore, List.forall_mem_singleton.mpr hbase⟩)

section

variable {doc? : Option Doc} (hdoc : ∀ d ∈ doc?, d.IsToken) (isExported : Bool) (start : Mark) (budget : Nat)

include hdoc

theorem gives_interfaceTail : Gives Item.Sourced (interfaceTail doc? isExported start budget) := by
  unfold interfaceTail
  refine .skip fun name => .skip fun _ => .skip fun _ =>
    .ite_bind (gives_bases budget) (by simp) fun heritage hheritage => ?_
  refine .skip fun _ => .skip fun _ => .bind ((TypeReader.sources budget).members none (by simp))
    fun found hfound => .skip fun _ => .skip fun _ => .pure ?_
  exact Item.sourced_shape hdoc (sourced_object hfound) hheritage

theorem gives_aliasTail : Gives Item.Sourced (aliasTail doc? isExported start budget) := by
  unfold aliasTail
  have htype : Gives Sourced (aliasedType budget) := by
    intro c t c' h
    unfold aliasedType at h
    split at h
    · split at h
      · cases h
        exact sourced_reference (by simp)
      · exact (TypeReader.sources budget).type _ c t c' h
    · cases h
  refine .skip fun name => .skip fun _ => .skip fun _ => .bind htype fun type htype => ?_
  exact .skip fun _ => .skip fun _ => .pure (Item.sourced_shape hdoc htype (by simp))

end

/-- A function, a class and a variable are documented by nothing, and have names. -/
theorem gives_functionTail (isExported : Bool) (start : Mark) (budget : Nat) :
    Gives Item.Sourced (functionTail isExported start budget) := by
  unfold functionTail
  have hend : ∀ (name : Token) (arity : Arity), name.kind = .name → Gives Item.Sourced (do
      pure (.binding ⟨name.text, .function arity, isExported, start.upTo (← stop)⟩)) :=
    fun _ _ hname => .skip fun _ => .pure (Item.sourced_binding ( Token.isName_of_kind hname))
  refine .skip fun _ => .bind (gives_expectKind .name) fun name hname => .skip fun _ => .skip fun arity =>
    .skip fun _ => ?_
  refine .ite (.skip fun _ => ?_) ?_
  all_goals
    exact .skip fun _ => .skip fun _ => .ite (.skip fun _ => hend _ _ hname) (.skip fun _ => hend _ _ hname)

theorem gives_classTail : ∀ budget, Gives (∀ name ∈ ·.1, Token.isName name.toList = true)
    (ValueReader.classTail budget)
  | 0 => .fail
  | budget + 1 => by
      unfold ValueReader.classTail
      have hend : ∀ name? : Option String, (∀ name ∈ name?, Token.isName name.toList = true) →
          Gives (∀ name ∈ ·.1, Token.isName name.toList = true) (do
            skipAngles
            ValueReader.classHeritage budget
            expect "\x7b"
            let found ← ValueReader.classMembers budget
            closeWith "\x7d"
            pure (name?, Value.classBody found)) := by
        intro name? hname
        iterate 5 refine .skip fun _ => ?_
        exact .pure hname
      refine .skip fun t? => ?_
      split
      · rename_i t
        refine .dite (fun h => .skip fun _ => ?_) fun _ => ?_
        · rw [pure_bind]
          rw [Bool.and_eq_true, Bool.and_eq_true] at h
          refine hend (some t.text) fun name hname => ?_
          exact Option.mem_some.mp hname ▸ Token.isName_of_kind (beq_iff_eq.mp h.1.1)
        · rw [pure_bind]
          exact hend none (by simp)
      · exact .bind (Q := fun _ => False) .fail fun _ => False.elim

theorem gives_classDeclaration (isExported : Bool) (start : Mark) (budget : Nat) :
    Gives (∀ i ∈ ·, i.Sourced) (classDeclaration isExported start budget) := by
  unfold classDeclaration
  refine .bind (gives_classTail budget) fun found hfound => .skip fun _ => ?_
  split
  · rename_i name hname
    exact .skip fun _ => .pure (List.forall_mem_singleton.mpr (Item.sourced_binding (hfound name hname)))
  · exact .fail

theorem gives_declarators (isExported : Bool) (budget : Nat) : ∀ count,
    Gives (∀ i ∈ ·, i.Sourced) (declarators isExported budget count)
  | 0 => .fail
  | count + 1 => by
      unfold declarators
      have hfound : ∀ (isPattern : Bool) (item : Item), (isPattern = false → item.Sourced) →
          ∀ i ∈ if isPattern then [] else [item], i.Sourced := by
        intro isPattern item hitem
        cases isPattern
        · exact List.forall_mem_singleton.mpr (hitem rfl)
        · simp
      have hend : ∀ (isPattern hasInitial : Bool) (item : Item), (isPattern = false → item.Sourced) →
          Gives (∀ i ∈ ·, i.Sourced) (do
            let found := if isPattern then [] else [item]
            if ← accept "," then
              let others ← declarators isExported budget count
              pure (found ++ others)
            else
              endStatement (if hasInitial then .afterValue else .afterType)
              pure found) := by
        intro isPattern hasInitial item hitem
        refine .skip fun _ => .ite ?_ (.skip fun _ => .pure (hfound _ _ hitem))
        exact .bind (gives_declarators isExported budget count) fun others hothers =>
          .pure (List.forall_mem_append.mpr ⟨hfound _ _ hitem, hothers⟩)
      have hrest : ∀ (isPattern : Bool) (t : Token), (isPattern = false → t.kind = .name) →
          Gives (∀ i ∈ ·, i.Sourced) (do
            let _ ← accept "!"
            let declared ← ValueReader.annotationValue budget
            let hasInitial ← accept "="
            let value ← if hasInitial then ValueReader.expression (some .afterValue) budget else pure declared
            let item : Item := .binding ⟨t.text, value, isExported, t.start.upTo (← stop)⟩
            let found := if isPattern then [] else [item]
            if ← accept "," then
              let others ← declarators isExported budget count
              pure (found ++ others)
            else
              endStatement (if hasInitial then .afterValue else .afterType)
              pure found) := by
        intro isPattern t ht
        refine .skip fun _ => .skip fun declared => .skip fun hasInitial => .ite ?_ ?_
        all_goals exact .skip fun _ => .skip fun _ => hend _ _ _ fun hnot =>
          Item.sourced_binding ( Token.isName_of_kind (ht hnot))
      refine .look fun c => ?_
      cases hfront : (afterComments c.rest).head? with
      | none => exact Gives.fail c
      | some t =>
        refine .dite (fun hpattern => ?_) fun _ => ?_
        · exact Gives.skip (fun _ => hrest _ t fun hnot => absurd (hnot.symm.trans hpattern) (by simp)) c
        · exact .take hfront fun hname _ => hrest _ t fun _ => hname

theorem gives_declaration {doc? : Option Doc} (hdoc : ∀ d ∈ doc?, d.IsToken) (isExported : Bool) : ∀ budget,
    Gives (∀ i ∈ ·, i.Sourced) (declaration doc? isExported budget)
  | 0 => .fail
  | budget + 1 => by
      unfold declaration
      have hone : ∀ {x : Reader Item}, Gives Item.Sourced x →
          Gives (∀ i ∈ ·, i.Sourced) (do pure [← x]) := fun hx =>
        .bind hx fun i hi => .pure (List.forall_mem_singleton.mpr hi)
      refine .skip fun t => ?_
      split
      · exact hone (gives_interfaceTail hdoc isExported _ budget)
      · exact hone (gives_aliasTail hdoc isExported _ budget)
      · exact hone (gives_functionTail isExported _ budget)
      · exact .skip fun _ => hone (gives_functionTail isExported _ budget)
      · exact gives_classDeclaration isExported _ budget
      · exact .skip fun _ => gives_classDeclaration isExported _ budget
      · exact gives_declarators isExported budget budget
      · exact gives_declarators isExported budget budget
      · exact .skip fun _ => .ite (.skip fun _ => .skip fun _ => .pure (by simp))
          (gives_declarators isExported budget budget)
      · exact .skip fun _ => .skip fun _ => .pure (by simp)
      · exact .skip fun _ => .pure (by simp)
      · exact .skip fun _ => .pure (by simp)
      · exact .skip fun _ => .ite (.skip fun _ => .pure (by simp)) (gives_declaration hdoc isExported budget)
      · exact .fail

/-! ## 3. Imports and exports -/

/-- What is made from a value is an item without comments. -/
theorem gives_importSpecifiers : ∀ budget, Gives (∀ make ∈ ·, ∀ v, (make v).Sourced) (importSpecifiers budget)
  | 0 => .fail
  | budget + 1 => by
      unfold importSpecifiers
      refine .skip fun ts => ?_
      split
      · exact .fail
      · rename_i t after
        have hfound : ∀ (isHidden : Bool) (name : Token) (span : Span), name.kind = .name →
            ∀ make ∈ if isHidden then [] else [fun value => Item.binding ⟨name.text, value, false, span⟩],
              ∀ v, (make v).Sourced := by
          intro isHidden name span hname
          cases isHidden
          · exact List.forall_mem_singleton.mpr fun _ => Item.sourced_binding ( Token.isName_of_kind hname)
          · simp
        have hend : ∀ (isType : Bool) (localName : Token), localName.kind = .name →
            Gives (∀ make ∈ ·, ∀ v, (make v).Sourced) (do
            let span := t.start.upTo (← stop)
            let isHidden := isType && t.text = "type"
            let found : List (Value → Item) :=
              if isHidden then [] else [fun value => .binding ⟨localName.text, value, false, span⟩]
            let others ← if ← accept "," then importSpecifiers budget else pure []
            pure (found ++ others)) := by
          intro isType localName hname
          refine .skip fun _ => .skip fun _ => .ite ?_ ?_
          · exact .bind (gives_importSpecifiers budget) fun others hothers =>
              .pure (List.forall_mem_append.mpr ⟨hfound _ _ _ hname, hothers⟩)
          · rw [pure_bind]
            exact .pure (List.forall_mem_append.mpr ⟨hfound _ _ _ hname, by simp⟩)
        refine .ite (.pure (by simp)) (.ite (.skip fun _ => .skip fun name => .skip fun _ => ?_)
          (.skip fun name => .skip fun _ => ?_))
        all_goals
          refine .ite (.bind (gives_expectKind .name) fun _ hlocal => hend _ _ hlocal) (.dite (fun h => ?_) fun _ => ?_)
          · exact .bind (Q := fun u => u.kind = .name) (.pure (beq_iff_eq.mp h)) fun _ hlocal => hend _ _ hlocal
          · exact .bind (Q := fun _ => False) .fail fun _ => False.elim

theorem gives_importClause (budget : Nat) : ∀ count,
    Gives (∀ make ∈ ·, ∀ v, (make v).Sourced) (importClause budget count)
  | 0 => .fail
  | count + 1 => by
      unfold importClause
      have hend : ∀ found : List (Value → Item), (∀ make ∈ found, ∀ v, (make v).Sourced) →
          Gives (∀ make ∈ ·, ∀ v, (make v).Sourced) (do
            if ← accept "," then
              let others ← importClause budget count
              pure (found ++ others)
            else pure found) := by
        intro found hfound
        refine .skip fun _ => .ite ?_ (.pure hfound)
        exact .bind (gives_importClause budget count) fun others hothers =>
          .pure (List.forall_mem_append.mpr ⟨hfound, hothers⟩)
      refine .skip fun t => .ite ?_ (.ite ?_ (.dite (fun h => ?_) fun _ => ?_))
      · refine .bind (gives_importSpecifiers budget) fun names hnames => .skip fun _ => ?_
        rw [pure_bind]
        exact hend names hnames
      · refine .skip fun _ => .bind (gives_expectKind .name) fun name hname => ?_
        rw [pure_bind]
        exact hend _ (List.forall_mem_singleton.mpr fun _ => Item.sourced_binding ( Token.isName_of_kind hname))
      · rw [pure_bind]
        have hname := Token.isName_of_kind (beq_iff_eq.mp h)
        exact hend _ (List.forall_mem_singleton.mpr fun _ => Item.sourced_binding hname)
      · exact .bind (Q := fun _ => False) .fail fun _ => False.elim

theorem gives_importTail (budget : Nat) : Gives (∀ i ∈ ·, i.Sourced) (importTail budget) := by
  unfold importTail
  refine .skip fun ts => ?_
  split
  · exact .fail
  · refine .ite (.skip fun _ => .skip fun _ => .skip fun _ => .pure (by simp)) (.ite (.skip fun _ => ?_) ?_)
    all_goals
      refine .skip fun us => ?_
      split
      · refine .ite ?_ (.bind (gives_importClause budget 3) fun found hfound => ?_)
        · iterate 4 refine .skip fun _ => ?_
          exact .pure (by simp)
        · iterate 4 refine .skip fun _ => ?_
          refine .ite (.pure (by simp)) (.pure fun i hi => ?_)
          obtain ⟨make, hmake, rfl⟩ := List.mem_map.mp hi
          exact hfound make hmake _
      · exact .fail

section

variable {doc? : Option Doc} (hdoc : ∀ d ∈ doc?, d.IsToken) (budget : Nat)

include hdoc

theorem gives_decoratedDeclaration (isExported : Bool) :
    Gives (∀ i ∈ ·, i.Sourced) (decoratedDeclaration doc? isExported budget) := by
  unfold decoratedDeclaration
  refine .skip fun t? => ?_
  split
  · exact .fail
  · refine .ite ?_ (gives_declaration hdoc isExported budget)
    exact .skip fun _ => .skip fun _ => .skip fun _ => gives_classDeclaration isExported _ budget

theorem gives_defaultTail (start : Mark) : Gives (∀ i ∈ ·, i.Sourced) (defaultTail doc? start budget) := by
  unfold defaultTail
  refine .skip fun ts => .ite ?_ ?_
  · refine .bind (gives_decoratedDeclaration hdoc budget true) fun items hitems => .skip fun _ => .pure ?_
    exact List.forall_mem_append.mpr ⟨hitems, List.forall_mem_singleton.mpr (Item.sourced_defaultExport _)⟩
  · exact .skip fun _ => .skip fun _ => .skip fun _ =>
      .pure (List.forall_mem_singleton.mpr (Item.sourced_defaultExport _))

theorem gives_exportTail (start : Mark) : Gives (∀ i ∈ ·, i.Sourced) (exportTail doc? start budget) := by
  unfold exportTail
  refine .skip fun ts => ?_
  split
  · exact .fail
  · have hnone : Gives (∀ i ∈ ·, Item.Sourced i) (pure []) := .pure (by simp)
    refine .ite (.skip fun _ => gives_defaultTail hdoc budget start) (.ite ?_ (.ite ?_ (.ite ?_ (.ite ?_ (.ite ?_
      (.ite ?_ (gives_decoratedDeclaration hdoc budget true)))))))
    · exact .skip fun _ => .skip fun _ => .skip fun _ => hnone
    · refine .skip fun _ => .skip fun _ => .ite (.skip fun _ => ?_) ?_
      all_goals exact .skip fun _ => .skip fun _ => hnone
    · exact .skip fun _ => .skip fun _ => .skip fun _ => hnone
    · refine .skip fun _ => .skip fun _ => .ite (.skip fun _ => ?_) (.skip fun _ => ?_)
      all_goals exact .skip fun _ => .skip fun _ => hnone
    · exact .skip fun _ => .skip fun _ => .skip fun _ => .skip fun _ => hnone
    · exact .skip fun _ => .skip fun _ => hnone

end

/-! ## 4. Statements -/

theorem gives_statement : ∀ (budget : Nat) {doc? : Option Doc}, (∀ d ∈ doc?, d.IsToken) →
    Gives (∀ i ∈ ·, i.Sourced) (statement doc? budget)
  | 0, _, _ => .fail
  | budget + 1, doc?, hdoc => by
      unfold statement
      have hnone : Gives (∀ i ∈ ·, Item.Sourced i) (pure []) := .pure (by simp)
      have hinner : Gives (∀ i ∈ ·, Item.Sourced i) (statement none budget) := gives_statement budget (by simp)
      refine .skip fun ts => ?_
      split
      · exact .fail
      · rename_i t after
        refine .ite (.skip fun _ => hnone) (.ite (.skip fun _ => hnone) (.ite ?_ (.ite ?_ (.ite ?_ (.ite ?_
          (.ite ?_ (.ite ?_ (.ite ?_ (.ite ?_ (.ite ?_ (.ite ?_ ?_)))))))))))
        · refine .skip fun _ => .skip fun _ => .ite (.skip fun _ => gives_exportTail hdoc budget _) ?_
          exact .skip fun _ => .skip fun _ => gives_classDeclaration false _ budget
        · exact .skip fun _ => gives_importTail budget
        · exact .skip fun _ => gives_exportTail hdoc budget _
        · exact gives_declaration hdoc false budget
        · iterate 4 refine .skip fun _ => ?_
          refine .ite (.skip fun _ => .ite (.skip fun _ => hnone) hnone) hnone
        · iterate 5 refine .skip fun _ => ?_
          exact hnone
        · iterate 3 refine .skip fun _ => ?_
          exact hnone
        · have hlast : Gives (∀ i ∈ ·, Item.Sourced i) (do
              if ← accept "finally" then block .afterType
              pure []) :=
            .skip fun _ => .ite (.skip fun _ => hnone) hnone
          refine .skip fun _ => .skip fun _ => .skip fun _ => .ite (.skip fun _ => .ite ?_ ?_) hlast
          · exact .skip fun _ => .skip fun _ => hlast
          · exact .skip fun _ => hlast
        · have hlast : Gives (∀ i ∈ ·, Item.Sourced i) (do
              endStatement .afterValue
              pure []) :=
            .skip fun _ => hnone
          exact .skip fun _ => .skip fun _ => .skip fun _ => .ite (.skip fun _ => hlast) hlast
        · exact .skip fun _ => .skip fun _ => hinner
        · exact .skip fun _ => .skip fun _ => hnone

theorem sourced_recover (start : Token) (budget : Nat) : ∀ (ts : List Token) (c : Cursor),
    ∀ i ∈ (recover start budget ts c).1, i.Sourced
  | [], _ => by simp [recover]
  | t :: rest, c => by
      rw [recover]
      split
      · exact sourced_recover start budget rest _
      · split
        · rename_i found hfound
          exact gives_statement budget (by simp) _ _ _ hfound
        · exact sourced_recover start budget rest _

theorem sourced_statements (budget : Nat) : ∀ (count : Nat) {doc? : Option Doc} (c : Cursor),
    (∀ d ∈ doc?, d.IsToken) → ∀ i ∈ (statements doc? budget count c).1, i.Sourced
  | 0, _, _, _ => by simp [statements]
  | count + 1, doc?, c, hdoc => by
      have hnone : ∀ d ∈ (none : Option Doc), d.IsToken := by simp
      unfold statements
      split
      · simp
      · rename_i t rest hrest
        split
        · rename_i hcomment
          refine sourced_statements budget count _ ?_
          split
          · rename_i hprefix
            intro d hd
            exact ⟨t, hcomment, hprefix, (Option.mem_some.mp hd).symm⟩
          · exact hdoc
        · split
          · rename_i items c₁ hitems
            exact List.forall_mem_append.mpr ⟨gives_statement budget hdoc _ _ _ hitems,
              sourced_statements budget count c₁ hnone⟩
          · exact List.forall_mem_append.mpr ⟨sourced_recover t budget _ _,
              sourced_statements budget count _ hnone⟩

end FileReader

namespace SourceFile

theorem sourced_of_mem_items (text : String) : ∀ i ∈ (read text).items, i.Sourced := by
  let ts := Token.scan text.toList
  exact FileReader.sourced_statements (budgetFor ts) (ts.length + 1) ⟨text.toList, ts, .origin, []⟩ (by simp)

/-- **Every comment of a file that is read is a token of its text.** -/
theorem isToken_of_mem_docs (text : String) : ∀ d ∈ (read text).docs, d.IsToken := by
  intro d hd
  obtain ⟨i, hi, hd⟩ := List.mem_flatMap.mp hd
  exact (sourced_of_mem_items text i hi).docs d hd

/-- **Whatever is bound in a file that is read has a name.** -/
theorem isName_of_mem_bindings (text : String) : ∀ b ∈ (read text).bindings, Token.isName b.name.toList = true := by
  intro b hb
  obtain ⟨i, hi, heq⟩ := List.mem_filterMap.mp hb
  cases i with
  | binding decl =>
    cases heq
    exact (sourced_of_mem_items text _ hi).name b rfl
  | _ => cases heq

end SourceFile

end ServiceGraph.Syntax
