import Mathlib.Data.List.Perm.Basic
import Mathlib.Data.List.Perm.Lattice
import ServiceGraph.Proofs.Shape.Fields

/-!
Shapes that lead back to themselves, and bases that lead nowhere.

The walk reports a base that is under way, and it remembers a shape when it has been through all of its bases.
So the order in which shapes are remembered tells what was reported: a base is, if it is not remembered before the
shape that names it (`Heritage.Extension.closes`).

* While a shape is under way, nothing that is under way is remembered, and what is reported of it are its bases
  under way (`Heritage.resolveBases_examined`); when it is remembered, these are the bases that close cycles
  (`Heritage.Examined.remember`).
* All other bases are remembered before their shapes, so they make no cycle (`Heritage.not_remains_cycle`).
* In the end every base of every shape has been examined once (`ShapeCatalog.heritage_examined`).
-/

namespace ServiceGraph.Heritage

open Syntax

/-! ## 1. Bases -/

/-- A base of a shape. -/
structure Extension where
  shape : ShapeStructure
  base : TypeExpr

namespace Extension

variable (all : List ShapeStructure) (e : Extension)

/-- The declared shape that a base names. -/
def target? : Option String := e.base.referenceName?.filter fun name => (structureOf? all name).isSome

/-- The problem of a base that names neither a declared shape nor a marker. -/
def unknown? : Option Diagnostic :=
  match e.base.referenceName? with
  | none =>
    some ⟨.unknownBase, e.base.span, s!"`{e.shape.name}` extends something that is not a named shape"⟩
  | some name =>
    if (structureOf? all name).isSome || (ShapeKind.ofMarker? name).isSome then none
    else some ⟨.unknownBase, e.base.span, s!"`{e.shape.name}` extends unknown shape `{name}`"⟩

/-- The problem of a base that leads back to its shape. -/
def cyclic : Diagnostic :=
  let base := e.base.referenceName?.getD ""
  ⟨.cyclicHeritage, e.base.span,
    s!"cyclic heritage: `{e.shape.name}` extends `{base}`, which leads back to it"⟩

/-- What is reported at a base, where some bases are said to lead back. -/
def problems (leadsBack : Extension → Bool) : List Diagnostic :=
  (e.unknown? all).toList ++ if leadsBack e then [e.cyclic] else []

/-- Whether a base is a shape under way, where the others are free. -/
def isUnderWay (free : List String) : Bool := (e.target? all).any (!free.contains ·)

/-- Whether a base is a shape that does not stand before its own shape in an order. -/
def closes (order : List String) : Bool :=
  (e.target? all).any fun name => !(order.takeWhile (· != e.shape.name)).contains name

end Extension

/-- The bases of a shape. -/
def extensionsOf (s : ShapeStructure) : List Extension := s.bases.map (⟨s, ·⟩)

/-- The bases of all shapes. -/
def extensions (all : List ShapeStructure) : List Extension := all.flatMap extensionsOf

/-- A declared shape has a declared shape among those of its bases that are not said to lead back. -/
def Remains (all : List ShapeStructure) (leadsBack : Extension → Bool) (a b : String) : Prop :=
  ∃ e ∈ extensions all, leadsBack e = false ∧ e.shape.name = a ∧ e.target? all = some b

variable {all : List ShapeStructure} {free : List String} {s : ShapeStructure} {st : HeritageState}

theorem Extension.code_of_unknown {e : Extension} {d : Diagnostic} (h : e.unknown? all = some d) :
    d.code = .unknownBase := by
  unfold Extension.unknown? at h
  split at h
  · exact Option.some.inj h ▸ rfl
  · exact Option.some.inj (Option.ite_none_left_eq_some.mp h).2 ▸ rfl

/-- Of all problems at bases, those at bases that are said to lead back. -/
theorem filter_cyclic_problems (leadsBack : Extension → Bool) (exts : List Extension) :
    (exts.flatMap (·.problems all leadsBack)).filter (·.code == .cyclicHeritage) =
      (exts.filter leadsBack).map (·.cyclic) := by
  induction exts with
  | nil => rfl
  | cons e rest ih =>
    have hunknown : (e.unknown? all).toList.filter (·.code == .cyclicHeritage) = [] := by
      cases h : e.unknown? all with
      | none => rfl
      | some d => simp [Extension.code_of_unknown h]
    rw [List.flatMap_cons, List.filter_append, ih, Extension.problems, List.filter_append, hunknown,
      List.filter_cons]
    split <;> simp [Extension.cyclic]

/-- Of all problems at bases, those at bases that lead nowhere. -/
theorem filter_unknown_problems (leadsBack : Extension → Bool) (exts : List Extension) :
    (exts.flatMap (·.problems all leadsBack)).filter (·.code == .unknownBase) =
      exts.filterMap (·.unknown? all) := by
  induction exts with
  | nil => rfl
  | cons e rest ih =>
    have hcyclic : (if leadsBack e then [e.cyclic] else []).filter (·.code == .unknownBase) = [] := by
      split <;> simp [Extension.cyclic]
    rw [List.flatMap_cons, List.filter_append, ih, Extension.problems, List.filter_append, hcyclic,
      List.append_nil, List.filterMap_cons]
    cases h : e.unknown? all with
    | none => rfl
    | some d => simp [Extension.code_of_unknown h]

theorem Extension.target?_eq_some {e : Extension} {name : String} :
    e.target? all = some name ↔
      e.base.referenceName? = some name ∧ (structureOf? all name).isSome = true :=
  Option.filter_eq_some_iff

theorem extends_of_target {e : Extension} (hs : structureOf? all s.name = some s) (he : e ∈ extensionsOf s)
    {name : String} (hname : e.target? all = some name) : Extends all s.name name := by
  obtain ⟨hreference, hdeclared⟩ := Extension.target?_eq_some.mp hname
  obtain ⟨base, hbase, rfl⟩ := List.mem_map.mp he
  exact ⟨s, hs, base, hbase, hreference, hdeclared⟩

/-! ## 2. What has been examined -/

/-- The names of the shapes that are remembered, in order. -/
def order (st : HeritageState) : List String := st.resolved.map (·.1)

theorem lookup_eq_none_iff {name : String} : st.resolved.lookup name = none ↔ name ∉ order st := by
  simp only [List.lookup_eq_none_iff, order, List.mem_map, bne_iff_ne, ne_eq, not_exists, not_and]
  exact ⟨fun h entry hentry heq => h entry hentry heq.symm, fun h entry hentry heq => h entry hentry heq.symm⟩

/-- The bases of the remembered shapes have been examined; besides their problems there are some of shapes that
are still under way. -/
structure Examined (all : List ShapeStructure) (pending : List Diagnostic) (st : HeritageState) : Prop where
  nodup : (order st).Nodup
  declared : ∀ name ∈ order st, (structureOf? all name).isSome = true
  problems : st.problems.Perm ((extensions ((order st).filterMap (structureOf? all))).flatMap
    (·.problems all (·.closes all (order st))) ++ pending)
  closing : ∀ name ∈ order st, ∀ s, structureOf? all name = some s → ∀ e ∈ extensionsOf s,
    e.closes all (order st) = true → ∀ target ∈ e.target? all,
      Relation.ReflTransGen (Extends all) target name

variable {pending : List Diagnostic}

theorem examined_start : Examined all [] start :=
  ⟨by simp [order, start], by simp [order, start], by simp [order, start, extensions],
    by simp [order, start]⟩

theorem Examined.addProblem (h : Examined all pending st) (code : Code) (span : Span) (message : String) :
    Examined all (pending ++ [⟨code, span, message⟩]) (addProblem st code span message) where
  nodup := h.nodup
  declared := h.declared
  problems := by
    rw [← List.append_assoc]
    exact h.problems.append_right _
  closing := h.closing

theorem Examined.markUsed (h : Examined all pending st) (name : String) :
    Examined all pending { st with usedAsBase := name :: st.usedAsBase } :=
  ⟨h.nodup, h.declared, h.problems, h.closing⟩

/-- Whether a base of a remembered shape closes a cycle is settled. -/
theorem closes_append {order : List String} {e : Extension} (h : e.shape.name ∈ order) (more : List String) :
    e.closes all (order ++ more) = e.closes all order := by
  unfold Extension.closes
  have hstop : (order.takeWhile (· != e.shape.name)).length ≠ order.length := by
    intro hlength
    have hall := List.takeWhile_eq_self_iff.mp ((List.takeWhile_prefix _).eq_of_length hlength)
    simpa using hall _ h
  rw [List.takeWhile_append, if_neg hstop]

/-- **A shape is remembered**: of its bases those that were under way close cycles. -/
theorem Examined.remember
    (h : Examined all (pending ++ (extensionsOf s).flatMap (·.problems all (·.isUnderWay all free))) st)
    (hs : structureOf? all s.name = some s) (hnew : s.name ∉ order st) (hlead : Leading all free s.name)
    (hclosing : ∀ e ∈ extensionsOf s, e.isUnderWay all free = e.closes all (order st ++ [s.name]))
    (r : Resolved) : Examined all pending { st with resolved := st.resolved ++ [(s.name, r)] } := by
  have horder : order { st with resolved := st.resolved ++ [(s.name, r)] } = order st ++ [s.name] := by
    simp [order]
  have hsettled : ∀ name ∈ order st, ∀ t, structureOf? all name = some t → ∀ e ∈ extensionsOf t,
      e.closes all (order st ++ [s.name]) = e.closes all (order st) := by
    intro name hname t ht e he
    obtain ⟨base, -, rfl⟩ := List.mem_map.mp he
    refine closes_append ?_ _
    rwa [(structureOf?_eq_some ht).2]
  refine ⟨?_, fun name hname => ?_, ?_, fun name hname t ht e he hcloses target htarget => ?_⟩
  · rw [horder, List.nodup_append_comm]
    exact List.nodup_cons.mpr ⟨hnew, h.nodup⟩
  · rw [horder, List.mem_append, List.mem_singleton] at hname
    rcases hname with hname | rfl
    · exact h.declared name hname
    · rw [hs]
      rfl
  · have hbefore : (extensions ((order st).filterMap (structureOf? all))).flatMap
          (·.problems all (·.closes all (order st ++ [s.name]))) =
        (extensions ((order st).filterMap (structureOf? all))).flatMap
          (·.problems all (·.closes all (order st))) := by
      refine List.flatMap_congr fun e he => ?_
      obtain ⟨t, ht, he⟩ := List.mem_flatMap.mp he
      obtain ⟨name, hname, ht⟩ := List.mem_filterMap.mp ht
      rw [Extension.problems, Extension.problems, hsettled name hname t ht e he]
    have hown : (extensionsOf s).flatMap (·.problems all (·.isUnderWay all free)) =
        (extensionsOf s).flatMap (·.problems all (·.closes all (order st ++ [s.name]))) := by
      refine List.flatMap_congr fun e he => ?_
      rw [Extension.problems, Extension.problems, hclosing e he]
    have hproblems := h.problems
    rw [hown] at hproblems
    rw [horder, List.filterMap_append, extensions, List.flatMap_append, List.flatMap_append]
    change st.problems.Perm ((_ ++ _) ++ pending)
    rw [← extensions, hbefore, List.append_assoc]
    refine hproblems.trans (List.Perm.append_left _ ?_)
    simpa [hs] using List.perm_append_comm
  · rw [horder, List.mem_append, List.mem_singleton] at hname
    rw [horder] at hcloses
    rcases hname with hname | rfl
    · rw [hsettled name hname t ht e he] at hcloses
      exact h.closing name hname t ht e he hcloses target htarget
    · cases hs.symm.trans ht
      rw [← hclosing e he, Extension.isUnderWay, htarget, Option.any_some] at hcloses
      exact hlead target (Extension.target?_eq_some.mp htarget).2 (by simpa using hcloses)

/-! ## 3. The walk -/

theorem mem_order_of_some {name : String} {r : Resolved} (h : st.resolved.lookup name = some r) :
    name ∈ order st := by
  by_contra hname
  rw [lookup_eq_none_iff.mpr hname] at h
  cases h

mutual

/-- Resolving a shape examines its bases, unless it is remembered. -/
theorem resolve_examined (free : List String) (s : ShapeStructure) (st : HeritageState)
    (hs : structureOf? all s.name = some s) (hlead : Leading all free s.name) (hfree : free.Nodup)
    (hunder : s.name ∉ free) (horder : order st ⊆ s.name :: free) {pending : List Diagnostic}
    (hst : Examined all pending st) :
    Examined all pending (resolve all free s st).2 ∧ order st ⊆ order (resolve all free s st).2 ∧
      order (resolve all free s st).2 ⊆ s.name :: free ∧ s.name ∈ order (resolve all free s st).2 := by
  rw [resolve]
  cases hlookup : st.resolved.lookup s.name with
  | some r => exact ⟨hst, fun _ h => h, horder, mem_order_of_some hlookup⟩
  | none =>
    have hnew := lookup_eq_none_iff.mp hlookup
    have horder' : order st ⊆ free := fun name hname =>
      (List.mem_cons.mp (horder hname)).resolve_left fun heq => hnew (heq ▸ hname)
    obtain ⟨hexamined, hgrown, hlater, htargets⟩ :=
      resolveBases_examined free s s.bases .empty st hs hlead hfree hunder (fun _ h => h) horder' hst
    have hstill : s.name ∉ order (resolveBases all free s s.bases .empty st).2 :=
      fun hname => hunder (hlater hname)
    have hclosing : ∀ e ∈ extensionsOf s, e.isUnderWay all free =
        e.closes all (order (resolveBases all free s s.bases .empty st).2 ++ [s.name]) := by
      intro e he
      obtain ⟨base, hbase, rfl⟩ := List.mem_map.mp he
      have hfront : (order (resolveBases all free s s.bases .empty st).2 ++ [s.name]).takeWhile
          (· != s.name) = order (resolveBases all free s s.bases .empty st).2 := by
        rw [List.takeWhile_append_of_pos]
        · simp
        · intro name hname
          have hne : name ≠ s.name := fun heq => hstill (heq ▸ hname)
          simpa using hne
      unfold Extension.isUnderWay Extension.closes
      rw [hfront]
      cases htarget : Extension.target? all ⟨s, base⟩ with
      | none => rfl
      | some name =>
        -- a base that is free has been remembered by now, and one under way cannot be
        have hiff : name ∈ free ↔ name ∈ order (resolveBases all free s s.bases .empty st).2 :=
          ⟨htargets base hbase name htarget, fun h => hlater h⟩
        simp [hiff]
    refine ⟨hexamined.remember hs hstill hlead hclosing _, ?_, ?_, ?_⟩
    · exact fun name hname => by simpa [order] using .inl (by simpa [order] using hgrown hname)
    · intro name hname
      simp only [order, List.map_append, List.mem_append, List.map_cons, List.map_nil,
        List.mem_singleton] at hname
      rcases hname with hname | rfl
      · exact List.mem_cons_of_mem _ (hlater hname)
      · exact List.mem_cons_self
    · simp [order]
termination_by (free.length, s.bases.length + 1)

/-- Going through bases reports those that are under way, and remembers those that are not. -/
theorem resolveBases_examined (free : List String) (s : ShapeStructure) (bases : List TypeExpr)
    (r : Resolved) (st : HeritageState) (hs : structureOf? all s.name = some s)
    (hlead : Leading all free s.name) (hfree : free.Nodup) (hunder : s.name ∉ free)
    (hbases : bases ⊆ s.bases) (horder : order st ⊆ free) {pending : List Diagnostic}
    (hst : Examined all pending st) :
    Examined all
        (pending ++ (bases.map (Extension.mk s)).flatMap (·.problems all (·.isUnderWay all free)))
        (resolveBases all free s bases r st).2 ∧
      order st ⊆ order (resolveBases all free s bases r st).2 ∧
      order (resolveBases all free s bases r st).2 ⊆ free ∧
      ∀ base ∈ bases, ∀ name, Extension.target? all ⟨s, base⟩ = some name → name ∈ free →
        name ∈ order (resolveBases all free s bases r st).2 := by
  match bases with
  | [] =>
    rw [resolveBases]
    refine ⟨?_, fun _ h => h, horder, by simp⟩
    simpa using hst
  | base :: rest =>
    have hrest : rest ⊆ s.bases := fun b hb => hbases (List.mem_cons_of_mem _ hb)
    -- what follows a base that is not walked: what is reported of it comes first
    have hskip : ∀ (r' : Resolved) (st' : HeritageState), order st' = order st →
        (∀ name, Extension.target? all ⟨s, base⟩ = some name → name ∉ free) →
        Examined all (pending ++ Extension.problems all ⟨s, base⟩ (·.isUnderWay all free)) st' →
        resolveBases all free s (base :: rest) r st = resolveBases all free s rest r' st' →
        Examined all (pending ++ ((base :: rest).map (Extension.mk s)).flatMap
            (·.problems all (·.isUnderWay all free))) (resolveBases all free s (base :: rest) r st).2 ∧
          order st ⊆ order (resolveBases all free s (base :: rest) r st).2 ∧
          order (resolveBases all free s (base :: rest) r st).2 ⊆ free ∧
          ∀ b ∈ base :: rest, ∀ name, Extension.target? all ⟨s, b⟩ = some name → name ∈ free →
            name ∈ order (resolveBases all free s (base :: rest) r st).2 := by
      intro r' st' horder' hunfree hst' heq
      rw [heq]
      obtain ⟨hexamined, hgrown, hlater, htargets⟩ :=
        resolveBases_examined free s rest r' st' hs hlead hfree hunder hrest (horder' ▸ horder) hst'
      refine ⟨?_, horder' ▸ hgrown, hlater, fun b hb name hname hmem => ?_⟩
      · rwa [List.append_assoc] at hexamined
      · rcases List.mem_cons.mp hb with rfl | hb
        · exact absurd hmem (hunfree name hname)
        · exact htargets b hb name hname hmem
    cases hname : base.referenceName? with
    | none =>
      refine hskip r (Heritage.addProblem st .unknownBase base.span _) rfl ?_ ?_ (resolveBases_unnamed hname)
      · simp [Extension.target?, hname]
      · have hproblems : Extension.problems all ⟨s, base⟩ (·.isUnderWay all free) = [⟨.unknownBase,
            base.span, s!"`{s.name}` extends something that is not a named shape"⟩] := by
          simp [Extension.problems, Extension.unknown?, Extension.isUnderWay, Extension.target?, hname]
        rw [hproblems]
        exact hst.addProblem _ _ _
    | some name =>
      cases hdecl : structureOf? all name with
      | some b =>
        have htarget : Extension.target? all ⟨s, base⟩ = some name :=
          Extension.target?_eq_some.mpr ⟨hname, by simp [hdecl]⟩
        by_cases hmem : name ∈ free
        · obtain ⟨-, rfl⟩ := structureOf?_eq_some hdecl
          have hlength : (free.erase b.name).length < free.length := by
            rw [List.length_erase_of_mem hmem]
            have := List.length_pos_of_mem hmem
            omega
          have hab : Extends all s.name b.name :=
            ⟨s, hs, base, hbases List.mem_cons_self, hname, by simp [hdecl]⟩
          have herase : order st ⊆ b.name :: free.erase b.name := fun other hother => by
            by_cases heq : other = b.name
            · exact heq ▸ List.mem_cons_self
            · exact List.mem_cons_of_mem _ ((List.mem_erase_of_ne heq).mpr (horder hother))
          rw [resolveBases_declared hname hdecl hmem]
          obtain ⟨hexamined, hgrown, hlater, hdone⟩ :=
            resolve_examined (free.erase b.name) b { st with usedAsBase := b.name :: st.usedAsBase }
              hdecl (hlead.erase hab) (hfree.erase _) hfree.not_mem_erase herase
              (hst.markUsed b.name)
          have hlater' : order (resolve all (free.erase b.name) b
              { st with usedAsBase := b.name :: st.usedAsBase }).2 ⊆ free := fun other hother => by
            rcases List.mem_cons.mp (hlater hother) with rfl | hother
            · exact hmem
            · exact List.mem_of_mem_erase hother
          obtain ⟨hexamined', hgrown', hlast, htargets⟩ :=
            resolveBases_examined free s rest _ _ hs hlead hfree hunder hrest hlater' hexamined
          refine ⟨?_, fun other hother => hgrown' (hgrown hother), hlast, fun c hc other hother hfound => ?_⟩
          · have hproblems : Extension.problems all ⟨s, base⟩ (·.isUnderWay all free) = [] := by
              simp [Extension.problems, Extension.unknown?, Extension.isUnderWay, htarget, hname, hdecl, hmem]
            simpa [hproblems] using hexamined'
          · rcases List.mem_cons.mp hc with rfl | hc
            · cases htarget.symm.trans hother
              exact hgrown' hdone
            · exact htargets c hc other hother hfound
        · refine hskip r (Heritage.addProblem st .cyclicHeritage base.span _) rfl ?_ ?_
            (resolveBases_cyclic hname hdecl hmem)
          · intro other hother
            cases htarget.symm.trans hother
            exact hmem
          · have hproblems : Extension.problems all ⟨s, base⟩ (·.isUnderWay all free) = [⟨.cyclicHeritage,
                base.span, s!"cyclic heritage: `{s.name}` extends `{name}`, which leads back to it"⟩] := by
              simp [Extension.problems, Extension.unknown?, Extension.isUnderWay, htarget, hname, hdecl, hmem,
                Extension.cyclic]
            rw [hproblems]
            exact hst.addProblem _ _ _
      | none =>
        have htarget : Extension.target? all ⟨s, base⟩ = none := by
          simp [Extension.target?, hname, hdecl]
        have hunfree : ∀ other, Extension.target? all ⟨s, base⟩ = some other → other ∉ free := by
          simp [htarget]
        cases hkind : ShapeKind.ofMarker? name with
        | some kind =>
          refine hskip (r.addMarker kind) st rfl hunfree ?_ (resolveBases_marker hname hdecl hkind)
          have hproblems : Extension.problems all ⟨s, base⟩ (·.isUnderWay all free) = [] := by
            simp [Extension.problems, Extension.unknown?, Extension.isUnderWay, htarget, hname, hdecl, hkind]
          simpa [hproblems] using hst
        | none =>
          refine hskip r (Heritage.addProblem st .unknownBase base.span _) rfl hunfree ?_
            (resolveBases_unknown hname hdecl hkind)
          have hproblems : Extension.problems all ⟨s, base⟩ (·.isUnderWay all free) = [⟨.unknownBase,
              base.span, s!"`{s.name}` extends unknown shape `{name}`"⟩] := by
            simp [Extension.problems, Extension.unknown?, Extension.isUnderWay, htarget, hname, hdecl, hkind]
          rw [hproblems]
          exact hst.addProblem _ _ _
termination_by (free.length, bases.length)

end

/-! ## 4. All shapes -/

theorem structureOf?_isSome_iff {name : String} :
    (structureOf? all name).isSome = true ↔ name ∈ all.map (·.name) := by
  simp [structureOf?]

/-- One after the other, shapes are examined and remembered. -/
theorem foldl_examined (hn : (all.map (·.name)).Nodup) :
    ∀ (rest : List ShapeStructure) (state : List (ShapeStructure × Resolved) × HeritageState),
      rest ⊆ all → Examined all [] state.2 →
      let last := rest.foldl (fun state s =>
        let (r, st) := resolve all ((all.map (·.name)).erase s.name) s state.2
        (state.1 ++ [(s, r)], st)) state
      Examined all [] last.2 ∧ order state.2 ⊆ order last.2 ∧ ∀ s ∈ rest, s.name ∈ order last.2
  | [], _, _, hst => ⟨hst, fun _ h => h, by simp⟩
  | s :: rest, state, hsub, hst => by
      have hs := structureOf?_of_mem hn (hsub List.mem_cons_self)
      have horder : order state.2 ⊆ s.name :: (all.map (·.name)).erase s.name := by
        intro name hname
        have hdeclared := structureOf?_isSome_iff.mp (hst.declared name hname)
        by_cases heq : name = s.name
        · exact heq ▸ List.mem_cons_self
        · exact List.mem_cons_of_mem _ ((List.mem_erase_of_ne heq).mpr hdeclared)
      obtain ⟨hexamined, hgrown, -, hdone⟩ := resolve_examined ((all.map (·.name)).erase s.name) s state.2
        hs (leading_erase s) (hn.erase _) hn.not_mem_erase horder hst
      obtain ⟨hlast, hgrown', hall⟩ := foldl_examined hn rest
        (state.1 ++ [(s, (resolve all ((all.map (·.name)).erase s.name) s state.2).1)], _)
        (fun _ h => hsub (List.mem_cons_of_mem _ h)) hexamined
      refine ⟨hlast, fun name hname => hgrown' (hgrown hname), fun t ht => ?_⟩
      rcases List.mem_cons.mp ht with rfl | ht
      · exact hgrown' hdone
      · exact hall t ht

/-- Whether a base is reported: when its shape was remembered, the base was not. -/
def closesCycle (all : List ShapeStructure) (e : Extension) : Bool :=
  e.closes all (order (resolveAll all).2)

theorem filterMap_structureOf? (hn : (all.map (·.name)).Nodup) :
    (all.map (·.name)).filterMap (structureOf? all) = all := by
  rw [List.filterMap_map]
  have hself : ∀ s ∈ all, (structureOf? all ∘ fun s => s.name) s = some s :=
    fun s hs => structureOf?_of_mem hn hs
  rw [List.filterMap_congr hself, List.filterMap_some]

variable (hn : (all.map (·.name)).Nodup)

include hn

theorem examined_resolveAll :
    Examined all [] (resolveAll all).2 ∧ (order (resolveAll all).2).Perm (all.map (·.name)) := by
  obtain ⟨hexamined, -, hall⟩ := foldl_examined hn all ([], start) (fun _ h => h) examined_start
  refine ⟨hexamined, (List.perm_ext_iff_of_nodup hexamined.nodup hn).mpr fun name => ⟨fun hname => ?_, ?_⟩⟩
  · exact structureOf?_isSome_iff.mp (hexamined.declared name hname)
  · rintro hname
    obtain ⟨s, hs, rfl⟩ := List.mem_map.mp hname
    exact hall s hs

/-- **In the end every base of every shape has been examined once.** -/
theorem problems_resolveAll :
    (resolveAll all).2.problems.Perm ((extensions all).flatMap (·.problems all (closesCycle all))) := by
  obtain ⟨hexamined, horder⟩ := examined_resolveAll hn
  have hshapes : ((order (resolveAll all).2).filterMap (structureOf? all)).Perm all := by
    have h := horder.filterMap (structureOf? all)
    rwa [filterMap_structureOf? hn] at h
  refine hexamined.problems.trans ?_
  rw [List.append_nil]
  exact (hshapes.flatMap_right _).flatMap_right _

/-- A reported base leads back to its shape. -/
theorem reflTransGen_of_closesCycle {e : Extension} (he : e ∈ extensions all)
    (hcloses : closesCycle all e = true) : ∃ name, e.target? all = some name ∧
      Extends all e.shape.name name ∧ Relation.ReflTransGen (Extends all) name e.shape.name := by
  obtain ⟨hexamined, horder⟩ := examined_resolveAll hn
  obtain ⟨s, hs, he⟩ := List.mem_flatMap.mp he
  obtain ⟨name, hname⟩ : ∃ name, e.target? all = some name := by
    cases htarget : e.target? all with
    | none => simp [closesCycle, Extension.closes, htarget] at hcloses
    | some name => exact ⟨name, rfl⟩
  have hself := structureOf?_of_mem hn hs
  have hshape : e.shape = s := by
    obtain ⟨base, -, rfl⟩ := List.mem_map.mp he
    rfl
  rw [hshape]
  exact ⟨name, hname, extends_of_target hself he hname,
    hexamined.closing s.name (horder.mem_iff.mpr (List.mem_map_of_mem hs)) s hself e he hcloses name hname⟩

omit hn in
theorem idxOf_lt_of_mem_takeWhile {a b : String} : ∀ {l : List String},
    b ∈ l.takeWhile (· != a) → l.idxOf b < l.idxOf a
  | first :: rest, h => by
      rw [List.takeWhile_cons] at h
      split at h
      · rename_i hne
        have hfirst : first ≠ a := by simpa using hne
        rw [List.idxOf_cons_ne _ hfirst]
        by_cases hb : first = b
        · rw [hb, List.idxOf_cons_self]
          exact Nat.succ_pos _
        · rw [List.idxOf_cons_ne _ hb]
          have hrest := (List.mem_cons.mp h).resolve_left (Ne.symm hb)
          exact Nat.succ_lt_succ (idxOf_lt_of_mem_takeWhile hrest)
      · cases h

omit hn in
/-- **Without the reported bases no shape leads back to itself**: every other base is remembered before
its shape. -/
theorem not_remains_cycle (name : String) : ¬ Relation.TransGen (Remains all (closesCycle all)) name name := by
  have hbefore : ∀ a b, Relation.TransGen (Remains all (closesCycle all)) a b →
      (order (resolveAll all).2).idxOf b < (order (resolveAll all).2).idxOf a := by
    have hstep : ∀ {a b}, Remains all (closesCycle all) a b →
        (order (resolveAll all).2).idxOf b < (order (resolveAll all).2).idxOf a := by
      rintro a b ⟨e, -, hkeeps, rfl, htarget⟩
      refine idxOf_lt_of_mem_takeWhile ?_
      simpa [closesCycle, Extension.closes, htarget] using hkeeps
    intro a b hpath
    induction hpath with
    | single h => exact hstep h
    | tail _ h ih => exact (hstep h).trans ih
  exact fun hcycle => (hbefore name name hcycle).false

omit hn in
/-- If nothing is reported, all bases remain. -/
theorem remains_of_extends (hnone : ∀ e ∈ extensions all, closesCycle all e = false) {a b : String}
    (hab : Extends all a b) : Remains all (closesCycle all) a b := by
  obtain ⟨s, hs, base, hbase, hname, hdeclared⟩ := hab
  obtain ⟨hmem, rfl⟩ := structureOf?_eq_some hs
  have he : (⟨s, base⟩ : Extension) ∈ extensions all :=
    List.mem_flatMap.mpr ⟨s, hmem, List.mem_map_of_mem hbase⟩
  exact ⟨_, he, hnone _ he, rfl, Extension.target?_eq_some.mpr ⟨hname, hdeclared⟩⟩

/-- A base is reported exactly if some shape leads back to itself. -/
theorem exists_closesCycle_iff :
    (∃ e ∈ extensions all, closesCycle all e = true) ↔ ∃ name, Relation.TransGen (Extends all) name name := by
  constructor
  · rintro ⟨e, he, hcloses⟩
    obtain ⟨name, -, hextends, hback⟩ := reflTransGen_of_closesCycle hn he hcloses
    exact ⟨e.shape.name, .trans_left (.single hextends) hback⟩
  · rintro ⟨name, hcycle⟩
    by_contra hnone
    have hkeeps : ∀ e ∈ extensions all, closesCycle all e = false := fun e he =>
      Bool.eq_false_iff.mpr fun hcloses => hnone ⟨e, he, hcloses⟩
    exact not_remains_cycle name
      (Relation.TransGen.mono (fun _ _ => remains_of_extends hkeeps) _ _ hcycle)

end ServiceGraph.Heritage

/-! ## 5. Catalogs -/

namespace ServiceGraph

open Syntax

/-- What the problems of a file say about the bases of its shapes, where some of them close cycles. -/
structure Heritage.Examination (all : List ShapeStructure) (found : List Diagnostic)
    (closes : Extension → Bool) : Prop where
  /-- A problem for each base that closes a cycle, and no other. -/
  cyclic : (found.filter (·.code == .cyclicHeritage)).Perm (((extensions all).filter closes).map (·.cyclic))
  /-- A problem for each base that leads nowhere, and no other. -/
  unknown : (found.filter (·.code == .unknownBase)).Perm ((extensions all).filterMap (·.unknown? all))
  /-- A base that closes a cycle is a step of one. -/
  step : ∀ e ∈ extensions all, closes e = true → ∃ name, e.target? all = some name ∧
    Extends all e.shape.name name ∧ Relation.ReflTransGen (Extends all) name e.shape.name
  /-- Without these there are no cycles. -/
  acyclic : ∀ name, ¬ Relation.TransGen (Remains all closes) name name

theorem code_firstDeclarations (decls : List ShapeDecl) :
    ∀ d ∈ (firstDeclarations decls).2, d.code = .duplicateName := by
  suffices hall : ∀ (rest done : List ShapeDecl) (problems : List Diagnostic),
      (∀ d ∈ problems, d.code = .duplicateName) →
      ∀ d ∈ (rest.foldl (fun (state : List ShapeDecl × List Diagnostic) d =>
        if state.1.any (·.name == d.name) then
          (state.1, state.2 ++
            [⟨.duplicateName, d.nameSpan, s!"shape `{d.name}` is declared more than once"⟩])
        else (state.1 ++ [d], state.2)) (done, problems)).2, d.code = .duplicateName from
    hall decls [] [] (by simp)
  intro rest
  induction rest with
  | nil => exact fun _ _ h => h
  | cons d rest ih =>
    intro done problems hproblems
    rw [List.foldl_cons]
    dsimp only
    split
    · refine ih done _ fun p hp => ?_
      rcases List.mem_append.mp hp with hp | hp
      · exact hproblems p hp
      · exact List.mem_singleton.mp hp ▸ rfl
    · exact ih _ problems hproblems

theorem ShapeStructure.code_addMembers : ∀ {members : List TypeExpr} {s : ShapeStructure},
    ∀ d ∈ (s.addMembers members).2, d.code = .unsupportedConstruct
  | [], _, d, hd => by simp [addMembers] at hd
  | member :: rest, s, d, hd => by
      rcases List.mem_append.mp hd with hd | hd
      · cases member <;> simp at hd <;> exact hd ▸ rfl
      · exact code_addMembers d hd

theorem ShapeStructure.code_ofDecl (decl : ShapeDecl) :
    ∀ d ∈ (ofDecl decl).2, d.code = .unsupportedConstruct := by
  unfold ofDecl
  dsimp only
  split
  · simp
  · split
    · simp
    · exact code_addMembers
  · split <;> simp
  · simp

namespace ShapeCatalog

theorem code_classify (s : ShapeStructure) (r : Resolved) :
    ∀ d ∈ (classify s r).2, d.code = .ambiguousCategory := by
  unfold classify
  split <;> simp

theorem filter_of_code_ne {found : List Diagnostic} {code other : Code}
    (hfound : ∀ d ∈ found, d.code = other) (h : other ≠ code) : found.filter (·.code == code) = [] :=
  List.filter_eq_nil_iff.mpr fun d hd => by simpa [hfound d hd] using h

/-- What a file's catalog says about bases is what the walk says. -/
theorem filter_heritage_problems (f : SourceFile) {code : Code} (hduplicate : .duplicateName ≠ code)
    (hmember : .unsupportedConstruct ≠ code) (hkind : .ambiguousCategory ≠ code) :
    (ofFile f).2.filter (·.code == code) =
      (Heritage.resolveAll f.firstStructures).2.problems.filter (·.code == code) := by
  have hstructures : ((firstDeclarations f.shapes).1.map ShapeStructure.ofDecl).map (·.1) =
      f.firstStructures := List.map_map
  have hmembers : ∀ d ∈ (firstDeclarations f.shapes).1.flatMap fun decl => (ShapeStructure.ofDecl decl).2,
      d.code = .unsupportedConstruct := by
    intro d hd
    obtain ⟨decl, -, hd⟩ := List.mem_flatMap.mp hd
    exact ShapeStructure.code_ofDecl decl d hd
  have hkinds : ∀ d ∈ (Heritage.resolveAll f.firstStructures).1.flatMap fun e => (classify e.1 e.2).2,
      d.code = .ambiguousCategory := by
    intro d hd
    obtain ⟨e, -, hd⟩ := List.mem_flatMap.mp hd
    exact code_classify e.1 e.2 d hd
  simp only [ofFile, hstructures, List.filter_append, List.flatMap_map]
  rw [filter_of_code_ne (code_firstDeclarations f.shapes) hduplicate, filter_of_code_ne hmembers hmember,
    filter_of_code_ne hkinds hkind, List.nil_append, List.nil_append, List.append_nil]

/-- **Heritage is examined exactly**: every base of a shape that counts is looked at once, those that are
reported as cyclic are steps of cycles and none is left without them, and there are such if and only if
some shape leads back to itself. -/
theorem heritage_examined (f : SourceFile) :
    Heritage.Examination f.firstStructures (ofFile f).2 (Heritage.closesCycle f.firstStructures) ∧
      ((∃ d ∈ (ofFile f).2, d.code = .cyclicHeritage) ↔
        ∃ name, Relation.TransGen (Heritage.Extends f.firstStructures) name name) := by
  have hn := nodup_names_firstStructures f
  have hproblems := Heritage.problems_resolveAll hn
  have hcyclic : ((ofFile f).2.filter (·.code == .cyclicHeritage)).Perm
      (((Heritage.extensions f.firstStructures).filter (Heritage.closesCycle f.firstStructures)).map
        (·.cyclic)) := by
    rw [filter_heritage_problems f (by decide) (by decide) (by decide)]
    refine (hproblems.filter _).trans (.of_eq ?_)
    exact Heritage.filter_cyclic_problems _ _
  have hunknown : ((ofFile f).2.filter (·.code == .unknownBase)).Perm
      ((Heritage.extensions f.firstStructures).filterMap (·.unknown? f.firstStructures)) := by
    rw [filter_heritage_problems f (by decide) (by decide) (by decide)]
    refine (hproblems.filter _).trans (.of_eq ?_)
    exact Heritage.filter_unknown_problems _ _
  refine ⟨⟨hcyclic, hunknown, fun e he => Heritage.reflTransGen_of_closesCycle hn he,
    Heritage.not_remains_cycle⟩, ?_⟩
  rw [← Heritage.exists_closesCycle_iff hn]
  constructor
  · rintro ⟨d, hd, hcode⟩
    have hmem := hcyclic.mem_iff.mp (List.mem_filter.mpr ⟨hd, by simp [hcode]⟩)
    obtain ⟨e, he, -⟩ := List.mem_map.mp hmem
    exact ⟨e, (List.mem_filter.mp he).1, (List.mem_filter.mp he).2⟩
  · rintro ⟨e, he, hcloses⟩
    have hmem := hcyclic.mem_iff.mpr (List.mem_map_of_mem (List.mem_filter.mpr ⟨he, hcloses⟩))
    exact ⟨e.cyclic, (List.mem_filter.mp hmem).1, rfl⟩

end ShapeCatalog

end ServiceGraph
