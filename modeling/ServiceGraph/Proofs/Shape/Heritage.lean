import Mathlib.Logic.Relation
import Mathlib.Tactic.Common
import ServiceGraph.Proofs.Keyed
import ServiceGraph.Shape.Heritage

/-!
What the walk along the bases computes.

`Heritage.Resolves` says what a shape has without a walk: it depends on nothing but which structure a name
has, and it determines its result (`Resolves.unique`). The walk depends on more: where it entered, what
is remembered, which shapes are under way. If no shape leads back to itself, none of this matters:

* the shapes under way all lead to the one that is being resolved, so a base is never among them;
* what is remembered of a shape is what it has, and its bases have been marked (`Sound`);
* so every shape gets what it has (`resolve_spec`), and in the end exactly the bases of declared shapes are
  marked (`mem_usedAsBase`).
-/

namespace ServiceGraph.Heritage

open Syntax

/-! ## 1. What shapes have -/

section

variable (structureOf : String → Option ShapeStructure)

mutual

/-- A shape has what its bases have, and its own fields. -/
inductive Resolves : ShapeStructure → Resolved → Prop
  | of {s : ShapeStructure} {inherited : Resolved} :
    Inherits s.bases .empty inherited → Resolves s (inherited.addOwn s)

/-- What is there after bases are added to what was there before. -/
inductive Inherits : List TypeExpr → Resolved → Resolved → Prop
  | nil {r : Resolved} : Inherits [] r r
  | unnamed {base : TypeExpr} {rest : List TypeExpr} {r last : Resolved} :
    base.referenceName? = none → Inherits rest r last → Inherits (base :: rest) r last
  | declared {base : TypeExpr} {rest : List TypeExpr} {r last inherited : Resolved} {name : String}
      {s : ShapeStructure} :
    base.referenceName? = some name → structureOf name = some s → Resolves s inherited →
      Inherits rest (r.inherit inherited) last → Inherits (base :: rest) r last
  | marker {base : TypeExpr} {rest : List TypeExpr} {r last : Resolved} {name : String}
      {kind : ShapeKind} :
    base.referenceName? = some name → structureOf name = none →
      ShapeKind.ofMarker? name = some kind → Inherits rest (r.addMarker kind) last →
      Inherits (base :: rest) r last
  | unknown {base : TypeExpr} {rest : List TypeExpr} {r last : Resolved} {name : String} :
    base.referenceName? = some name → structureOf name = none →
      ShapeKind.ofMarker? name = none → Inherits rest r last → Inherits (base :: rest) r last

end

end

variable {structureOf : String → Option ShapeStructure}

mutual

/-- A shape has one thing only. -/
theorem Resolves.unique : ∀ {s : ShapeStructure} {r r' : Resolved},
    Resolves structureOf s r → Resolves structureOf s r' → r = r'
  | _, _, _, .of h, .of h' => by rw [h.unique h']

theorem Inherits.unique : ∀ {bases : List TypeExpr} {r last last' : Resolved},
    Inherits structureOf bases r last → Inherits structureOf bases r last' → last = last'
  | _, _, _, _, .nil, h' => by
      cases h'
      rfl
  | _, _, _, _, .unnamed hname h, h' => by
      cases h' with
      | unnamed _ h' => exact h.unique h'
      | declared hname' => simp [hname] at hname'
      | marker hname' => simp [hname] at hname'
      | unknown hname' => simp [hname] at hname'
  | _, _, _, _, .declared hname hs hr h, h' => by
      cases h' with
      | unnamed hname' => simp [hname] at hname'
      | declared hname' hs' hr' h' =>
        cases hname.symm.trans hname'
        cases hs.symm.trans hs'
        cases hr.unique hr'
        exact h.unique h'
      | marker hname' hs' =>
        cases hname.symm.trans hname'
        simp [hs] at hs'
      | unknown hname' hs' =>
        cases hname.symm.trans hname'
        simp [hs] at hs'
  | _, _, _, _, .marker hname hs hkind h, h' => by
      cases h' with
      | unnamed hname' => simp [hname] at hname'
      | declared hname' hs' =>
        cases hname.symm.trans hname'
        simp [hs] at hs'
      | marker hname' _ hkind' h' =>
        cases hname.symm.trans hname'
        cases hkind.symm.trans hkind'
        exact h.unique h'
      | unknown hname' _ hkind' =>
        cases hname.symm.trans hname'
        simp [hkind] at hkind'
  | _, _, _, _, .unknown hname hs hkind h, h' => by
      cases h' with
      | unnamed hname' => simp [hname] at hname'
      | declared hname' hs' =>
        cases hname.symm.trans hname'
        simp [hs] at hs'
      | marker hname' _ hkind' =>
        cases hname.symm.trans hname'
        simp [hkind] at hkind'
      | unknown _ _ _ h' => exact h.unique h'

end

/-! ## 2. The walk -/

variable {all : List ShapeStructure}

/-- A declared shape has a declared shape among its bases. -/
def Extends (all : List ShapeStructure) (a b : String) : Prop :=
  ∃ s, structureOf? all a = some s ∧ ∃ base ∈ s.bases,
    base.referenceName? = some b ∧ (structureOf? all b).isSome

/-- No shape leads back to itself. -/
def Acyclic (all : List ShapeStructure) : Prop :=
  ∀ name, ¬ Relation.TransGen (Extends all) name name

/-- What holds of all that was found so far. -/
structure Sound (all : List ShapeStructure) (st : HeritageState) : Prop where
  resolved : ∀ name r, st.resolved.lookup name = some r →
    ∃ s, structureOf? all name = some s ∧ Resolves (structureOf? all) s r
  marked : ∀ name, (st.resolved.lookup name).isSome → ∀ b, Extends all name b → b ∈ st.usedAsBase
  used : ∀ b ∈ st.usedAsBase, ∃ a, Extends all a b

/-- Nothing is forgotten. -/
structure Grown (st st' : HeritageState) : Prop where
  resolved : ∀ name, (st.resolved.lookup name).isSome → (st'.resolved.lookup name).isSome
  used : st.usedAsBase ⊆ st'.usedAsBase

theorem Grown.refl (st : HeritageState) : Grown st st := ⟨fun _ h => h, fun _ h => h⟩

theorem Grown.trans {st st' st'' : HeritageState} (h : Grown st st') (h' : Grown st' st'') :
    Grown st st'' :=
  ⟨fun name hname => h'.resolved name (h.resolved name hname), fun _ hb => h'.used (h.used hb)⟩

theorem sound_start : Sound all start := ⟨by simp [start], by simp [start], by simp [start]⟩

theorem Sound.addProblem {st : HeritageState} (h : Sound all st) (code : Code) (span : Span)
    (message : String) : Sound all (addProblem st code span message) :=
  ⟨h.resolved, h.marked, h.used⟩

theorem grown_addProblem (st : HeritageState) (code : Code) (span : Span) (message : String) :
    Grown st (addProblem st code span message) :=
  ⟨fun _ h => h, fun _ h => h⟩

/-- A base is marked. -/
theorem Sound.mark {st : HeritageState} (h : Sound all st) {a b : String} (hab : Extends all a b) :
    Sound all { st with usedAsBase := b :: st.usedAsBase } := by
  refine ⟨h.resolved, fun name hname c hc => List.mem_cons_of_mem _ (h.marked name hname c hc),
    fun c hc => ?_⟩
  rcases List.mem_cons.mp hc with rfl | hc
  · exact ⟨a, hab⟩
  · exact h.used c hc

theorem grown_mark (st : HeritageState) (b : String) :
    Grown st { st with usedAsBase := b :: st.usedAsBase } :=
  ⟨fun _ h => h, List.subset_cons_self _ _⟩

theorem lookup_append_singleton (l : List (String × Resolved)) (name key : String) (r : Resolved) :
    (l ++ [(key, r)]).lookup name = (l.lookup name).or (if name = key then some r else none) := by
  rw [List.lookup_append]
  by_cases h : name = key
  · simp [h]
  · simp [List.lookup_cons, beq_false_of_ne h, h]

/-- A shape is remembered. -/
theorem Sound.remember {st : HeritageState} (h : Sound all st) {s : ShapeStructure} {r : Resolved}
    (hs : structureOf? all s.name = some s) (hr : Resolves (structureOf? all) s r)
    (hmarked : ∀ b, Extends all s.name b → b ∈ st.usedAsBase) :
    Sound all { st with resolved := st.resolved ++ [(s.name, r)] } := by
  refine ⟨fun name found hfound => ?_, fun name hname b hb => ?_, h.used⟩
  · rw [lookup_append_singleton, Option.or_eq_some_iff] at hfound
    rcases hfound with hfound | ⟨-, hfound⟩
    · exact h.resolved name found hfound
    · split at hfound
      · rename_i heq
        cases hfound
        exact ⟨s, heq ▸ hs, hr⟩
      · cases hfound
  · rw [lookup_append_singleton, Option.isSome_or, Bool.or_eq_true] at hname
    rcases hname with hname | hname
    · exact h.marked name hname b hb
    · split at hname
      · rename_i heq
        exact hmarked b (heq ▸ hb)
      · cases hname

theorem grown_remember (st : HeritageState) (name : String) (r : Resolved) :
    Grown st { st with resolved := st.resolved ++ [(name, r)] } := by
  refine ⟨fun other h => ?_, fun _ h => h⟩
  rw [lookup_append_singleton, Option.isSome_or, h]
  rfl

section Equations

variable {free : List String} {s : ShapeStructure} {base : TypeExpr} {rest : List TypeExpr}
  {r : Resolved} {st : HeritageState} {name : String}

theorem resolveBases_unnamed (hname : base.referenceName? = none) :
    resolveBases all free s (base :: rest) r st =
      resolveBases all free s rest r (addProblem st .unknownBase base.span
        s!"`{s.name}` extends something that is not a named shape") := by
  rw [resolveBases]
  simp only [hname]

theorem resolveBases_declared {b : ShapeStructure} (hname : base.referenceName? = some name)
    (hb : structureOf? all name = some b) (hmem : name ∈ free) :
    resolveBases all free s (base :: rest) r st =
      let found := resolve all (free.erase name) b { st with usedAsBase := name :: st.usedAsBase }
      resolveBases all free s rest (r.inherit found.1) found.2 := by
  rw [resolveBases]
  simp only [hname, hb, hmem, dif_pos]

theorem resolveBases_cyclic {b : ShapeStructure} (hname : base.referenceName? = some name)
    (hb : structureOf? all name = some b) (hmem : name ∉ free) :
    resolveBases all free s (base :: rest) r st =
      resolveBases all free s rest r (addProblem st .cyclicHeritage base.span
        s!"cyclic heritage: `{s.name}` extends `{name}`, which leads back to it") := by
  rw [resolveBases]
  simp only [hname, hb, hmem, dif_neg, not_false_eq_true]

theorem resolveBases_marker {kind : ShapeKind} (hname : base.referenceName? = some name)
    (hnone : structureOf? all name = none) (hkind : ShapeKind.ofMarker? name = some kind) :
    resolveBases all free s (base :: rest) r st =
      resolveBases all free s rest (r.addMarker kind) st := by
  rw [resolveBases]
  simp only [hname, hnone, hkind]

theorem resolveBases_unknown (hname : base.referenceName? = some name)
    (hnone : structureOf? all name = none) (hkind : ShapeKind.ofMarker? name = none) :
    resolveBases all free s (base :: rest) r st =
      resolveBases all free s rest r (addProblem st .unknownBase base.span
        s!"`{s.name}` extends unknown shape `{name}`") := by
  rw [resolveBases]
  simp only [hname, hnone, hkind]

end Equations

/-! ## 3. The walk without cycles -/

/-- All declared shapes that are under way lead to a shape. -/
def Leading (all : List ShapeStructure) (free : List String) (name : String) : Prop :=
  ∀ n, (structureOf? all n).isSome → n ∉ free → Relation.ReflTransGen (Extends all) n name

/-- A base is not under way, or else it would lead back to itself. -/
theorem mem_free_of_extends (hacyclic : Acyclic all) {free : List String} {a b : String}
    (hfree : Leading all free a) (hab : Extends all a b) : b ∈ free := by
  by_contra hb
  obtain ⟨s, hs, base, hbase, hname, hdeclared⟩ := id hab
  exact hacyclic b (Relation.TransGen.tail' (hfree b hdeclared hb) hab)

theorem Leading.erase {free : List String} {a b : String} (hfree : Leading all free a)
    (hab : Extends all a b) : Leading all (free.erase b) b := by
  intro n hn hfresh
  by_cases hb : n = b
  · rw [hb]
  · have hmem : n ∉ free := fun hmem => hfresh ((List.mem_erase_of_ne hb).mpr hmem)
    exact (hfree n hn hmem).tail hab

mutual

/-- Resolving a shape gives what it has, and the shape is remembered. -/
theorem resolve_spec (hacyclic : Acyclic all) (free : List String) (s : ShapeStructure)
    (st : HeritageState) (hs : structureOf? all s.name = some s) (hfree : Leading all free s.name)
    (hst : Sound all st) :
    Resolves (structureOf? all) s (resolve all free s st).1 ∧
      Sound all (resolve all free s st).2 ∧ Grown st (resolve all free s st).2 ∧
      ((resolve all free s st).2.resolved.lookup s.name).isSome := by
  rw [resolve]
  cases hlookup : st.resolved.lookup s.name with
  | some r =>
    obtain ⟨s', hs', hr⟩ := hst.resolved s.name r hlookup
    cases hs.symm.trans hs'
    exact ⟨hr, hst, .refl st, by simp [hlookup]⟩
  | none =>
    obtain ⟨hinherits, hsound, hgrown, hmarked⟩ :=
      resolveBases_spec hacyclic free s s.bases .empty st hs hfree (fun _ h => h) hst
    have hr := Resolves.of hinherits
    refine ⟨hr, hsound.remember hs hr ?_, hgrown.trans (grown_remember _ _ _), ?_⟩
    · rintro b ⟨s', hs', base, hbase, hname, hdeclared⟩
      cases hs.symm.trans hs'
      exact hmarked base hbase b hname hdeclared
    · simp [lookup_append_singleton]
termination_by (free.length, s.bases.length + 1)

/-- Resolving bases adds what they have and marks those that are declared. -/
theorem resolveBases_spec (hacyclic : Acyclic all) (free : List String) (s : ShapeStructure)
    (bases : List TypeExpr) (r : Resolved) (st : HeritageState)
    (hs : structureOf? all s.name = some s) (hfree : Leading all free s.name)
    (hbases : bases ⊆ s.bases) (hst : Sound all st) :
    Inherits (structureOf? all) bases r (resolveBases all free s bases r st).1 ∧
      Sound all (resolveBases all free s bases r st).2 ∧
      Grown st (resolveBases all free s bases r st).2 ∧
      ∀ base ∈ bases, ∀ name, base.referenceName? = some name → (structureOf? all name).isSome →
        name ∈ (resolveBases all free s bases r st).2.usedAsBase := by
  match bases with
  | [] =>
    rw [resolveBases]
    exact ⟨.nil, hst, .refl st, by simp⟩
  | base :: rest =>
    have hrest : rest ⊆ s.bases := fun b hb => hbases (List.mem_cons_of_mem _ hb)
    -- what is marked for the rest is all that is to be marked, unless the first base is declared
    have hskip : (∀ name, base.referenceName? = some name → structureOf? all name = none) →
        ∀ {used : List String}, (∀ b ∈ rest, ∀ name, b.referenceName? = some name →
          (structureOf? all name).isSome → name ∈ used) →
        ∀ b ∈ base :: rest, ∀ name, b.referenceName? = some name →
          (structureOf? all name).isSome → name ∈ used := by
      intro hnone used hmarked b hb name hname hdeclared
      rcases List.mem_cons.mp hb with rfl | hb
      · simp [hnone name hname] at hdeclared
      · exact hmarked b hb name hname hdeclared
    cases hname : base.referenceName? with
    | none =>
      rw [resolveBases_unnamed hname]
      obtain ⟨hinherits, hsound, hgrown, hmarked⟩ :=
        resolveBases_spec hacyclic free s rest r _ hs hfree hrest (hst.addProblem _ _ _)
      exact ⟨.unnamed hname hinherits, hsound, (grown_addProblem _ _ _ _).trans hgrown,
        hskip (by simp [hname]) hmarked⟩
    | some name =>
      cases hdecl : structureOf? all name with
      | some b =>
        obtain rfl : b.name = name := by simpa using List.find?_some hdecl
        have hab : Extends all s.name b.name :=
          ⟨s, hs, base, hbases List.mem_cons_self, hname, by simp [hdecl]⟩
        have hmem := mem_free_of_extends hacyclic hfree hab
        have hlength : (free.erase b.name).length < free.length := by
          rw [List.length_erase_of_mem hmem]
          have := List.length_pos_of_mem hmem
          omega
        rw [resolveBases_declared hname hdecl hmem]
        obtain ⟨hresolves, hsound, hgrown, -⟩ :=
          resolve_spec hacyclic (free.erase b.name) b _ hdecl (hfree.erase hab) (hst.mark hab)
        obtain ⟨hinherits, hsound', hgrown', hmarked⟩ :=
          resolveBases_spec hacyclic free s rest _ _ hs hfree hrest hsound
        have hlater := hgrown.trans hgrown'
        refine ⟨.declared hname hdecl hresolves hinherits, hsound',
          (grown_mark st b.name).trans hlater, ?_⟩
        intro c hc other hother hdeclared
        rcases List.mem_cons.mp hc with rfl | hc
        · cases hname.symm.trans hother
          exact hlater.used List.mem_cons_self
        · exact hmarked c hc other hother hdeclared
      | none =>
        have hnone : ∀ other, base.referenceName? = some other → structureOf? all other = none := by
          intro other hother
          cases hname.symm.trans hother
          exact hdecl
        cases hkind : ShapeKind.ofMarker? name with
        | some kind =>
          rw [resolveBases_marker hname hdecl hkind]
          obtain ⟨hinherits, hsound, hgrown, hmarked⟩ :=
            resolveBases_spec hacyclic free s rest (r.addMarker kind) st hs hfree hrest hst
          exact ⟨.marker hname hdecl hkind hinherits, hsound, hgrown, hskip hnone hmarked⟩
        | none =>
          rw [resolveBases_unknown hname hdecl hkind]
          obtain ⟨hinherits, hsound, hgrown, hmarked⟩ :=
            resolveBases_spec hacyclic free s rest r _ hs hfree hrest (hst.addProblem _ _ _)
          exact ⟨.unknown hname hdecl hkind hinherits, hsound,
            (grown_addProblem _ _ _ _).trans hgrown, hskip hnone hmarked⟩
termination_by (free.length, bases.length)

end

/-! ## 4. All shapes -/

/-- What a shape has, found by a walk of its own. -/
def resolvedOf (all : List ShapeStructure) (s : ShapeStructure) : Resolved :=
  (resolve all ((all.map (·.name)).erase s.name) s start).1

theorem structureOf?_of_mem (hn : (all.map (·.name)).Nodup) {s : ShapeStructure} (hs : s ∈ all) :
    structureOf? all s.name = some s :=
  (Keyed.find?_eq_some_iff hn).mpr ⟨hs, rfl⟩

theorem leading_erase (s : ShapeStructure) :
    Leading all ((all.map (·.name)).erase s.name) s.name := by
  intro n hn hfresh
  by_cases heq : n = s.name
  · rw [heq]
  · obtain ⟨t, ht⟩ := Option.isSome_iff_exists.mp hn
    have hname : t.name = n := by simpa using List.find?_some ht
    refine absurd ((List.mem_erase_of_ne heq).mpr ?_) hfresh
    rw [← hname]
    exact List.mem_map_of_mem (List.mem_of_find?_eq_some ht)

theorem resolves_resolvedOf (hacyclic : Acyclic all) (hn : (all.map (·.name)).Nodup)
    {s : ShapeStructure} (hs : s ∈ all) : Resolves (structureOf? all) s (resolvedOf all s) :=
  (resolve_spec hacyclic _ s start (structureOf?_of_mem hn hs) (leading_erase s) sound_start).1

/-- One after the other, shapes get what they have by themselves, whatever was walked before. -/
theorem foldl_resolve (hacyclic : Acyclic all) (hn : (all.map (·.name)).Nodup) :
    ∀ (rest : List ShapeStructure) (done : List (ShapeStructure × Resolved)) (st : HeritageState),
      rest ⊆ all → Sound all st →
      ∃ last, rest.foldl (fun state s =>
          let (r, st) := resolve all ((all.map (·.name)).erase s.name) s state.2
          (state.1 ++ [(s, r)], st)) (done, st) =
        (done ++ rest.map fun s => (s, resolvedOf all s), last) ∧
        Sound all last ∧ Grown st last ∧ ∀ s ∈ rest, (last.resolved.lookup s.name).isSome
  | [], done, st, _, hst => ⟨st, by simp, hst, .refl st, by simp⟩
  | s :: rest, done, st, hsub, hst => by
      have hs := hsub List.mem_cons_self
      obtain ⟨hresolves, hsound, hgrown, hmem⟩ :=
        resolve_spec hacyclic _ s st (structureOf?_of_mem hn hs) (leading_erase s) hst
      obtain ⟨last, heq, hlast, hgrown', hmems⟩ :=
        foldl_resolve hacyclic hn rest (done ++ [(s, resolvedOf all s)]) _
          (fun _ h => hsub (List.mem_cons_of_mem _ h)) hsound
      refine ⟨last, ?_, hlast, hgrown.trans hgrown', fun t ht => ?_⟩
      · rw [List.foldl_cons]
        simp only [hresolves.unique (resolves_resolvedOf hacyclic hn hs)]
        rw [heq, List.map_cons, List.append_assoc]
        rfl
      · rcases List.mem_cons.mp ht with rfl | ht
        · exact hgrown'.resolved _ hmem
        · exact hmems t ht

/-- **Every shape gets what it has by itself.** -/
theorem resolveAll_fst (hacyclic : Acyclic all) (hn : (all.map (·.name)).Nodup) :
    (resolveAll all).1 = all.map fun s => (s, resolvedOf all s) := by
  obtain ⟨last, heq, -⟩ := foldl_resolve hacyclic hn all [] start (fun _ h => h) sound_start
  rw [resolveAll, heq, List.nil_append]

/-- In the end the bases of declared shapes are marked, and nothing else. -/
theorem mem_usedAsBase (hacyclic : Acyclic all) (hn : (all.map (·.name)).Nodup) {b : String} :
    b ∈ (resolveAll all).2.usedAsBase ↔ ∃ a, Extends all a b := by
  obtain ⟨last, heq, hlast, -, hmems⟩ :=
    foldl_resolve hacyclic hn all [] start (fun _ h => h) sound_start
  rw [resolveAll, heq]
  refine ⟨hlast.used b, fun ⟨a, hab⟩ => ?_⟩
  obtain ⟨s, hs, -⟩ := id hab
  have hname : s.name = a := by simpa using List.find?_some hs
  refine hlast.marked a ?_ b hab
  rw [← hname]
  exact hmems s (List.mem_of_find?_eq_some hs)

/-! ## 5. Another order -/

variable {other : List ShapeStructure}

theorem structureOf?_of_perm (hp : all.Perm other) (hn : (all.map (·.name)).Nodup) :
    structureOf? other = structureOf? all :=
  funext fun name => (Keyed.find?_of_perm hp hn name).symm

theorem extends_of_perm (hp : all.Perm other) (hn : (all.map (·.name)).Nodup) :
    Extends other = Extends all := by
  funext a b
  simp only [Extends, structureOf?_of_perm hp hn]

theorem acyclic_of_perm (hp : all.Perm other) (hn : (all.map (·.name)).Nodup)
    (hacyclic : Acyclic all) : Acyclic other := by
  intro name
  rw [extends_of_perm hp hn]
  exact hacyclic name

/-- What a shape has does not depend on the order. -/
theorem resolvedOf_of_perm (hp : all.Perm other) (hn : (all.map (·.name)).Nodup)
    (hacyclic : Acyclic all) {s : ShapeStructure} (hs : s ∈ all) :
    resolvedOf other s = resolvedOf all s := by
  have hother := resolves_resolvedOf (acyclic_of_perm hp hn hacyclic)
    (Keyed.nodup_of_perm hp hn) (hp.mem_iff.mp hs)
  rw [structureOf?_of_perm hp hn] at hother
  exact hother.unique (resolves_resolvedOf hacyclic hn hs)

end ServiceGraph.Heritage
