import ServiceGraph.Proofs.Shape.Merging

/-!
Which declaration of a field a shape ends up with.

A shape without a field of some name takes that field from one of its bases: the last one that has it
(`Heritage.TakesFrom`). Going on like that leads to the shape whose declaration counts
(`Heritage.takes_resolvedOf`).

A declaration gives way to one in a shape that leads to its own, as long as that shape lies on the way. It does
not if the shape comes in only through a base that stands in front of the one that the field is taken from. That
is exactly when a shape has a field from another shape although one that leads to that shape declares it again
(`ShapeCatalog.overridden_iff`).
-/

namespace ServiceGraph

open Syntax

namespace Heritage

open Relation

section

variable (all : List ShapeStructure)

/-! ## 1. The way to a declaration -/

/-- A shape of this name declares a field of that name itself. -/
def Declares (x name : String) : Prop :=
  ∃ s, structureOf? all name = some s ∧ x ∈ s.fields.map (·.name)

/-- A shape declares a field itself, or leads to one that does. -/
def Has (x name : String) : Prop := ∃ p, ReflTransGen (Extends all) name p ∧ Declares all x p

/-- A shape does not declare a field itself, and of its bases the last one that has it is `b`. The bases in
`front` stand in front of that one. -/
structure TakesBehind (x a : String) (front : List TypeExpr) (b : String) : Prop where
  undeclared : ¬Declares all x a
  bases : ∃ s, structureOf? all a = some s ∧ ∃ base back, s.bases = front ++ base :: back ∧
    base.referenceName? = some b ∧ ∀ c ∈ back, ∀ n ∈ c.referenceName?, ¬Has all x n
  has : Has all x b

/-- A shape has a field from one of its bases. -/
def TakesFrom (x a b : String) : Prop := ∃ front, TakesBehind all x a front b

/-- A shape has a field from another one, although a shape that it leads to, and that leads to that one, declares
the field as well. -/
def Overridden (name : String) (m : MergedField) : Prop :=
  ∃ p, Declares all m.name p ∧ ReflTransGen (Extends all) name p ∧ TransGen (Extends all) p m.owner

/-- On the way to the declaration that a shape has, a base is passed over that leads to another declaration, in a
shape that leads to the first one. -/
def PassedOver (name : String) (m : MergedField) : Prop :=
  ∃ a front b, ReflTransGen (TakesFrom all m.name) name a ∧ TakesBehind all m.name a front b ∧
    ∃ base ∈ front, ∃ c ∈ base.referenceName?, ∃ p, ReflTransGen (Extends all) c p ∧
      Declares all m.name p ∧ TransGen (Extends all) p m.owner

end

variable {all : List ShapeStructure} {x : String}

theorem Declares.isSome {name : String} (h : Declares all x name) : (structureOf? all name).isSome := by
  obtain ⟨s, hs, -⟩ := h
  rw [hs]
  rfl

/-- What has a field is declared. -/
theorem Has.isSome {name : String} (h : Has all x name) : (structureOf? all name).isSome := by
  obtain ⟨p, hpath, hp⟩ := h
  rcases ReflTransGen.cases_head hpath with rfl | ⟨_, ⟨s, hs, -⟩, -⟩
  · exact hp.isSome
  · rw [hs]
    rfl

theorem TakesBehind.extends {a b : String} {front : List TypeExpr} (h : TakesBehind all x a front b) :
    Extends all a b := by
  obtain ⟨s, hs, base, back, hbases, hname, -⟩ := h.bases
  exact ⟨s, hs, base, by simp [hbases], hname, h.has.isSome⟩

theorem TakesFrom.extends {a b : String} (h : TakesFrom all x a b) : Extends all a b :=
  h.elim fun _ h => h.extends

/-- A base in front of the one that a field is taken from is a base. -/
theorem TakesBehind.extends_of_mem_front {a b c : String} {front : List TypeExpr}
    (h : TakesBehind all x a front b) {base : TypeExpr} (hbase : base ∈ front)
    (hname : c ∈ base.referenceName?) (hc : (structureOf? all c).isSome) : Extends all a c := by
  obtain ⟨s, hs, _, _, hbases, -⟩ := h.bases
  exact ⟨s, hs, base, by simp [hbases, hbase], hname, hc⟩

/-! ## 2. The field that a name stands for -/

/-- The way from a shape to the declaration of a field. -/
def Leads (all : List ShapeStructure) (x name : String) (m : MergedField) : Prop :=
  ReflTransGen (TakesFrom all x) name m.owner ∧ Declares all x m.owner

/-- Of some bases the last one that has a field leads to the declaration that was found. -/
def ComesThrough (all : List ShapeStructure) (x : String) (bases : List TypeExpr)
    (found : Option MergedField) : Prop :=
  ∃ front base back b, bases = front ++ base :: back ∧ base.referenceName? = some b ∧ Has all x b ∧
    (∀ c ∈ back, ∀ n ∈ c.referenceName?, ¬Has all x n) ∧ ∀ m ∈ found, Leads all x b m

theorem ComesThrough.cons {bases : List TypeExpr} {found : Option MergedField}
    (h : ComesThrough all x bases found) (base : TypeExpr) : ComesThrough all x (base :: bases) found := by
  obtain ⟨front, last, back, b, rfl, hrest⟩ := h
  exact ⟨base :: front, last, back, b, rfl, hrest⟩

theorem declares_iff {s : ShapeStructure} (hs : structureOf? all s.name = some s) :
    Declares all x s.name ↔ (lastNamed? s.fields x).isSome = true := by
  have hmem : (lastNamed? s.fields x).isSome = true ↔ x ∈ s.fields.map (·.name) := by
    simp [lastNamed?]
  rw [hmem]
  refine ⟨fun ⟨t, ht, h⟩ => ?_, fun h => ⟨s, hs, h⟩⟩
  cases hs.symm.trans ht
  exact h

/-- A base that is not declared has no field. -/
theorem not_has_cons {base : TypeExpr} {rest : List TypeExpr}
    (hbase : ∀ n ∈ base.referenceName?, structureOf? all n = none)
    (hrest : ∀ c ∈ rest, ∀ n ∈ c.referenceName?, ¬Has all x n) :
    ∀ c ∈ base :: rest, ∀ n ∈ c.referenceName?, ¬Has all x n := by
  intro c hc n hname hhas
  rcases List.mem_cons.mp hc with rfl | hc
  · have hdeclared := hhas.isSome
    rw [hbase n hname] at hdeclared
    cases hdeclared
  · exact hrest c hc n hname hhas

/-- What a base has under a name replaces what was there before. -/
theorem fieldNamed?_inherit (r : Resolved) {s : ShapeStructure} {inherited : Resolved}
    (h : Resolves (structureOf? all) s inherited) (x : String) :
    ShapeKind.fieldNamed? (r.inherit inherited).fields x =
      (ShapeKind.fieldNamed? inherited.fields x).or (ShapeKind.fieldNamed? r.fields x) := by
  have hreverse : inherited.fields.reverse.find? (·.name == x) = ShapeKind.fieldNamed? inherited.fields x :=
    (Keyed.find?_of_perm (List.reverse_perm _).symm h.nodup x).symm
  rw [Resolved.inherit, ShapeKind.fieldNamed?_mergeFields, hreverse]

/-- What a shape has is what it leads to. -/
theorem has_iff (hacyclic : Acyclic all) (hn : (all.map (·.name)).Nodup) {s : ShapeStructure} {r : Resolved}
    (hs : structureOf? all s.name = some s) (hr : Resolves (structureOf? all) s r) :
    Has all x s.name ↔ (ShapeKind.fieldNamed? r.fields x).isSome = true := by
  obtain ⟨hmem, -⟩ := structureOf?_eq_some hs
  obtain rfl := hr.unique (resolves_resolvedOf hacyclic hn hmem)
  have hmerged := merged_resolvedOf hacyclic hn hmem
  rw [fieldNamed?_isSome_iff]
  constructor
  · rintro ⟨p, hpath, t, ht, hx⟩
    obtain ⟨htmem, rfl⟩ := structureOf?_eq_some ht
    obtain ⟨f, hf, rfl⟩ := List.mem_map.mp hx
    exact hmerged.kept t htmem hpath f hf
  · intro hx
    obtain ⟨m, hm, rfl⟩ := List.mem_map.mp hx
    obtain ⟨t, ht, hpath, hlast⟩ := hmerged.origin m hm
    obtain ⟨-, hname⟩ := structureOf?_eq_some ht
    rw [← hname] at ht
    exact ⟨m.owner, hpath, hname ▸ (declares_iff ht).mpr (by rw [hlast]; rfl)⟩

mutual

/-- **The field that a name stands for in a shape is declared where the way from the shape ends.** -/
theorem Resolves.leads (hacyclic : Acyclic all) (hn : (all.map (·.name)).Nodup) :
    ∀ {s : ShapeStructure} {r : Resolved}, Resolves (structureOf? all) s r →
      structureOf? all s.name = some s → ∀ m ∈ ShapeKind.fieldNamed? r.fields x, Leads all x s.name m
  | s, _, @Resolves.of _ _ inherited h, hs, m, hm => by
      rw [Option.mem_def, Resolved.fieldNamed?_addOwn, Option.or_eq_some_iff] at hm
      rcases hm with hm | ⟨hnone, hm⟩
      · obtain ⟨f, hf, rfl⟩ := Option.map_eq_some_iff.mp hm
        exact ⟨.refl, (declares_iff hs).mpr (by rw [hf]; rfl)⟩
      · have hundeclared : ¬Declares all x s.name := by
          rw [declares_iff hs, Option.map_eq_none_iff.mp hnone]
          simp
        rcases h.comesThrough hacyclic hn with
          ⟨front, base, back, b, hbases, hname, hhas, hback, hleads⟩ | ⟨heq, -⟩
        · obtain ⟨hpath, hdeclares⟩ := hleads m hm
          exact ⟨.head ⟨front, hundeclared, ⟨s, hs, base, back, hbases, hname, hback⟩, hhas⟩ hpath,
            hdeclares⟩
        · rw [heq] at hm
          cases hm

/-- A field comes through one of the bases, or it was there before and none of the bases has it. -/
theorem Inherits.comesThrough (hacyclic : Acyclic all) (hn : (all.map (·.name)).Nodup) :
    ∀ {bases : List TypeExpr} {r last : Resolved}, Inherits (structureOf? all) bases r last →
      ComesThrough all x bases (ShapeKind.fieldNamed? last.fields x) ∨
        (ShapeKind.fieldNamed? last.fields x = ShapeKind.fieldNamed? r.fields x ∧
          ∀ c ∈ bases, ∀ n ∈ c.referenceName?, ¬Has all x n)
  | _, _, _, .nil => .inr ⟨rfl, by simp⟩
  | base :: _, _, _, .unnamed hname h =>
      (h.comesThrough hacyclic hn).imp (·.cons base) fun ⟨heq, hrest⟩ => ⟨heq, by simpa [hname] using hrest⟩
  | base :: rest, r, _, @Inherits.declared _ _ _ _ _ inherited _ b hname hb hresolves h => by
      obtain ⟨-, rfl⟩ := structureOf?_eq_some hb
      refine (h.comesThrough hacyclic hn).elim (fun hlater => .inl (hlater.cons base)) fun ⟨heq, hrest⟩ => ?_
      have hfield := fieldNamed?_inherit r hresolves x
      by_cases hhas : Has all x b.name
      · have hsome := (has_iff hacyclic hn hb hresolves).mp hhas
        refine .inl ⟨[], base, rest, b.name, rfl, hname, hhas, hrest, ?_⟩
        rw [heq, hfield, Option.or_of_isSome hsome]
        exact hresolves.leads hacyclic hn hb
      · have hnone := mt (has_iff hacyclic hn hb hresolves).mpr hhas
        rw [Option.not_isSome_iff_eq_none] at hnone
        refine .inr ⟨by rw [heq, hfield, hnone, Option.none_or], fun c hc n hn' => ?_⟩
        rcases List.mem_cons.mp hc with rfl | hc
        · cases hname.symm.trans hn'
          exact hhas
        · exact hrest c hc n hn'
  | base :: _, r, _, .marker hname hb _ h =>
      (h.comesThrough hacyclic hn).imp (·.cons base) fun ⟨heq, hrest⟩ => by
        rw [Resolved.fields_addMarker] at heq
        exact ⟨heq, not_has_cons (by simpa [hname] using hb) hrest⟩
  | base :: _, _, _, .unknown hname hb _ h =>
      (h.comesThrough hacyclic hn).imp (·.cons base) fun ⟨heq, hrest⟩ =>
        ⟨heq, not_has_cons (by simpa [hname] using hb) hrest⟩

end

/-! ## 3. Declarations that are passed over -/

/-- A declaration in front of the one that the way leads to is passed over on the way. -/
theorem passedOver_of_overridden (hacyclic : Acyclic all) {name : String} {m : MergedField}
    (hleads : Leads all m.name name m) : Overridden all name m → PassedOver all name m := by
  rintro ⟨p, hdeclares, hpath, hbelow⟩
  obtain ⟨hway, -⟩ := hleads
  induction hway using ReflTransGen.head_induction_on with
  | refl => exact absurd (TransGen.trans_right hpath hbelow) (hacyclic m.owner)
  | @head a b hstep hway ih =>
    obtain ⟨front, htakes⟩ := hstep
    rcases ReflTransGen.cases_head hpath with rfl | ⟨c, ⟨s, hs, base, hbase, hname, -⟩, hrest⟩
    · exact absurd hdeclares htakes.undeclared
    obtain ⟨s', hs', last, back, hbases, hlast, hback⟩ := htakes.bases
    cases hs.symm.trans hs'
    rw [hbases] at hbase
    rcases List.mem_append.mp hbase with hbase | hbase
    · exact ⟨a, front, b, .refl, htakes, base, hbase, c, hname, p, hrest, hdeclares, hbelow⟩
    rcases List.mem_cons.mp hbase with rfl | hbase
    · cases hname.symm.trans hlast
      obtain ⟨a', front', b', hway', hpassed⟩ := ih hrest
      exact ⟨a', front', b', .head ⟨front, htakes⟩ hway', hpassed⟩
    · exact absurd ⟨p, hrest, hdeclares⟩ (hback base hbase c hname)

theorem overridden_of_passedOver {name : String} {m : MergedField} :
    PassedOver all name m → Overridden all name m := by
  rintro ⟨a, front, b, hway, htakes, base, hbase, c, hname, p, hpath, hdeclares, hbelow⟩
  have hc : (structureOf? all c).isSome := Has.isSome ⟨p, hpath, hdeclares⟩
  have hfirst : ReflTransGen (Extends all) name a := ReflTransGen.mono (fun _ _ => TakesFrom.extends) _ _ hway
  exact ⟨p, hdeclares,
    hfirst.trans (.head (htakes.extends_of_mem_front hbase hname hc) hpath), hbelow⟩

end Heritage

/-! ## 4. Catalogs -/

namespace ShapeCatalog

open Heritage

/-- An entry has what its declaration resolves to. -/
theorem exists_resolves {f : SourceFile} (hacyclic : Acyclic f.firstStructures) {e : ShapeInfo}
    (he : e ∈ (ofFile f).1.shapes) : ∃ s, structureOf? f.firstStructures s.name = some s ∧ s.name = e.name ∧
      ∃ r, Resolves (structureOf? f.firstStructures) s r ∧ e.fields = r.fields := by
  have hn := nodup_names_firstStructures f
  obtain ⟨-, -, -, r, hfields, hr⟩ := exists_resolved he
  rw [resolveAll_fst hacyclic hn] at hr
  obtain ⟨s, hs, heq⟩ := List.mem_map.mp hr
  obtain ⟨rfl, rfl⟩ := Prod.mk.inj heq
  exact ⟨_, structureOf?_of_mem hn hs, ShapeStructure.name_ofDecl e.decl, _,
    resolves_resolvedOf hacyclic hn hs, hfields⟩

/-- **A field of a shape is declared where the way from the shape ends, and that declaration is the most derived
one unless another one is passed over on the way.** -/
theorem overridden_iff {f : SourceFile} (hacyclic : Acyclic f.firstStructures) {e : ShapeInfo}
    (he : e ∈ (ofFile f).1.shapes) {m : MergedField} (hm : m ∈ e.fields) :
    Leads f.firstStructures m.name e.name m ∧
      (Overridden f.firstStructures e.name m ↔ PassedOver f.firstStructures e.name m) := by
  have hn := nodup_names_firstStructures f
  obtain ⟨s, hs, hname, r, hr, hfields⟩ := exists_resolves hacyclic he
  have hleads : Leads f.firstStructures m.name e.name m := by
    rw [← hname]
    exact hr.leads hacyclic hn hs m (fieldNamed?_of_mem hr.nodup (hfields ▸ hm))
  exact ⟨hleads, passedOver_of_overridden hacyclic hleads, overridden_of_passedOver⟩

end ShapeCatalog

/-! ## 5. A declaration that is overridden although it counts -/

namespace Sample

open Heritage

theorem diamond_first : ∃ e ∈ (ShapeCatalog.ofFile diamond).1.shapes, e.name = "Both" ∧
    ∃ m ∈ e.fields, m.name = "first" ∧ m.owner = "Base" := by
  have hentry : ((ShapeCatalog.ofFile diamond).1.get? "Both").map (fun e =>
      e.fields.map fun m => (m.name, m.owner)) =
      some [("first", "Base"), ("second", "Right"), ("own", "Both")] := by cbv
  obtain ⟨e, hfound, heq⟩ := Option.map_eq_some_iff.mp hentry
  obtain ⟨m, hm, hpair⟩ := List.mem_map.mp (heq ▸ List.mem_cons_self : ("first", "Base") ∈ _)
  obtain ⟨hname, howner⟩ := Prod.mk.inj hpair
  exact ⟨e, List.mem_of_find?_eq_some hfound, by simpa using List.find?_some hfound, m, hm, hname, howner⟩

/-- The first base declares the field again, and leads to the shape that it is taken from. -/
theorem overridden_in_diamond {m : MergedField} (hname : m.name = "first") (howner : m.owner = "Base") :
    Overridden diamond.firstStructures "Both" m := by
  have hboth : Extends diamond.firstStructures "Both" "Left" :=
    ⟨_, rfl, _, List.mem_cons_self, rfl, rfl⟩
  have hleft : Extends diamond.firstStructures "Left" "Base" :=
    ⟨_, rfl, _, List.mem_cons_self, rfl, rfl⟩
  refine ⟨"Left", ⟨_, rfl, ?_⟩, .single hboth, howner ▸ .single hleft⟩
  rw [hname]
  decide

theorem diamond_passedOver : Acyclic diamond.firstStructures ∧
    ∃ e ∈ (ShapeCatalog.ofFile diamond).1.shapes, e.name = "Both" ∧ ∃ m ∈ e.fields,
      m.name = "first" ∧ Leads diamond.firstStructures m.name e.name m ∧
        PassedOver diamond.firstStructures e.name m := by
  obtain ⟨e, he, hboth, m, hm, hname, howner⟩ := diamond_first
  obtain ⟨hleads, hiff⟩ := ShapeCatalog.overridden_iff diamond_acyclic he hm
  exact ⟨diamond_acyclic, e, he, hboth, m, hm, hname, hleads,
    hiff.mp (hboth ▸ overridden_in_diamond hname howner)⟩

/-- A shape leads to two declarations, of which one stands in a shape that leads to the other; it has the other. -/
theorem diamond_less_derived : Acyclic diamond.firstStructures ∧
    ∃ e ∈ (ShapeCatalog.ofFile diamond).1.shapes, e.name = "Both" ∧ ∃ m ∈ e.fields,
      m.name = "first" ∧ m.owner = "Base" ∧ Overridden diamond.firstStructures e.name m := by
  obtain ⟨e, he, hboth, m, hm, hname, howner⟩ := diamond_first
  exact ⟨diamond_acyclic, e, he, hboth, m, hm, hname, howner,
    hboth ▸ overridden_in_diamond hname howner⟩

end Sample

end ServiceGraph
