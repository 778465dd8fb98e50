import ServiceGraph.Proofs.Descriptor.Inlining
import ServiceGraph.Proofs.Graph.Comments
import ServiceGraph.Proofs.Graph.Confined

/-!
Naming a shape or writing its type (`Analysis.graph_of_inlines`).

Let references to a shape be replaced by its own type, anywhere in the parameters, the result or the arguments
of declarations. If the shape extends nothing and does not lead back to itself, the graph stays.

The fields of the shape are then looked up at places of another shape. Comments of an ignored member of that
shape may stand there as well. Unless there are such comments (`SourceFile.Undisturbed`), the contexts of the
two files are related as `TypeContext.Inlines` has it (`Analysis.context_inlines`). If there are, the graph may
change (`Sample.inlining_disturbed`).
-/

namespace ServiceGraph

open Syntax

/-! ## 1. Files -/

/-- A shape of a file that extends nothing and does not lead back to itself can be written in the place of its
name. -/
structure Syntax.SourceFile.Inlinable (f : SourceFile) (d : ShapeDecl) : Prop where
  shapes : (f.shapes.map (·.name)).Nodup
  heritage : Heritage.Acyclic f.structures
  plain : ∀ e ∈ f.shapes, e.HasPlainFields
  declared : d ∈ f.shapes
  object : d.type.IsObject
  bases : d.heritage = []
  finite : ¬(ShapeCatalog.ofFile f).1.IsRecursive d.name

/-- Where references are replaced, no ignored member is documented. -/
def Syntax.SourceFile.Undisturbed (f f' : SourceFile) : Prop :=
  ∀ e ∈ f.shapes, ∀ e' ∈ f'.shapes, e'.name = e.name → e' ≠ e →
    ∀ x ∈ Annotation.strayDocs e, Annotation.OutsideData x.1

/-- From a place on no ignored member of the shape is documented. -/
def Syntax.SourceFile.ClearFrom (f : SourceFile) (owner path : String) : Prop :=
  ∀ e ∈ f.shapes, e.name = owner → ∀ x ∈ Annotation.strayDocs e, ¬TypePath.Within path x.1

namespace Analysis

open LocatedGraph

variable {f f' : SourceFile} {d : ShapeDecl}

/-- From such a place on fields are read with their own comments. -/
theorem ownComments_context (hplain : ∀ e ∈ f.shapes, e.HasPlainFields) :
    (context f).OwnComments f.ClearFrom where
  item _ path hclear e he hname x hx hwithin :=
    hclear e he hname x hx (.inr ((TypePath.below_item path).of_within hwithin))
  field _ path _ hfield hclear e he hname x hx hwithin :=
    hclear e he hname x hx (.inr ((TypePath.below_field path hfield).of_within hwithin))
  get? _ _ _ hlooks hclear := get?_context_of_looksUp hplain hlooks fun e he hname x hx heq =>
    hclear e he hname x hx (.inl heq)

/-- The entry of a shape without bases has the fields that are written in its type. -/
theorem exists_entry (hn : (f.shapes.map (·.name)).Nodup) (hacyclic : Heritage.Acyclic f.structures)
    (hd : d ∈ f.shapes) (hplain : d.HasPlainFields) (hobject : d.type.IsObject) (hbases : d.heritage = []) :
    ∃ s, (ShapeCatalog.ofFile f).1.get? d.name = some s ∧ s.isObjectLike = true ∧
      s.fields = d.type.objectFields.map fun g => ⟨g, d.name⟩ := by
  obtain ⟨span, fields, skipped, htype⟩ := hobject
  have hnames : (f.structures.map (·.name)).Nodup := by
    rw [SourceFile.names_structures]
    exact hn
  have hs : (ShapeStructure.ofDecl d).1 ∈ f.structures := List.mem_map_of_mem hd
  have hmem : ShapeCatalog.infoOf f.structures (ShapeStructure.ofDecl d).1 ∈
      (ShapeCatalog.ofFile f).1.shapes := by
    rw [ShapeCatalog.shapes_ofFile hn hacyclic]
    exact List.mem_map_of_mem hs
  have hfields : (ShapeStructure.ofDecl d).1.fields = d.type.objectFields := by
    rw [ShapeStructure.ofDecl, htype]
    rfl
  have hnone : (ShapeStructure.ofDecl d).1.bases = [] := by
    simp [ShapeStructure.ofDecl, htype, hbases]
  refine ⟨_, (Keyed.find?_eq_some_iff (ShapeCatalog.nodup_names_ofFile hn hacyclic)).mpr
    ⟨hmem, ShapeStructure.name_ofDecl d⟩, ?_, ?_⟩
  · simp [ShapeCatalog.infoOf, ShapeStructure.ofDecl, htype]
  · rw [← hfields, ← ShapeStructure.name_ofDecl d]
    exact Heritage.fields_resolvedOf hacyclic hnames hs hnone hplain.own

section

variable (hf : f.Inlinable d) (h : f.Inlines d f')

include hf h

theorem nodup_inlined : (f'.shapes.map (·.name)).Nodup := by
  rw [h.names]
  exact hf.shapes

/-- Shapes of one name are one before and after. -/
theorem inlinesData_of_name {e e' : ShapeDecl} (he : e ∈ f.shapes) (he' : e' ∈ f'.shapes)
    (hname : e'.name = e.name) : ShapeDecl.InlinesData d e e' := by
  obtain ⟨e₀, he₀, h₀⟩ := exists_of_forall₂_right h.shapes he'
  obtain rfl : e₀ = e := List.inj_on_of_nodup_map hf.shapes he₀ he (h₀.name.symm.trans hname)
  exact h₀

/-- A shape that changes has no comments of ignored members below the fields that describe data. -/
theorem clearFrom_of_changed (hclear : f.Undisturbed f') {e e' : ShapeDecl} (he : e ∈ f.shapes)
    (he' : e' ∈ f'.shapes) (hname : e'.name = e.name) (hne : e' ≠ e) {path : String}
    (hpath : ¬ Annotation.OutsideData path) :
    f.ClearFrom e.name path ∧ f'.ClearFrom e.name path := by
  have hstray := Annotation.strayDocs_of_inlines (inlinesData_of_name hf h he he' hname)
  have hnot : ∀ x ∈ Annotation.strayDocs e, ¬TypePath.Within path x.1 := by
    intro x hx hwithin
    refine hpath fun name hdata hpath => hclear e he e' he' hname hne x hx name hdata ?_
    rcases hpath with rfl | hbelow
    · exact hwithin
    · exact .inr (hbelow.of_within hwithin)
  constructor
  · intro g hg hgname
    rwa [List.inj_on_of_nodup_map hf.shapes hg he hgname]
  · intro g hg hgname
    rwa [List.inj_on_of_nodup_map (nodup_inlined hf h) hg he' (hgname.trans hname.symm), hstray]

omit hf in
/-- What is found for the shapes of one name. -/
theorem rel_find?_shapes (owner : String) :
    Option.Rel (fun e e' => e ∈ f.shapes ∧ e' ∈ f'.shapes ∧ ShapeDecl.InlinesData d e e')
      (f.shapes.find? (·.name == owner)) (f'.shapes.find? (·.name == owner)) :=
  rel_find? (fun _ _ he => by rw [he.2.2.name]) (forall₂_mem h.shapes)

/-- At a place outside of the fields that describe data the same is found. -/
theorem get?_context_of_outside {path : String} (hpath : Annotation.OutsideData path) (owner : String) :
    (context f').annotations.get? owner path = (context f).annotations.get? owner path := by
  rw [get?_context, get?_context, firstDeclarations_of_nodup hf.shapes,
    firstDeclarations_of_nodup (nodup_inlined hf h)]
  have hrel := rel_find?_shapes h owner
  generalize f.shapes.find? (·.name == owner) = found at hrel
  generalize f'.shapes.find? (·.name == owner) = found' at hrel
  cases hrel with
  | none => rfl
  | some hee' =>
    exact Annotation.ofPlace?_of_inlines (hf.plain d hf.declared).type hpath hee'.2.2
      (hf.plain _ hee'.1).type

/-- At any other place the same is found, or from there on all fields have their own comments. -/
theorem get?_context_eq_or (hclear : f.Undisturbed f') (owner path : String) :
    (context f').annotations.get? owner path = (context f).annotations.get? owner path ∨
      f.ClearFrom owner path ∧ f'.ClearFrom owner path := by
  by_cases hpath : Annotation.OutsideData path
  · exact .inl (get?_context_of_outside hf h hpath owner)
  · rw [get?_context, get?_context, firstDeclarations_of_nodup hf.shapes,
      firstDeclarations_of_nodup (nodup_inlined hf h)]
    cases hfound : f.shapes.find? (·.name == owner) with
    | none =>
      rw [eq_none_of_rel (rel_find?_shapes h owner) hfound]
      exact .inl rfl
    | some e =>
      obtain ⟨e', he', he, hmem', hee'⟩ := exists_of_rel_some (rel_find?_shapes h owner) hfound
      obtain rfl : e.name = owner := by simpa using List.find?_some hfound
      rw [he']
      by_cases heq : e' = e
      · exact .inl (by rw [heq])
      · exact .inr (clearFrom_of_changed hf h hclear he hmem' hee'.name heq hpath)

/-- A field that changes is read with its own comment. -/
theorem eq_or_clearFrom (hclear : f.Undisturbed f') {s s' : ShapeInfo}
    (hs : s ∈ (ShapeCatalog.ofFile f).1.shapes) (hs' : s' ∈ (ShapeCatalog.ofFile f').1.shapes)
    {m m' : MergedField} (hm : m ∈ s.fields) (hm' : m' ∈ s'.fields) (hmm' : m.InlinesData d m') :
    m' = m ∨ f'.ClearFrom m.owner m.name := by
  obtain ⟨e, he, hename, hfield⟩ := ShapeCatalog.exists_owner hs hm
  obtain ⟨e', he', hename', hfield'⟩ := ShapeCatalog.exists_owner hs' hm'
  rw [firstDeclarations_of_nodup hf.shapes] at he
  rw [firstDeclarations_of_nodup (nodup_inlined hf h)] at he'
  rw [hmm'.owner] at hename'
  obtain ⟨field', owner'⟩ := m'
  obtain ⟨field, owner⟩ := m
  obtain ⟨howner, hdata⟩ := hmm'
  dsimp only at howner hdata hename hename' hfield hfield'
  subst howner
  by_cases heq : e' = e
  · -- the shape stays, and has one field of the name
    rw [heq] at hfield'
    obtain rfl : field' = field :=
      List.inj_on_of_nodup_map (hf.plain e he).own hfield' hfield hdata.name
    exact .inl rfl
  · cases hdata with
    | same => exact .inl rfl
    | data hname _ _ =>
      have hinside : ¬ Annotation.OutsideData field.name := fun hout => hout _ hname (.inl rfl)
      have hboth := clearFrom_of_changed hf h hclear he he' (hename'.trans hename.symm) heq hinside
      rw [hename] at hboth
      exact .inr hboth.2

/-- **The contexts of the files read all types alike.** -/
theorem context_inlines (hclear : f.Undisturbed f') :
    (context f).Inlines d f.ClearFrom f'.ClearFrom (context f') where
  object := hf.object
  plainObject := (hf.plain d hf.declared).type.self
  nodup := ShapeCatalog.nodup_names_ofFile hf.shapes hf.heritage
  shapes := ShapeCatalog.inlinesData_shapes hf.shapes hf.heritage hf.object h
  fields s hs := by
    have hn : (f.structures.map (·.name)).Nodup := by
      rw [SourceFile.names_structures]
      exact hf.shapes
    change s ∈ (ShapeCatalog.ofFile f).1.shapes at hs
    rw [ShapeCatalog.shapes_ofFile hf.shapes hf.heritage] at hs
    obtain ⟨t, ht, rfl⟩ := List.mem_map.mp hs
    exact Heritage.nodup_resolvedOf hf.heritage hn ht
  plain t owner path hreads := by
    obtain ⟨_, _, _, hat⟩ := ShapeCatalog.Reads.typeAt hf.plain hreads
    exact hat.plain.self
  comments := ownComments_context hf.plain
  comments' := ownComments_context (h.plain hf.declared hf.plain)
  same := get?_context_eq_or hf h hclear
  declaration := get?_context_of_outside hf h Annotation.outsideData_empty
  changed _ hs _ hs' _ hm _ hm' hmm' := eq_or_clearFrom hf h hclear hs hs' hm hm' hmm'
  self := exists_entry hf.shapes hf.heritage hf.declared (hf.plain d hf.declared) hf.object hf.bases
  selfOwn path e he hname x hx := by
    obtain rfl : e = d := List.inj_on_of_nodup_map hf.shapes he hf.declared hname
    obtain ⟨span, fields, skipped, htype⟩ := hf.object
    simp [htype, Annotation.strayDocs] at hx
  finite := hf.finite

/-! ## 2. The same graph -/

/-- The drafts declare the same. -/
theorem draft_inlined (hclear : f.Undisturbed f') :
    (Draft.contentsOf (context f')).value = (Draft.contentsOf (context f)).value := by
  have hctx := context_inlines hf h hclear
  have hacyclic' := Heritage.acyclic_inlines h.structures hf.heritage
  have hshapes : List.Forall₂ (fun s s' => s.SameContents (context f) (context f') s')
      (context f).catalog.shapes (context f').catalog.shapes :=
    (forall₂_mem hctx.shapes).imp fun s s' hss' => ShapeInfo.sameContents hctx hss'.1 hss'.2.1 hss'.2.2
  rw [Draft.value_contentsOf_context hf.shapes hf.heritage,
    Draft.value_contentsOf_context (nodup_inlined hf h) hacyclic',
    LocatedGraph.ofEntries_eq_of_sameContents hshapes]

/-- **Naming a shape or writing its type is the same.** -/
theorem graph_of_inlines (hclear : f.Undisturbed f') : (ofFile f').graph = (ofFile f).graph := by
  have hscope : Scope.ofFile f' = Scope.ofFile f := by
    unfold Scope.ofFile Scope.defaultMembers
    rw [h.bindings, h.defaultExport?]
  rw [graph, graph, contents_ofFile, contents_ofFile, hscope, draft_inlined hf h hclear]

end

end Analysis

/-! ## A guest that is named, and one that is written out -/

namespace Sample

/-- A shape with one field. -/
def person (own : Field) : ShapeDecl :=
  ⟨"Person", .interface, [], .object .origin [own] [], none, true, .origin, .origin⟩

/-- An operation that invites persons, with an ignored member. -/
def inviting (own ignored params : Field) : SourceFile where
  items := [
    .shape (person own),
    .shape ⟨"Invite", .alias, [], .intersection .origin [
      .reference .origin "Operation" [],
      .object .origin [field "name" (text "invite"), params] [],
      .union .origin [.object .origin [ignored] [], .literal .origin .null]], none, true, .origin, .origin⟩]
  errors := []

theorem inviting_inlines (own ignored : Field) {params params' : Field}
    (h : FieldOf.InlinesData (person own) params params') :
    (inviting own ignored params).Inlines (person own) (inviting own ignored params') :=
  ⟨.cons (.same _) (.cons (.shape (.members rfl rfl
    (.cons (.same _) (.cons (.object (.cons .same (.cons h .nil))) (.cons (.same _) .nil))))) .nil)⟩

/-- No shape of the file extends another one. -/
theorem not_extends_inviting (own ignored params : Field) (a b : String) :
    ¬Heritage.Extends (inviting own ignored params).structures a b := by
  rintro ⟨s, hs, base, hbase, hname, hdeclared⟩
  have hmem := List.mem_of_find?_eq_some hs
  have hbases : ∀ s ∈ (inviting own ignored params).structures, ∀ base ∈ s.bases,
      base.referenceName? = some "Operation" := by
    simp [inviting, person, SourceFile.structures, SourceFile.shapes, ShapeStructure.ofDecl,
      ShapeStructure.addMembers, ShapeStructure.addMember, TypeExpr.referenceName?]
    decide
  rw [hbases s hmem base hbase] at hname
  cases hname
  simp [inviting, person, SourceFile.structures, SourceFile.shapes, Heritage.structureOf?,
    ShapeStructure.name] at hdeclared

/-- A shape with one text leads nowhere. -/
theorem inviting_inlinable (own ignored params : Field)
    (hplain : ∀ e ∈ (inviting own ignored params).shapes, e.HasPlainFields)
    (htype : own.type? = some (.keyword .origin "string")) :
    (inviting own ignored params).Inlinable (person own) := by
  have hn : ((inviting own ignored params).shapes.map (·.name)).Nodup := (by decide : ["Person", "Invite"].Nodup)
  have hacyclic : Heritage.Acyclic (inviting own ignored params).structures := by
    intro name hcycle
    obtain ⟨next, hfirst, -⟩ := Relation.TransGen.head'_iff.mp hcycle
    exact not_extends_inviting own ignored params name next hfirst
  have hd : person own ∈ (inviting own ignored params).shapes := List.mem_cons_self
  refine ⟨hn, hacyclic, hplain, hd, ⟨_, _, _, rfl⟩, rfl, fun hcycle => ?_⟩
  obtain ⟨next, ⟨s, hs, q, owner, path, t, p, u, s', hold, hin, hnames, -⟩, -⟩ :=
    Relation.TransGen.head'_iff.mp hcycle
  obtain ⟨self, hself, hobject, hfields⟩ :=
    Analysis.exists_entry hn hacyclic hd (hplain _ hd) ⟨_, _, _, rfl⟩ rfl
  obtain rfl : self = s := Option.some_inj.mp (hself.symm.trans hs)
  have ht : t = .keyword .origin "string" := by
    cases hold with
    | type hfalse => rw [hobject] at hfalse; cases hfalse
    | field _ hm ht =>
      have hmem := List.mem_reverse.mp (List.mem_of_find?_eq_some hm)
      rw [hfields] at hmem
      obtain rfl := List.mem_singleton.mp hmem
      exact Option.some_inj.mp (ht.symm.trans htype)
  subst ht
  cases hin
  obtain ⟨_, _, _, hreference, -⟩ := hnames.reference
  cases hreference

theorem note_outsideData : Annotation.OutsideData "note" := by
  rintro name hname (rfl | ⟨c, rest, heq, -⟩)
  · exact absurd hname (by decide)
  · simp only [dataFields, List.mem_cons, List.not_mem_nil, or_false] at hname
    rcases hname with rfl | rfl | rfl <;> simp at heq

/-- Parameters that hold the type of a guest three times. -/
def guests (guest : TypeExpr) : Field :=
  field "params" (.object .origin [field "host" guest, field "others" (.array .origin guest),
    field "more" (.reference .origin "Array" [guest])] [])

theorem guests_inlines {d : ShapeDecl} {guest guest' : TypeExpr} (h : guest.Inlines d guest') :
    FieldOf.InlinesData d (guests guest) (guests guest') :=
  have hmore : (TypeExpr.reference .origin "Array" [guest]).Inlines d (.reference .origin "Array" [guest']) :=
    .argument (by decide) h
  .data (List.mem_cons_self : "params" ∈ dataFields) rfl <| .object <|
    .typed rfl h <| .typed rfl (.item h) <| .typed rfl hmore .nil

/-- A reference to a shape. -/
def named (name : String) : TypeExpr := .reference .origin name []

/-- Guests are named or written out. The comment of an ignored note does not matter. -/
theorem guests_same :
    (inviting (bounded "name") (bounded "note") (guests (named "Person"))).Inlinable
      (person (bounded "name")) ∧
    (inviting (bounded "name") (bounded "note") (guests (named "Person"))).Inlines
      (person (bounded "name"))
      (inviting (bounded "name") (bounded "note") (guests (person (bounded "name")).type)) ∧
    (inviting (bounded "name") (bounded "note") (guests (named "Person"))).Undisturbed
      (inviting (bounded "name") (bounded "note") (guests (person (bounded "name")).type)) ∧
    (Analysis.ofFile
      (inviting (bounded "name") (bounded "note") (guests (person (bounded "name")).type))).graph =
      (Analysis.ofFile (inviting (bounded "name") (bounded "note") (guests (named "Person")))).graph := by
  have hinlinable := inviting_inlinable (bounded "name") (bounded "note") (guests (named "Person"))
    (by decide) rfl
  have hperson : (named "Person").Inlines (person (bounded "name")) (person (bounded "name")).type :=
    .here rfl
  have hinlines := inviting_inlines (bounded "name") (bounded "note") (guests_inlines hperson)
  have hclear : (inviting (bounded "name") (bounded "note") (guests (named "Person"))).Undisturbed
      (inviting (bounded "name") (bounded "note") (guests (person (bounded "name")).type)) := by
    intro e he e' _ _ _ x hx
    have hstray : ∀ e ∈ (inviting (bounded "name") (bounded "note") (guests (named "Person"))).shapes,
        ∀ x ∈ Annotation.strayDocs e, x.1 = "note" := by decide
    rw [hstray e he x hx]
    exact note_outsideData
  exact ⟨hinlinable, hinlines, hclear, Analysis.graph_of_inlines hinlinable hinlines hclear⟩

/-- Parameters with a bounded name, where they are ignored. -/
def ignoredParams : Field := field "params" (.object .origin [bounded "name"] [])

/-- Whether the name in the parameters is bounded. -/
def boundsName (g : Graph) : Bool :=
  g.operations.any fun o =>
    match o.params.at? [.field "name"] with
    | some (.leaf _ c) => c.minLength?.isSome
    | _ => false

/-- The comment of an ignored field counts for a field that is written out, and not for one that is named. -/
theorem inlining_disturbed :
    (inviting name ignoredParams (field "params" (named "Person"))).Inlinable (person name) ∧
    (inviting name ignoredParams (field "params" (named "Person"))).Inlines (person name)
      (inviting name ignoredParams (field "params" (person name).type)) ∧
    (Analysis.ofFile (inviting name ignoredParams (field "params" (person name).type))).graph ≠
      (Analysis.ofFile (inviting name ignoredParams (field "params" (named "Person")))).graph := by
  refine ⟨inviting_inlinable name ignoredParams _ (by decide) rfl,
    inviting_inlines name ignoredParams (.data (List.mem_cons_self : "params" ∈ dataFields) rfl (.here rfl)),
    fun heq => ?_⟩
  have hwritten : boundsName (Analysis.ofFile
      (inviting name ignoredParams (field "params" (person name).type))).graph = true := by cbv
  have hnamed : boundsName (Analysis.ofFile
      (inviting name ignoredParams (field "params" (named "Person")))).graph = false := by cbv
  rw [heq, hnamed] at hwritten
  exact absurd hwritten (by decide)

end Sample

end ServiceGraph
