import ServiceGraph.Proofs.Emission.Restored
import ServiceGraph.Proofs.Emission.Sayable
import ServiceGraph.Proofs.Emission.Spelled
import ServiceGraph.Proofs.Naming.Spellings

/-!
The round trip: the graph of a text is written as a file of declarations, and the graph of that file is the same, but
for its handlers and for the blanks around the lines of its descriptions (`Analysis.round_trip`).

It is so for every text, whether or not errors are reported of it, if its graph is one that declarations can express
(`Graph.Expressible`). They cannot express a type that is not supported, a constraint on the items of a list, a text
with a control that `unquote` does not know, a default that would end its comment, or a field whose name is not a
part of a path. Names of descriptors become names of interfaces, which are of ASCII characters.

That a number or a default has a text from which it is read back is not proved here but asked of those that occur in
the graph (`Graph.ReadBack`).
-/

namespace ServiceGraph

open Syntax Emission Text

/-! ## 1. What is asked of a graph -/

/-- A node that a type can express. -/
structure Schema.Expressible (n : Schema) : Prop where
  supported : ∀ reason, n ≠ .unsupported reason
  items : ∀ items c, n = .list items c → items.constraints = .none
  values : ∀ values, n = .enumeration values → ∀ value ∈ values, IsQuotable value
  names : ∀ fields, n = .object fields → ∀ f ∈ fields, IsQuotable f.name ∧ TypePath.IsPlain f.name
  defaults : ∀ fields, n = .object fields → ∀ f ∈ fields, ∀ d ∈ f.default?, hasCloser d.compact.toList = false

/-- A node whose bounds and defaults are read back from their texts. -/
structure Schema.ReadBack (n : Schema) : Prop where
  minimum : ∀ x ∈ n.constraints.minimum?, Annotation.number? (Decimal.Layout.plain.text x).toList = some x
  maximum : ∀ x ∈ n.constraints.maximum?, Annotation.number? (Decimal.Layout.plain.text x).toList = some x
  defaults : ∀ fields, n = .object fields → ∀ f ∈ fields, ∀ d ∈ f.default?, Json.parse? d.compact = some d

namespace Emission.Descriptor

def name : Descriptor → String
  | .service s => s.name
  | .operation o => o.name
  | .prompt p => p.name
  | .resource r => r.name
  | .group g => g.name

/-- The texts of a descriptor, but for those in its schemas and in its data. -/
def texts : Descriptor → List String
  | .service s => s.name :: s.version :: (s.description?.toList ++ s.auth?.toList.flatMap Auth.texts)
  | .operation o => o.name :: o.description?.toList
  | .prompt p =>
    p.name :: (p.description?.toList ++ match p.content with
      | .template text => [text]
      | .dynamic => [])
  | .resource r => r.uri :: r.name :: r.mimeType :: r.description?.toList
  | .group g => g.name :: (g.description?.toList ++ g.operations)

theorem name_mem_texts (d : Descriptor) : d.name ∈ d.texts := by
  cases d <;> simp [name, texts]

theorem mem_texts_of_description (d : Descriptor) {text : String} (h : text ∈ d.part.1.description?) :
    text ∈ d.texts := by
  have hmem := Option.mem_toList.mpr h
  cases d with
  | service s => exact .tail _ (.tail _ (List.mem_append_left _ hmem))
  | operation o => exact .tail _ hmem
  | prompt p => exact .tail _ (List.mem_append_left _ hmem)
  | resource r => exact .tail _ (.tail _ (.tail _ hmem))
  | group g => exact .tail _ (List.mem_append_left _ hmem)

end Emission.Descriptor

/-- What needs a handler is a descriptor. -/
theorem Graph.exists_descriptor_of_mem_bindings {g : Graph} :
    ∀ b ∈ g.bindings, ∃ d ∈ descriptors g, d.name = b.1 := by
  refine forall_mem_bindings.mpr ⟨fun o ho => ?_, fun p hp _ => ?_, fun r hr _ => ?_⟩
  · exact ⟨.operation o, by simp [descriptors, ho], rfl⟩
  · exact ⟨.prompt p, by simp [descriptors, hp], rfl⟩
  · exact ⟨.resource r, by simp [descriptors, hr], rfl⟩

/-- A graph that declarations can express. -/
structure Graph.Expressible (g : Graph) : Prop where
  nodes : ∀ n, g.HasNode n → n.Expressible
  names : ∀ d ∈ descriptors g, Naming.IsAscii d.name
  texts : ∀ d ∈ descriptors g, ∀ text ∈ d.texts, IsQuotable text
  data : ∀ r ∈ g.resources, ∀ value, r.content = .static value → value.Everywhere Json.Quotable

/-- A graph whose numbers and defaults are read back from their texts. -/
structure Graph.ReadBack (g : Graph) : Prop where
  nodes : ∀ n, g.HasNode n → n.ReadBack
  data : ∀ r ∈ g.resources, ∀ value, r.content = .static value → value.Everywhere Json.NumberReadBack

/-! ## 2. What was read can be written -/

/-- If a name can be quoted, then so can its spellings. -/
theorem Naming.isQuotable_of_mem_variants {name s : String} (hascii : IsAscii name) (h : IsQuotable name)
    (hs : s ∈ variants name) : IsQuotable s := by
  have hwords : ∀ w ∈ words name, IsWord w := isWord_of_mem_splitWords ' ' [] name.toList hascii (by simp [IsWord])
  rcases List.mem_cons.mp (mem_variants.mp hs).1 with rfl | hs
  · exact h
  · exact fun c hc => isQuotable_of_isNamePart (isNamePart_of_mem_conventional hwords s hs c hc)

/-- A fixed value is spelled out by a type, or missing. -/
theorem Resource.spells_of_contentOf {s : ShapeInfo} {isDynamic : Bool} {value : Json}
    (h : (contentOf s isDynamic).value = .static value) : TypeExpr.Spells value := by
  have hdata : ∀ data : Option Json, (∀ v ∈ data, TypeExpr.Spells v) → TypeExpr.Spells (data.getD .null) := by
    intro data hv
    cases data with
    | none => exact fun _ => trivial
    | some v => exact hv v rfl
  have hfield : ∀ f : MergedField, ∀ v ∈ (dataOf s f).value, TypeExpr.Spells v := by
    intro f v hv
    unfold dataOf at hv
    split at hv
    · rename_i found hfound
      cases hv
      obtain ⟨t, -, ht⟩ := Option.bind_eq_some_iff.mp hfound
      exact TypeExpr.spells_of_json? t ht
    · cases hv
  unfold contentOf at h
  cases hf : s.field? "data" with
  | none =>
    cases isDynamic <;> simp only [hf] at h <;> cases h
    exact fun _ => trivial
  | some f =>
    cases isDynamic <;> simp only [hf] at h <;> cases h <;> exact hdata _ (hfield f)

namespace Analysis

variable {text : String}

theorem writable_of_hasNode (h : (ofText text).graph.Expressible) (hread : (ofText text).graph.ReadBack) {n : Schema}
    (hn : (ofText text).graph.HasNode n) : n.Writable := by
  have haccounted := accounted_of_hasNode _ hn
  have hsayable := sayable text n hn
  have hnode := h.nodes n hn
  have hback := hread.nodes n hn
  have hc := hsayable.constraints
  refine ⟨haccounted.placed, ⟨hback.minimum, hback.maximum, hc.minLength, hc.maxLength,
      fun p hp => ⟨hc.texts.pattern p hp, hc.texts.readable p hp⟩, hc.texts.format⟩, hnode.supported,
    fun values heq => ?_, hnode.items, haccounted.names, fun fields heq f hf => ?_⟩
  · obtain ⟨hne, hnodup⟩ := haccounted.values values heq
    exact ⟨hne, hnodup, hnode.values values heq⟩
  · obtain ⟨hname, hplain⟩ := hnode.names fields heq f hf
    exact ⟨hname, hplain, hsayable.descriptions fields heq f hf, fun d hd =>
      ⟨hback.defaults fields heq f hf d hd, hnode.defaults fields heq f hf d hd⟩⟩

theorem spells_data {r : Resource} (hr : r ∈ (ofText text).graph.resources) {value : Json}
    (hvalue : r.content = .static value) : TypeExpr.Spells value := by
  obtain ⟨l, hl, rfl⟩ := exists_draft_resource hr
  obtain ⟨s, -, -, hs, -⟩ := Draft.exists_resource hl
  have hcontent : ((Scope.ofFile (SourceFile.read text)).bindResource l).1.value.content = l.value.content := by
    unfold Scope.bindResource
    split <;> rfl
  rw [Resource.value_ofShape, Option.bind_eq_some_iff] at hs
  obtain ⟨uri, -, hs⟩ := hs
  obtain ⟨name, -, heq⟩ := Option.map_eq_some_iff.mp hs
  rw [hcontent, ← heq] at hvalue
  exact Resource.spells_of_contentOf hvalue

/-- The bindings of a text have no dots in their names. -/
theorem plain_bindings (text : String) : ∀ b ∈ (SourceFile.read text).bindings,
    (Handler.topLevel b.name).defaultMemberName? = none :=
  fun b hb => Handler.defaultMemberName?_of_isName (SourceFile.isName_of_mem_bindings text b hb)

/-- **A graph that was read can be written**, if declarations can express it. -/
theorem writable_graph (h : (ofText text).graph.Expressible) (hread : (ofText text).graph.ReadBack) :
    (ofText text).graph.Writable where
  service s hs := by
    have hmem : Descriptor.service s ∈ descriptors (ofText text).graph := by
      simp [descriptors, Option.mem_def.mp hs]
    have htexts := h.texts _ hmem
    refine ⟨h.names _ hmem, htexts _ (Descriptor.name_mem_texts _), htexts _ (by simp [Descriptor.texts]),
      fun d hd => htexts d (Descriptor.mem_texts_of_description _ hd), fun a ha t ht => htexts t ?_⟩
    simp [Descriptor.texts, Option.mem_def.mp ha, ht]
  operations o ho := by
    have hmem : Descriptor.operation o ∈ descriptors (ofText text).graph := by simp [descriptors, ho]
    have htexts := h.texts _ hmem
    have hroots : ∀ root ∈ o.roots, root.Everywhere Schema.Writable := fun root hroot n hn =>
      writable_of_hasNode h hread ⟨root, List.mem_append_left _ (List.mem_flatMap.mpr ⟨o, ho, hroot⟩), hn⟩
    obtain ⟨l, hl, rfl⟩ := exists_draft_operation ho
    have hsound := Draft.operation_sound (sound_annotations _) hl
    exact ⟨h.names _ hmem, htexts _ (Descriptor.name_mem_texts _),
      fun d hd => htexts d (Descriptor.mem_texts_of_description _ hd), hsound.params, hroots _ List.mem_cons_self,
      fun s hs => hroots s (List.mem_cons_of_mem _ (Option.mem_toList.mpr hs))⟩
  prompts p hp := by
    have hmem : Descriptor.prompt p ∈ descriptors (ofText text).graph := by simp [descriptors, hp]
    have htexts := h.texts _ hmem
    have hroot : Schema.object p.arguments ∈ (ofText text).graph.roots :=
      List.mem_append_right _ (List.mem_flatMap.mpr ⟨p, hp, List.mem_cons_self⟩)
    exact ⟨h.names _ hmem, htexts _ (Descriptor.name_mem_texts _),
      fun d hd => htexts d (Descriptor.mem_texts_of_description _ hd),
      fun n hn => writable_of_hasNode h hread ⟨_, hroot, hn⟩,
      fun content hcontent => htexts content (by simp [Descriptor.texts, hcontent])⟩
  resources r hr := by
    have hmem : Descriptor.resource r ∈ descriptors (ofText text).graph := by simp [descriptors, hr]
    have htexts := h.texts _ hmem
    refine ⟨h.names _ hmem, htexts _ (Descriptor.name_mem_texts _), htexts _ (by simp [Descriptor.texts]),
      htexts _ (by simp [Descriptor.texts]), fun d hd => htexts d (Descriptor.mem_texts_of_description _ hd),
      fun value hvalue => ?_⟩
    exact spells_data hr hvalue fun part hpart =>
      ⟨h.data r hr value hvalue part hpart, hread.data r hr value hvalue part hpart⟩
  groups group hgroup := by
    have hmem : Descriptor.group group ∈ descriptors (ofText text).graph := by simp [descriptors, hgroup]
    have htexts := h.texts _ hmem
    exact ⟨h.names _ hmem, htexts _ (Descriptor.name_mem_texts _),
      fun d hd => htexts d (Descriptor.mem_texts_of_description _ hd),
      fun o ho => htexts o (by simp [Descriptor.texts, ho])⟩
  functions name hname := by
    obtain ⟨b, hb, rfl⟩ := exists_binding_of_mem_topLevelNames hname
    exact SourceFile.isName_of_mem_bindings text b hb
  methods name hname := by
    obtain ⟨_, _, hb, hbound⟩ := exists_resolution_of_mem_handlers (mem_memberNames.mp hname)
    obtain ⟨d, hd, rfl⟩ := Graph.exists_descriptor_of_mem_bindings _ hb
    have hspelled := Scope.localName_mem_variants (plain_bindings text) hbound
    rw [Handler.localName_defaultMember] at hspelled
    exact Naming.isQuotable_of_mem_variants (h.names d hd) (h.texts d hd _ d.name_mem_texts) hspelled

end Analysis

/-! ## 3. An operation that is restored -/

namespace Sample

/-- An operation with a description, a default value, a constraint, an enumeration, a flag and a handler. -/
def tellText : String :=
  "/** Tells. */ interface Tell extends Tool \x7b name: \"tell\"; params: \x7b " ++
    "/** How.\n@default \"hi\" */ text?: string; /** @minLength 1 */ kinds: Array<\"a\" | \"b\"> \x7d; " ++
    "readOnly: true \x7d export function tell() \x7b\x7d"

/-- Whether a file is what that text says, wherever its parts stand. -/
def isTelling : SourceFile → Bool
  | ⟨[.shape ⟨tell, .interface, [.reference _ tool []], .object _
      [⟨nameField, false, false, some (.literal _ (.string name)), none, _⟩,
       ⟨params, false, false, some (.object _
         [⟨text, true, false, some (.keyword _ type), some ⟨textDoc, _⟩, _⟩,
          ⟨kinds, false, false, some (.reference _ list
            [.union _ [.literal _ (.string first), .literal _ (.string second)]]), some ⟨kindsDoc, _⟩, _⟩] []),
        none, _⟩,
       ⟨readOnly, false, false, some (.literal _ (.bool true)), none, _⟩] [], some ⟨doc, _⟩, false, _, _⟩,
      .binding ⟨handler, .function ⟨0, 0, false⟩, true, _⟩], []⟩ =>
    [tell, tool, nameField, name, params, text, type, textDoc, kinds, list, first, second, kindsDoc, readOnly, doc,
      handler] ==
    ["Tell", "Tool", "name", "tell", "params", "text", "string", "/** How.\n@default \"hi\" */", "kinds", "Array", "a",
      "b", "/** @minLength 1 */", "readOnly", "/** Tells. */", "tell"]
  | _ => false

theorem isTelling_tellText : isTelling (SourceFile.read tellText) = true := by decide +kernel

def tellGraph : Graph where
  service? := none
  operations := [⟨"tell", some "Tells.",
    .object [⟨"text", .plain .string, false, some "How.", some (.string "hi"), false⟩,
      ⟨"kinds", .list (.enumeration ["a", "b"]) { Constraints.none with minLength? := some 1 }, true, none, none,
        false⟩],
    none, { OperationFlags.none with readOnly := true }, some ⟨"tell"⟩⟩]
  prompts := []
  resources := []
  groups := []

set_option maxRecDepth 10000 in
theorem graph_of_isTelling {f : SourceFile} (h : isTelling f = true) : (Analysis.ofFile f).graph = tellGraph := by
  unfold isTelling at h
  split at h
  · simp only [beq_iff_eq, List.cons.injEq, and_true] at h
    obtain ⟨rfl, rfl, rfl, rfl, rfl, rfl, rfl, rfl, rfl, rfl, rfl, rfl, rfl, rfl, rfl, rfl⟩ := h
    cbv
  · cases h

theorem graph_tellText : (Analysis.ofText tellText).graph = tellGraph := graph_of_isTelling isTelling_tellText

/-- The nodes of its schema. -/
theorem forall_node_tellGraph {P : Schema → Prop} (hparams : ∀ root ∈ tellGraph.roots, P root)
    (htext : P (.plain .string))
    (hkinds : P (.list (.enumeration ["a", "b"]) { Constraints.none with minLength? := some 1 }))
    (hkind : P (.enumeration ["a", "b"])) : ∀ n, tellGraph.HasNode n → P n := by
  rintro n ⟨root, hroot, hn⟩
  have hroots := hparams root hroot
  obtain rfl := List.mem_singleton.mp hroot
  refine Schema.everywhere_object hroots ?_ n hn
  simp only [List.forall_mem_cons]
  exact ⟨Schema.everywhere_leaf htext, Schema.everywhere_list hkinds (Schema.everywhere_enumeration hkind), by simp⟩

theorem expressible_tellGraph : tellGraph.Expressible where
  nodes := by
    refine forall_node_tellGraph ?_ ⟨nofun, nofun, nofun, nofun, nofun⟩ ⟨nofun, ?_, nofun, nofun, nofun⟩
      ⟨nofun, nofun, ?_, nofun, nofun⟩
    · intro root hroot
      obtain rfl := List.mem_singleton.mp hroot
      refine ⟨nofun, nofun, nofun, ?_, ?_⟩
      · rintro fields ⟨⟩
        decide
      · rintro fields ⟨⟩
        decide +kernel
    · rintro items c ⟨⟩
      rfl
    · rintro values ⟨⟩
      decide
  names := by decide
  texts := by decide
  data := nofun

theorem readBack_tellGraph : tellGraph.ReadBack where
  nodes := by
    refine forall_node_tellGraph ?_ ⟨nofun, nofun, nofun⟩ ⟨nofun, nofun, nofun⟩ ⟨nofun, nofun, nofun⟩
    intro root hroot
    obtain rfl := List.mem_singleton.mp hroot
    refine ⟨nofun, nofun, ?_⟩
    rintro fields ⟨⟩
    have hdefault : Json.parse? (Json.string "hi").compact = some (.string "hi") := by cbv
    simpa using hdefault
  data := nofun

end Sample

end ServiceGraph
