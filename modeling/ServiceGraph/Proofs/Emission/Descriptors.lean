import ServiceGraph.Proofs.Emission.Declarations

/-!
Descriptors are read back from the interfaces that are written for them (`Emission.Descriptor.Reads.operation` and its
like), but for their handlers and for the blanks around the lines of their descriptions. What is left of a descriptor
without those is its essence.
-/

namespace ServiceGraph

open Syntax Written Emission WrittenInterface

/-! ## 1. Essences -/

/-- The lines of a description, trimmed, without empty ones at the ends; a description without other lines is none. -/
def settled (description? : Option String) : Option String := description?.bind Annotation.normalized

def Service.essence (s : Service) : Service := { s with description? := settled s.description? }

def Operation.essence (o : Operation) : Operation :=
  { o with description? := settled o.description?, handler? := none }

def Prompt.essence (p : Prompt) : Prompt := { p with description? := settled p.description?, handler? := none }

def Resource.essence (r : Resource) : Resource := { r with description? := settled r.description?, handler? := none }

def Group.essence (g : Group) : Group := { g with description? := settled g.description? }

/-- What a graph says apart from its handlers and from the form of its descriptions. -/
def Graph.essence (g : Graph) : Graph :=
  ⟨g.service?.map Service.essence, g.operations.map Operation.essence, g.prompts.map Prompt.essence,
   g.resources.map Resource.essence, g.groups.map Group.essence⟩

namespace Emission

/-! ## 2. Descriptors of any kind -/

/-- A descriptor of a graph. -/
inductive Descriptor
  | service (s : Service)
  | operation (o : Operation)
  | prompt (p : Prompt)
  | resource (r : Resource)
  | group (g : Group)

namespace Descriptor

/-- What is written for a descriptor. -/
def part : Descriptor → InterfacePart
  | .service s => (Emission.service s, serviceFields s)
  | .operation o => (Emission.operation o, operationFields o)
  | .prompt p => (Emission.prompt p, promptFields p)
  | .resource r => (Emission.resource r, resourceFields r)
  | .group g => (Emission.group g, groupFields g)

def kind : Descriptor → ShapeKind
  | .service _ => .service
  | .operation _ => .operation
  | .prompt _ => .prompt
  | .resource _ => .resource
  | .group _ => .group

/-- The fields that may be written for a descriptor, apart from its description, in their order. -/
def fieldNames : Descriptor → List String
  | .service _ => ["name", "version", "auth"]
  | .operation _ =>
    ["name", "params", "result", "readOnly", "destructive", "idempotent", "openWorld", "requiresConfirmation"]
  | .prompt _ => ["name", "args", "template", "dynamic"]
  | .resource _ => ["uri", "name", "mimeType", "subscribable", "data", "dynamic"]
  | .group _ => ["name", "tools"]

/-- A descriptor that can be written. -/
def Writable : Descriptor → Prop
  | .service s => s.Writable
  | .operation o => o.Writable
  | .prompt p => p.Writable
  | .resource r => r.Writable
  | .group g => g.Writable

/-- The marker of a descriptor's interface is one of its kind, and the name of no interface. -/
theorem marker (d : Descriptor) : TypeExpr.lastSegment d.part.1.marker = d.part.1.marker ∧
    ShapeKind.ofMarker? d.part.1.marker = some d.kind ∧ d.part.1.marker ∈ reservedNames := by
  cases d <;>
  · simp only [part, kind, Emission.service, Emission.operation, Emission.prompt, Emission.resource, Emission.group]
    decide

end Descriptor

/-- The descriptors of a graph, in the order in which they are written. -/
def descriptors (g : Graph) : List Descriptor :=
  (g.service?.map .service).toList ++ g.operations.map .operation ++ g.prompts.map .prompt
    ++ g.resources.map .resource ++ g.groups.map .group

theorem map_part_descriptors (g : Graph) : (descriptors g).map Descriptor.part = parts g := by
  simp [descriptors, parts, Function.comp_def, Descriptor.part, Option.toList_map]

theorem writable_of_mem_descriptors {g : Graph} (h : g.Writable) : ∀ d ∈ descriptors g, d.Writable := by
  intro d hd
  simp only [descriptors, List.mem_append, Option.mem_toList, Option.map_eq_some_iff, List.mem_map] at hd
  rcases hd with (((⟨s, hs, rfl⟩ | ⟨o, ho, rfl⟩) | ⟨p, hp, rfl⟩) | ⟨r, hr, rfl⟩) | ⟨group, hgroup, rfl⟩
  · exact h.service s hs
  · exact h.operations o ho
  · exact h.prompts p hp
  · exact h.resources r hr
  · exact h.groups group hgroup

/-! ## 3. Names of fields -/

theorem names_writtenFlag (name : String) (isSet : Bool) :
    ((writtenFlag name isSet).map (·.name)).Sublist [name] := by
  cases isSet <;> simp [writtenFlag]

theorem names_writtenObject (name : String) (fields : List SchemaField) :
    ((writtenObject name fields).map (·.name)).Sublist [name] := by
  unfold writtenObject
  split <;> simp

theorem names_flags (flags : List (String × Bool)) :
    ((flags.flatMap fun f => writtenFlag f.1 f.2).map (·.name)).Sublist (flags.map Prod.fst) := by
  induction flags with
  | nil => exact .slnil
  | cons f rest ih =>
    rw [List.flatMap_cons, List.map_append, List.map_cons, ← List.singleton_append]
    exact (names_writtenFlag f.1 f.2).append ih

/-- A descriptor has fields of its kind only, each of them once. -/
theorem Descriptor.names_part (d : Descriptor) : (d.part.2.map (·.name)).Sublist d.fieldNames := by
  cases d with
  | service s =>
    rw [part, serviceFields, List.map_append]
    refine (List.Sublist.refl ["name", "version"]).append ?_
    cases s.auth? <;> simp
  | operation o =>
    rw [part, operationFields, List.map_append, List.map_append, List.map_append]
    have hresult : (((o.result?.map writtenResult).getD []).map (·.name)).Sublist ["result"] := by
      cases o.result? <;> simp [writtenResult]
    exact (((List.Sublist.refl ["name"]).append (names_writtenObject "params" _)).append hresult).append
      (names_flags o.flags.named)
  | prompt p =>
    rw [part, promptFields, List.map_append, List.map_append]
    have hlead := (List.Sublist.refl ["name"]).append (names_writtenObject "args" p.arguments)
    cases p.content with
    | template text => exact hlead.append (show List.Sublist ["template"] ["template", "dynamic"] by simp)
    | dynamic => exact hlead.append (show List.Sublist ["dynamic"] ["template", "dynamic"] by simp)
  | resource r =>
    rw [part, resourceFields, List.map_append, List.map_append]
    have hlead := (List.Sublist.refl ["uri", "name", "mimeType"]).append
      (names_writtenFlag "subscribable" r.subscribable)
    cases r.content with
    | static value => exact hlead.append (show List.Sublist ["data"] ["data", "dynamic"] by simp)
    | dynamic => exact hlead.append (show List.Sublist ["dynamic"] ["data", "dynamic"] by simp)
  | group g => exact List.Sublist.refl ["name", "tools"]

theorem Descriptor.fieldNames_fit (d : Descriptor) : d.fieldNames.Nodup ∧ "" ∉ d.fieldNames ∧
    "description" ∉ d.fieldNames := by
  cases d <;>
  · simp only [fieldNames]
    decide

/-- No field is written twice. -/
theorem Descriptor.nodup_names (d : Descriptor) (name : String) :
    ((writtenInterface name d.part).fields.map (·.name)).Nodup := by
  obtain ⟨hnodup, -, hdescription⟩ := d.fieldNames_fit
  rw [writtenInterface, List.map_append, List.nodup_append]
  refine ⟨?_, hnodup.sublist d.names_part, ?_⟩
  · unfold descriptionField
    cases d.part.1.description?.filter (!isCommentSafe ·) <;> simp
  · intro a ha b hb hab
    have hmem := d.names_part.subset hb
    unfold descriptionField at ha
    cases hd : d.part.1.description?.filter (!isCommentSafe ·) with
    | none => simp [hd] at ha
    | some text =>
      simp only [hd, Option.map_some, Option.getD_some, List.map_cons, List.map_nil, List.mem_singleton] at ha
      obtain rfl : a = "description" := ha
      exact hdescription (hab ▸ hmem)

/-! ## 4. What is written under a name -/

section

variable {description? : Option String} {fields : List SchemaField} {name other : String}

theorem writtenNamed?_description (h : name ≠ "description") :
    writtenNamed? (descriptionField description?) name = none := by
  unfold descriptionField
  cases description?.filter (!isCommentSafe ·) with
  | none => rfl
  | some d => simp [writtenNamed?, writtenText, h.symm]

@[simp] theorem writtenNamed?_object :
    writtenNamed? (writtenObject other fields) name = if other = name then
      (if fields.isEmpty then none else some (schemaField other (.object fields))) else none := by
  unfold writtenObject
  split
  · simp
  · exact writtenNamed?_single

@[simp] theorem writtenNamed?_result {result? : Option Schema} :
    writtenNamed? ((result?.map writtenResult).getD []) name =
      if "result" = name then result?.map (schemaField "result") else none := by
  cases result? with
  | none => simp
  | some s => exact writtenNamed?_single

/-- Next to its description, an interface has the fields of its descriptor. -/
theorem writtenNamed?_interface (p : InterfacePart) (h : name ≠ "description") :
    writtenNamed? (writtenInterface other p).fields name = writtenNamed? p.2 name := by
  rw [writtenInterface, writtenNamed?_append, writtenNamed?_description h]
  rfl

end

/-! ## 5. Reading descriptors -/

/-- A shape stands for a descriptor: it is what a catalog holds for the interface that was written, and its comments
are looked up in it. -/
structure Descriptor.Reads (ctx : TypeContext) (d : Descriptor) (s : ShapeInfo) : Prop where
  declares : ∃ name, (writtenInterface name d.part).Declares s
  own : ctx.ReadsOwn s.decl

namespace Descriptor

variable {ctx : TypeContext} {d : Descriptor} {s : ShapeInfo}

theorem Reads.kind (h : d.Reads ctx s) : s.kind = d.kind := by
  obtain ⟨name, hdeclares⟩ := h.declares
  exact Option.some_inj.mp (hdeclares.kind.symm.trans d.marker.2.1)

theorem Reads.description (h : d.Reads ctx s) :
    settled (s.description? ctx.annotations).value = settled d.part.1.description? := by
  obtain ⟨name, hdeclares⟩ := h.declares
  obtain ⟨-, hempty, hdescription⟩ := d.fieldNames_fit
  have hmem : ∀ v ∈ d.part.2, v.name ∈ d.fieldNames := fun v hv => d.names_part.subset (List.mem_map_of_mem hv)
  exact hdeclares.value_description? h.own (fun v hv heq => hempty (heq ▸ hmem v hv))
    fun v hv heq => hdescription (heq ▸ hmem v hv)

/-- **A service is read back.** -/
theorem Reads.service {service : Service} (h : (Descriptor.service service).Reads ctx s) :
    (Service.ofShape ctx s none).value.map Service.essence = some service.essence := by
  obtain ⟨name, hdeclares⟩ := h.declares
  have hname : (s.requiredText? "name").value = some service.name := hdeclares.value_requiredText? (by
    rw [writtenNamed?_interface _ (by decide), part]
    simp [serviceFields])
  have hversion : (s.requiredText? "version").value = some service.version := hdeclares.value_requiredText? (by
    rw [writtenNamed?_interface _ (by decide), part]
    simp [serviceFields])
  have hwritten : writtenNamed? (writtenInterface name (Descriptor.service service).part).fields "auth" =
      service.auth?.map fun a => ⟨none, "auth", false, writtenAuth a⟩ := by
    rw [writtenNamed?_interface _ (by decide), part]
    cases ha : service.auth? <;> simp [serviceFields, ha]
  have hdescription := h.description
  have hvalue : (Service.ofShape ctx s none).value =
      some ⟨service.name, service.version, (s.description? ctx.annotations).value, service.auth?⟩ := by
    unfold Service.ofShape
    simp only [Noted.value_bind, hname, hversion]
    cases ha : service.auth? with
    | none =>
      rw [ha] at hwritten
      simp only [hdeclares.field?_eq_none hwritten]
      rfl
    | some a =>
      rw [ha] at hwritten
      obtain ⟨m, hm, hreads, -⟩ := hdeclares.exists_field hwritten
      obtain ⟨e, he, htype⟩ := hreads.type
      have hofType : Auth.ofType m.type? = .ok a := by
        rw [MergedField.type?, he]
        exact Auth.ofType_of_written a htype
      simp only [hm, Auth.ofField, hofType]
      rfl
  rw [hvalue, Option.map_some, Service.essence, hdescription]
  rfl

theorem plainField_text {name text : String} (h : TypePath.IsPlain name) : PlainField (writtenText name text) where
  name := h
  type e he := by
    obtain ⟨span, rfl⟩ := he
    exact TypeExpr.everywhere_literal trivial

theorem plainField_schema {name : String} {schema : Schema} (h : TypePath.IsPlain name)
    (hschema : schema.Everywhere Schema.Writable) : PlainField (schemaField name schema) where
  name := h
  type _ he := hasPlainFields_of_written 1 schema hschema he

theorem plainField_of_mem_object {name : String} {fields : List SchemaField} (h : TypePath.IsPlain name)
    (hfields : (Schema.object fields).Everywhere Schema.Writable) : ∀ v ∈ writtenObject name fields, PlainField v := by
  intro v hv
  unfold writtenObject at hv
  split at hv
  · cases hv
  · obtain rfl := List.mem_singleton.mp hv
    exact plainField_schema h hfields

theorem plainField_of_mem_flag {name : String} {isSet : Bool} (h : TypePath.IsPlain name) :
    ∀ v ∈ writtenFlag name isSet, PlainField v := by
  intro v hv
  cases isSet with
  | false => cases hv
  | true =>
    obtain rfl := List.mem_singleton.mp hv
    refine ⟨h, fun e he => ?_⟩
    obtain ⟨span, rfl⟩ := he
    exact TypeExpr.everywhere_literal trivial

theorem plainField_of_mem_description {description? : Option String} :
    ∀ v ∈ descriptionField description?, PlainField v := by
  intro v hv
  unfold descriptionField at hv
  cases hd : description?.filter (!isCommentSafe ·) with
  | none => simp [hd] at hv
  | some d =>
    rw [hd] at hv
    obtain rfl := List.mem_singleton.mp hv
    exact plainField_text (by decide)

/-- **An operation is read back.** -/
theorem Reads.operation {o : Operation} (hwritable : o.Writable) (h : (Descriptor.operation o).Reads ctx s) :
    (Operation.ofShape ctx s).value.map Operation.essence = some o.essence := by
  obtain ⟨name, hdeclares⟩ := h.declares
  obtain ⟨fields, hobject⟩ := hwritable.object
  have hparams : (Schema.object fields).Everywhere Schema.Writable := hobject ▸ hwritable.params
  have hplain : s.decl.type.Everywhere TypeExpr.HasPlainFields := by
    refine hdeclares.plain (fun v hv => ?_) ((Descriptor.operation o).nodup_names name)
    simp only [writtenInterface, part, operationFields, List.mem_append, List.mem_singleton, List.mem_flatMap] at hv
    rcases hv with hv | (((rfl | hv) | hv) | ⟨f, hf, hv⟩)
    · exact plainField_of_mem_description v hv
    · exact plainField_text (by decide)
    · rw [hobject] at hv
      exact plainField_of_mem_object (by decide) hparams v hv
    · cases hresult : o.result? with
      | none => simp [hresult] at hv
      | some schema =>
        rw [hresult] at hv
        obtain rfl := List.mem_singleton.mp hv
        exact plainField_schema (by decide) (hwritable.result schema hresult)
    · refine plainField_of_mem_flag ?_ v hv
      have hnames : ∀ f ∈ o.flags.named, TypePath.IsPlain f.1 := by
        simp only [OperationFlags.named, List.mem_cons, List.not_mem_nil, or_false, forall_eq_or_imp, forall_eq]
        decide
      exact hnames f hf
  have hname : (s.requiredText? "name").value = some o.name := hdeclares.value_requiredText? (by
    rw [writtenNamed?_interface _ (by decide), part]
    simp [operationFields])
  have hdata : (s.objectFields? ctx "params").value.getD [] = fields :=
    hdeclares.value_objectFields? h.own hplain hparams (by
      rw [writtenNamed?_interface _ (by decide), part, operationFields, hobject]
      simp [OperationFlags.named, Schema.fields?])
  have hwritten : writtenNamed? (writtenInterface name (Descriptor.operation o).part).fields "result" =
      o.result?.map (schemaField "result") := by
    rw [writtenNamed?_interface _ (by decide), part, operationFields]
    simp [OperationFlags.named]
  have hresult : ((s.field? "result").map fun f => (s.schemaOf ctx f).value) = o.result? := by
    cases hr : o.result? with
    | none =>
      rw [hr] at hwritten
      rw [hdeclares.field?_eq_none hwritten]
      rfl
    | some schema =>
      rw [hr] at hwritten
      obtain ⟨m, hm, hreads, -⟩ := hdeclares.exists_field hwritten
      rw [hm, Option.map_some,
        hdeclares.value_schemaOf h.own hplain (hwritable.result schema hr) hm hreads]
  have hflag : ∀ flag ∈ o.flags.named, (s.flag flag.1).value = flag.2 := by
    have hlookup : ∀ flag ∈ o.flags.named,
        writtenNamed? (writtenInterface name (Descriptor.operation o).part).fields flag.1 =
          if flag.2 then some ⟨none, flag.1, false, .word "true"⟩ else none := by
      intro flag hmem
      simp only [OperationFlags.named, List.mem_cons, List.not_mem_nil, or_false] at hmem
      rcases hmem with rfl | rfl | rfl | rfl | rfl <;>
      · rw [writtenNamed?_interface _ (by simp), part, operationFields]
        simp [OperationFlags.named]
    exact fun flag hmem => hdeclares.value_flag (hlookup flag hmem)
  have hflags : (OperationFlags.ofShape s).value = o.flags := by
    simp only [OperationFlags.named, List.mem_cons, List.not_mem_nil, or_false, forall_eq_or_imp, forall_eq] at hflag
    obtain ⟨h₁, h₂, h₃, h₄, h₅⟩ := hflag
    simp only [OperationFlags.ofShape, Noted.value_bind, Noted.value_pure, h₁, h₂, h₃, h₄, h₅]
  have hdescription := h.description
  rw [Operation.value_ofShape, hname, hdata, hresult, hflags, Option.map_some, Option.map_some, Operation.essence,
    hdescription, ← hobject]
  rfl

/-- **A prompt is read back.** -/
theorem Reads.prompt {p : Prompt} (hwritable : p.Writable) (h : (Descriptor.prompt p).Reads ctx s) :
    (Prompt.ofShape ctx s).value.map Prompt.essence = some p.essence := by
  obtain ⟨name, hdeclares⟩ := h.declares
  have hplain : s.decl.type.Everywhere TypeExpr.HasPlainFields := by
    refine hdeclares.plain (fun v hv => ?_) ((Descriptor.prompt p).nodup_names name)
    simp only [writtenInterface, part, promptFields, List.mem_append, List.mem_singleton] at hv
    rcases hv with hv | ((rfl | hv) | hv)
    · exact plainField_of_mem_description v hv
    · exact plainField_text (by decide)
    · exact plainField_of_mem_object (by decide) hwritable.arguments v hv
    · cases hcontent : p.content with
      | template text =>
        rw [hcontent] at hv
        obtain rfl := List.mem_singleton.mp hv
        exact plainField_text (by decide)
      | dynamic =>
        rw [hcontent] at hv
        exact plainField_of_mem_flag (by decide) v hv
  have hname : (s.requiredText? "name").value = some p.name := hdeclares.value_requiredText? (by
    rw [writtenNamed?_interface _ (by decide), part]
    simp [promptFields])
  have hdata : (s.objectFields? ctx "args").value.getD [] = p.arguments :=
    hdeclares.value_objectFields? h.own hplain hwritable.arguments (by
      rw [writtenNamed?_interface _ (by decide), part, promptFields]
      cases p.content <;>
        simp)
  have hcontent : (Prompt.contentOf s (s.text? "template").value (s.flag "dynamic").value).value = p.content := by
    cases hc : p.content with
    | template text =>
      have hwritten : writtenNamed? (writtenInterface name (Descriptor.prompt p).part).fields "template" =
          some (writtenText "template" text) := by
        rw [writtenNamed?_interface _ (by decide), part, promptFields, hc]
        simp
      have hflag : (s.flag "dynamic").value = false := hdeclares.value_flag (by
        rw [writtenNamed?_interface _ (by decide), part, promptFields, hc]
        simp)
      obtain ⟨m, hm, -⟩ := hdeclares.exists_field hwritten
      rw [hdeclares.value_text? hwritten, hflag]
      simp only [Prompt.contentOf, hm]
      rfl
    | dynamic =>
      have hwritten : writtenNamed? (writtenInterface name (Descriptor.prompt p).part).fields "template" = none := by
        rw [writtenNamed?_interface _ (by decide), part, promptFields, hc]
        simp
      have hflag : (s.flag "dynamic").value = true := hdeclares.value_flag (by
        rw [writtenNamed?_interface _ (by decide), part, promptFields, hc]
        simp)
      rw [hflag]
      simp only [Prompt.contentOf, hdeclares.field?_eq_none hwritten]
      rfl
  have hdescription := h.description
  rw [Prompt.value_ofShape, hname, hdata, hcontent, Option.map_some, Option.map_some, Prompt.essence, hdescription]
  rfl

/-- **A resource is read back.** -/
theorem Reads.resource {r : Resource} (hwritable : r.Writable) (h : (Descriptor.resource r).Reads ctx s) :
    (Resource.ofShape ctx s).value.map Resource.essence = some r.essence := by
  obtain ⟨name, hdeclares⟩ := h.declares
  have huri : (s.requiredText? "uri").value = some r.uri := hdeclares.value_requiredText? (by
    rw [writtenNamed?_interface _ (by decide), part]
    simp [resourceFields])
  have hname : (s.requiredText? "name").value = some r.name := hdeclares.value_requiredText? (by
    rw [writtenNamed?_interface _ (by decide), part]
    simp [resourceFields])
  have hmime : (s.text? "mimeType").value = some r.mimeType := hdeclares.value_text? (by
    rw [writtenNamed?_interface _ (by decide), part]
    simp [resourceFields])
  have hsubscribable : (s.flag "subscribable").value = r.subscribable := hdeclares.value_flag (by
    rw [writtenNamed?_interface _ (by decide), part, resourceFields]
    cases r.content <;>
      simp)
  have hcontent : (Resource.contentOf s (Resource.saysDynamic s)).value = r.content := by
    cases hc : r.content with
    | static value =>
      have hwritten : writtenNamed? (writtenInterface name (Descriptor.resource r).part).fields "data" =
          some ⟨none, "data", false, writtenLiteral value⟩ := by
        rw [writtenNamed?_interface _ (by decide), part, resourceFields, hc]
        simp
      obtain ⟨m, hm, hreads, -⟩ := hdeclares.exists_field hwritten
      obtain ⟨e, he, htype⟩ := hreads.type
      have hjson : m.type?.bind TypeExpr.json? = some value := by
        rw [MergedField.type?, he, Option.bind_some]
        exact TypeExpr.json?_of_written value (hwritable.data value hc) htype
      have hdata : (Resource.dataOf s m).value = some value := by
        simp only [Resource.dataOf, hjson, Noted.value_pure]
      simp only [Resource.contentOf, hm, Noted.value_bind, hdata]
      cases Resource.saysDynamic s <;> rfl
    | dynamic =>
      have hwritten : writtenNamed? (writtenInterface name (Descriptor.resource r).part).fields "data" = none := by
        rw [writtenNamed?_interface _ (by decide), part, resourceFields, hc]
        simp
      have hflag : (s.flag "dynamic").value = true := hdeclares.value_flag (by
        rw [writtenNamed?_interface _ (by decide), part, resourceFields, hc]
        simp)
      simp only [Resource.contentOf, Resource.saysDynamic, hflag, hdeclares.field?_eq_none hwritten]
      rfl
  have hdescription := h.description
  rw [Resource.value_ofShape, huri, hname, hmime, hsubscribable, hcontent, Option.bind_some, Option.map_some,
    Option.map_some, Resource.essence, hdescription]
  rfl

/-- **A group is read back.** -/
theorem Reads.group {group : Group} (h : (Descriptor.group group).Reads ctx s) :
    (Group.ofShape ctx s).value.map (fun found => found.1.essence) = some group.essence := by
  obtain ⟨name, hdeclares⟩ := h.declares
  have hname : (s.requiredText? "name").value = some group.name := hdeclares.value_requiredText? (by
    rw [writtenNamed?_interface _ (by decide), part]
    simp [groupFields])
  have hwritten : writtenNamed? (writtenInterface name (Descriptor.group group).part).fields "tools" =
      some ⟨none, "tools", false, writtenTexts group.operations⟩ := by
    rw [writtenNamed?_interface _ (by decide), part]
    simp [groupFields]
  have htools : (Group.operationsOf s).value.map (·.1) = group.operations := by
    obtain ⟨m, hm, hreads, -⟩ := hdeclares.exists_field hwritten
    obtain ⟨e, he, htype⟩ := hreads.type
    have htexts := TypeExpr.strings?_of_written htype
    rw [Option.map_eq_some_iff] at htexts
    obtain ⟨found, hfound, hvalues⟩ := htexts
    have hstrings : m.type?.bind TypeExpr.strings? = some found := by
      rw [MergedField.type?, he, Option.bind_some, hfound]
    unfold Group.operationsOf
    simp only [hm, hstrings, Noted.value_pure, hvalues]
  have hdescription := h.description
  rw [Group.value_ofShape, hname, htools, Option.map_some, Option.map_some, Group.essence]
  simp only [hdescription]
  rfl

end Descriptor

end Emission

end ServiceGraph
