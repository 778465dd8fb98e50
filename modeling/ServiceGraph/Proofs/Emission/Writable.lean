import ServiceGraph.Descriptor.Literal
import ServiceGraph.Proofs.Annotation.Paths
import ServiceGraph.Proofs.Emission.Names
import ServiceGraph.Proofs.Emission.Notes
import ServiceGraph.Proofs.Emission.Stubs
import ServiceGraph.Proofs.Schema.Accounted
import ServiceGraph.Proofs.Text.Quoted

/-!
Schemas that can be written as types and read back: everything in them can be described, lists say nothing about
their items, and texts, tags and comments are such that they are read back as they are. Likewise values, and
graphs of such schemas and values.
-/

namespace ServiceGraph

open Text

namespace Schema

structure FieldWritable (f : SchemaField) : Prop where
  name : IsQuotable f.name
  path : TypePath.IsPlain f.name
  description : ∀ d ∈ f.description?, Annotation.IsDescription d
  default : ∀ d ∈ f.default?, d.Legible

/-- A node that can be written, but for what is below it. -/
structure Writable (n : Schema) : Prop where
  placed : n.Placed
  legible : n.constraints.Legible
  supported : ∀ reason, n ≠ .unsupported reason
  values : ∀ values, n = .enumeration values →
    values ≠ [] ∧ values.Nodup ∧ ∀ value ∈ values, IsQuotable value
  items : ∀ items c, n = .list items c → items.constraints = .none
  names : ∀ fields, n = .object fields → (fields.map (·.name)).Nodup
  fields : ∀ fields, n = .object fields → ∀ f ∈ fields, FieldWritable f

/-- Fields that can be written, with all that is below them. -/
def FieldsWritable (fields : List SchemaField) : Prop :=
  ∀ f ∈ fields, FieldWritable f ∧ f.schema.Everywhere Writable

theorem Everywhere.fieldsWritable {fields : List SchemaField}
    (h : (Schema.object fields).Everywhere Writable) : FieldsWritable fields :=
  fun f hf => ⟨h.self.fields fields rfl f hf, h.field hf⟩

theorem FieldsWritable.head {f : SchemaField} {rest : List SchemaField} (h : FieldsWritable (f :: rest)) :
    FieldWritable f ∧ f.schema.Everywhere Writable :=
  h f List.mem_cons_self

theorem FieldsWritable.tail {f : SchemaField} {rest : List SchemaField} (h : FieldsWritable (f :: rest)) :
    FieldsWritable rest :=
  fun g hg => h g (List.mem_cons_of_mem _ hg)

/-- Nothing in the comment of a field ends it. -/
theorem FieldsWritable.closer {f : SchemaField} {rest : List SchemaField} (h : FieldsWritable (f :: rest)) :
    ∀ l ∈ Emission.noteLines f.description? f.schema f.default? f.isDeprecated,
      Emission.hasCloser l.toList = false := by
  obtain ⟨hf, hs⟩ := h.head
  have htags := Annotation.isTagLine_of_mem_fieldTags f.isDeprecated hs.self.legible
    hf.default
  exact fun l hl => ( Annotation.fits_noteLines (fun d hd => (hf.description d hd).safe) htags l hl).2

end Schema

/-! ## Values -/

namespace Json

open Syntax

mutual

/-- A value that its type spells out: texts can be quoted, numbers are read back from their texts, and members
are sorted by their keys. -/
def Spellable : Json → Prop
  | .null | .bool _ => True
  | .number n => TypeExpr.jsonNumber? n.text = some (.number n)
  | .string s => IsQuotable s
  | .array items => SpellableItems items
  | .object members => ofMembers members = .object members ∧ SpellableMembers members

def SpellableItems : List Json → Prop
  | [] => True
  | x :: rest => Spellable x ∧ SpellableItems rest

def SpellableMembers : List (String × Json) → Prop
  | [] => True
  | (name, x) :: rest => IsQuotable name ∧ Spellable x ∧ SpellableMembers rest

end

end Json

/-! ## Graphs -/

open Naming

/-- The texts of an authentication. -/
def Auth.texts : Auth → List String
  | .apiKey header env? => header :: env?.toList
  | .oauth issuer audience? scopes => issuer :: (audience?.toList ++ scopes)

structure Service.Writable (s : Service) : Prop where
  ascii : IsAscii s.name
  name : IsQuotable s.name
  version : IsQuotable s.version
  description : ∀ d ∈ s.description?, IsQuotable d
  auth : ∀ a ∈ s.auth?, ∀ t ∈ a.texts, IsQuotable t

structure Operation.Writable (o : Operation) : Prop where
  ascii : IsAscii o.name
  name : IsQuotable o.name
  description : ∀ d ∈ o.description?, IsQuotable d
  object : ∃ fields, o.params = .object fields
  params : o.params.Everywhere Schema.Writable
  result : ∀ s ∈ o.result?, s.Everywhere Schema.Writable

structure Prompt.Writable (p : Prompt) : Prop where
  ascii : IsAscii p.name
  name : IsQuotable p.name
  description : ∀ d ∈ p.description?, IsQuotable d
  arguments : (Schema.object p.arguments).Everywhere Schema.Writable
  template : ∀ text, p.content = .template text → IsQuotable text

structure Resource.Writable (r : Resource) : Prop where
  ascii : IsAscii r.name
  name : IsQuotable r.name
  uri : IsQuotable r.uri
  mimeType : IsQuotable r.mimeType
  description : ∀ d ∈ r.description?, IsQuotable d
  data : ∀ value, r.content = .static value → value.Spellable

structure Group.Writable (g : Group) : Prop where
  ascii : IsAscii g.name
  name : IsQuotable g.name
  description : ∀ d ∈ g.description?, IsQuotable d
  operations : ∀ o ∈ g.operations, IsQuotable o

/-- A graph that can be written as declarations and read back. -/
structure Graph.Writable (g : Graph) : Prop where
  service : ∀ s ∈ g.service?, s.Writable
  operations : ∀ o ∈ g.operations, o.Writable
  prompts : ∀ p ∈ g.prompts, p.Writable
  resources : ∀ r ∈ g.resources, r.Writable
  groups : ∀ group ∈ g.groups, group.Writable
  functions : ∀ name ∈ Emission.topLevelNames (Emission.handlers g), Syntax.Token.isName name.toList = true
  methods : ∀ name ∈ Emission.memberNames (Emission.handlers g), IsQuotable name

end ServiceGraph
