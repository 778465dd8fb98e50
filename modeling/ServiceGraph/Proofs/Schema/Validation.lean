import ServiceGraph.Proofs.Graph.Consistent
import ServiceGraph.Proofs.Schema.Texts
import ServiceGraph.Schema.Document

/-!
Defaults and published schemas.

`Json.accepts` says which values are valid against a JSON Schema, keyword by keyword; it knows nothing of the
nodes that schemas are published from. A default is compared with its node directly
(`Schema.objection?`). The two agree on everything that a keyword says about the value itself; what keywords
say about the parts of a value, the items of a list and the fields of an object, is not compared
(`Analysis.unobjected_iff_accepts`). So a valid default is never objected to, and a default for a text, a number
or another value without parts is objected to exactly if it is not valid.
-/

namespace ServiceGraph

open Syntax

/-! ## 1. Validity -/

namespace Json

/-- Whether a value is of one of the types that JSON Schema names. -/
def hasType (type : String) : Json → Bool
  | .null => type == "null"
  | .bool _ => type == "boolean"
  | .number n => type == "number" || type == "integer" && Schema.isWhole n.toFloat
  | .string _ => type == "string"
  | .array _ => type == "array"
  | .object _ => type == "object"

def whole? : Json → Option Int
  | .number (.integer n) => some n
  | _ => none

def items? : Json → Option (List Json)
  | .array items => some items
  | _ => none

def members? : Json → Option (List (String × Json))
  | .object members => some members
  | _ => none

/-- Whether a value is as a keyword says that looks at no schema. A keyword for other types of values says
nothing, and neither does one that is only for readers. -/
def meets (key : String) (arg value : Json) : Bool :=
  match key with
  | "type" => arg.string?.all value.hasType
  | "enum" => arg.items?.all (·.contains value)
  | "required" =>
    arg.items?.all fun names => value.members?.all fun members =>
      names.all fun name => name.string?.all fun name => (members.lookup name).isSome
  | "minimum" => arg.number?.all fun b => value.number?.all fun x => !(x < b)
  | "maximum" => arg.number?.all fun b => value.number?.all fun x => !(b < x)
  | "minLength" => arg.whole?.all fun n => value.string?.all fun s => n ≤ s.length
  | "maxLength" => arg.whole?.all fun n => value.string?.all fun s => s.length ≤ n
  | "minItems" => arg.whole?.all fun n => value.items?.all fun items => n ≤ items.length
  | "maxItems" => arg.whole?.all fun n => value.items?.all fun items => items.length ≤ n
  | "pattern" => arg.string?.all fun p => value.string?.all (Pattern.occursIn p)
  | _ => true

mutual

/-- Whether a value is valid against a schema. -/
def accepts : Json → Json → Bool
  | .bool b, _ => b
  | .object keywords, value => acceptsAll keywords value
  | _, _ => false
termination_by structural schema => schema

def acceptsAll : List (String × Json) → Json → Bool
  | [], _ => true
  | keyword :: rest, value => acceptsKeyword keyword value && acceptsAll rest value
termination_by structural schema => schema

def acceptsKeyword : String × Json → Json → Bool
  | (key, arg), value =>
    if key = "items" then value.items?.all fun items => items.all fun x => accepts arg x
    else if key = "properties" then acceptsProperties arg value
    else meets key arg value
termination_by structural schema => schema

def acceptsProperties : Json → Json → Bool
  | .object properties, value => acceptsEach properties value
  | _, _ => true
termination_by structural schema => schema

def acceptsEach : List (String × Json) → Json → Bool
  | [], _ => true
  | property :: rest, value => acceptsProperty property value && acceptsEach rest value
termination_by structural schema => schema

def acceptsProperty : String × Json → Json → Bool
  | (name, schema), value =>
    match value.get? name with
    | some x => accepts schema x
    | none => true
termination_by structural schema => schema

end

/-- An object without the members of some names. -/
def without (names : List String) : Json → Json
  | .object members => .object (members.filter fun m => !names.contains m.1)
  | other => other

/-! ## 2. Objects of keywords -/

theorem acceptsAll_eq_all (value : Json) : ∀ keywords : List (String × Json),
    acceptsAll keywords value = keywords.all (acceptsKeyword · value)
  | [] => rfl
  | keyword :: rest => by rw [acceptsAll, acceptsAll_eq_all value rest, List.all_cons]

theorem perm_insertMember (key : String) (arg : Json) : ∀ {members : List (String × Json)},
    key ∉ members.map (·.1) → (insertMember key arg members).Perm ((key, arg) :: members)
  | [], _ => .refl _
  | (k, v) :: rest, h => by
      rw [List.map_cons, List.mem_cons, not_or] at h
      rw [insertMember]
      split
      · exact .refl _
      · rw [if_neg h.1]
        exact ((perm_insertMember key arg h.2).cons _).trans (.swap _ _ _)

theorem perm_foldl_insertMember : ∀ {members sorted : List (String × Json)},
    ((sorted ++ members).map (·.1)).Nodup →
    (members.foldl (fun sorted m => insertMember m.1 m.2 sorted) sorted).Perm (sorted ++ members)
  | [], sorted, _ => by rw [List.foldl_nil, List.append_nil]
  | m :: rest, sorted, h => by
      have hnew : m.1 ∉ sorted.map (·.1) := by
        rw [List.map_append, List.map_cons] at h
        exact fun hmem => (List.nodup_append.mp h).2.2 _ hmem _ List.mem_cons_self rfl
      have hstep : (insertMember m.1 m.2 sorted ++ rest).Perm (sorted ++ m :: rest) :=
        ((perm_insertMember m.1 m.2 hnew).append_right rest).trans List.perm_middle.symm
      exact (perm_foldl_insertMember ((hstep.map _).nodup_iff.mpr h)).trans hstep

/-- Sorting the members of an object changes nothing but their order. -/
theorem exists_perm_ofMembers {members : List (String × Json)} (h : (members.map (·.1)).Nodup) :
    ∃ sorted, ofMembers members = .object sorted ∧ sorted.Perm members :=
  ⟨_, rfl, @perm_foldl_insertMember members [] (by simpa using h)⟩

theorem accepts_without_ofMembers {members : List (String × Json)} (h : (members.map (·.1)).Nodup)
    (names : List String) (value : Json) : ((ofMembers members).without names).accepts value =
      members.all fun m => names.contains m.1 || acceptsKeyword m value := by
  obtain ⟨sorted, heq, hp⟩ := exists_perm_ofMembers h
  rw [heq, without, accepts, acceptsAll_eq_all, List.all_filter, hp.all_eq]
  simp

theorem sublist_keys : ∀ members : List (String × Option Json),
    ((members.filterMap fun m => m.2.map (m.1, ·)).map (·.1)).Sublist (members.map (·.1))
  | [] => .slnil
  | (key, arg?) :: rest => by
      cases arg? with
      | none => exact (sublist_keys rest).cons _
      | some arg => exact (sublist_keys rest).cons_cons _

/-- Which values are valid against a schema of which some keywords are left out: those that are as each of
the others says. -/
theorem accepts_without_ofOptional {members : List (String × Option Json)}
    (h : (members.map (·.1)).Nodup) (names : List String) (value : Json) :
    ((ofOptional members).without names).accepts value =
      members.all fun m => names.contains m.1 || m.2.all fun arg => acceptsKeyword (m.1, arg) value := by
  rw [ofOptional, accepts_without_ofMembers ((sublist_keys members).nodup h), List.all_filterMap]
  refine List.all_congr rfl fun m => ?_
  cases m.2 <;> simp

/-- What is valid against a schema is valid against some of its keywords. -/
theorem accepts_without {document value : Json} {names : List String}
    (h : document.accepts value = true) : (document.without names).accepts value = true := by
  cases document with
  | object members =>
    rw [accepts, acceptsAll_eq_all] at h
    rw [without, accepts, acceptsAll_eq_all]
    exact List.all_eq_true.mpr fun m hm => List.all_eq_true.mp h m (List.mem_of_mem_filter hm)
  | _ => exact h

/-- Keywords that are not there can be left out. -/
theorem without_ofMembers {members : List (String × Json)} {names : List String}
    (hkeys : (members.map (·.1)).Nodup) (h : ∀ key ∈ members.map (·.1), key ∉ names) :
    (ofMembers members).without names = ofMembers members := by
  obtain ⟨sorted, heq, hp⟩ := exists_perm_ofMembers hkeys
  rw [heq, without, List.filter_eq_self.mpr]
  intro m hm
  simpa using h _ (List.mem_map_of_mem (hp.mem_iff.mp hm))

theorem without_ofOptional {members : List (String × Option Json)} {names : List String}
    (hkeys : (members.map (·.1)).Nodup) (h : ∀ key ∈ members.map (·.1), key ∉ names) :
    (ofOptional members).without names = ofOptional members :=
  without_ofMembers ((sublist_keys members).nodup hkeys) fun key hkey =>
    h key ((sublist_keys members).subset hkey)

@[simp] theorem string_beq_string (s t : String) : (string s == string t) = (s == t) := rfl

@[simp] theorem number?_ofFloat (x : Float) : (ofFloat x).number? = some x := rfl

@[simp] theorem whole?_ofNat (n : Nat) : (ofNat n).whole? = some (n : Int) := rfl

@[simp] theorem string?_string (s : String) : (string s).string? = some s := rfl

end Json

/-! ## 3. Nodes -/

theorem Constraints.keys_published (c : Constraints) (isText : Bool) : (c.published isText).map (·.1) =
    ["minimum", "maximum", if isText then "minLength" else "minItems",
      if isText then "maxLength" else "maxItems", "pattern", "format"] := by
  cases isText <;> rfl

theorem unlessBound_eq_none {α : Type} {bound? : Option α} {breaks : α → Bool} {reason : α → String} :
    unlessBound bound? breaks reason = none ↔ ∀ b ∈ bound?, breaks b = false := by
  cases bound? <;> simp [unlessBound]

namespace Schema

/-- The keywords that say something about the parts of a value. -/
def partKeywords : List String := ["items", "properties", "required"]

/-- Whether a value is as the keywords of a published schema say that are not about its parts. -/
def acceptsWhole (n : Schema) (v : Json) : Bool := (n.published.without partKeywords).accepts v

/-- A node whose published schema can say all that the node says. -/
structure Publishable (n : Schema) : Prop where
  placed : n.Placed
  pattern : ∀ p ∈ n.constraints.pattern?, Pattern.isValid p = true

variable {kind : LeafKind} {c : Constraints} {v : Json}

/-- Whether a keyword that is not left out holds. -/
def keywordHolds (v : Json) (m : String × Option Json) : Bool :=
  partKeywords.contains m.1 || m.2.all fun arg => Json.acceptsKeyword (m.1, arg) v

/-- What published constraints say: each about values of its own type. -/
theorem all_published (isText : Bool) : (c.published isText).all (keywordHolds v) = true ↔
    (∀ b ∈ c.minimum?, ∀ x ∈ v.number?, ¬ x < b) ∧ (∀ b ∈ c.maximum?, ∀ x ∈ v.number?, ¬ b < x) ∧
      (∀ n ∈ c.minLength?, if isText then ∀ s ∈ v.string?, n ≤ s.length
        else ∀ items ∈ v.items?, n ≤ items.length) ∧
      (∀ n ∈ c.maxLength?, if isText then ∀ s ∈ v.string?, s.length ≤ n
        else ∀ items ∈ v.items?, items.length ≤ n) ∧
      ∀ p ∈ c.pattern?, ∀ s ∈ v.string?, Pattern.occursIn p s = true := by
  cases isText <;>
    simp [Constraints.published, keywordHolds, partKeywords, Json.acceptsKeyword, Json.meets,
      Option.all_eq_true]

/-- The keywords of a leaf's schema. -/
theorem keys_leaf (kind : LeafKind) (c : Constraints) :
    (("type", if kind = .any then none else some (Json.string kind.text)) ::
      c.published (kind == .string)).map (·.1) =
    ["type", "minimum", "maximum", if kind == .string then "minLength" else "minItems",
      if kind == .string then "maxLength" else "maxItems", "pattern", "format"] := by
  rw [List.map_cons, Constraints.keys_published]

theorem nodup_keys_leaf (kind : LeafKind) (c : Constraints) :
    ((("type", if kind = .any then none else some (Json.string kind.text)) ::
      c.published (kind == .string)).map (·.1)).Nodup := by
  rw [keys_leaf]
  cases kind == .string <;> simp

theorem acceptsWhole_leaf : (leaf kind c).acceptsWhole v = true ↔
    (kind = .any ∨ v.hasType kind.text = true) ∧
      (c.published (kind == .string)).all (keywordHolds v) = true := by
  rw [acceptsWhole, published, Json.accepts_without_ofOptional (nodup_keys_leaf kind c), List.all_cons,
    Bool.and_eq_true]
  refine and_congr ?_ .rfl
  by_cases hany : kind = .any
  · simp [hany]
  · simp [hany, partKeywords, Json.acceptsKeyword, Json.meets]

theorem acceptsWhole_enumeration (values : List String) : (enumeration values).acceptsWhole v = true ↔
    ∃ s ∈ values, v = .string s := by
  rw [acceptsWhole, published, Json.accepts_without_ofMembers (by simp)]
  cases v <;>
    simp [partKeywords, Json.acceptsKeyword, Json.meets, Json.ofStrings, Json.hasType, Json.items?]

theorem acceptsWhole_list (items : Schema) : (list items c).acceptsWhole v = true ↔
    v.hasType "array" = true ∧ (c.published false).all (keywordHolds v) = true := by
  have hkeys : ((("type", some (Json.string "array")) :: ("items", some (published items)) ::
      c.published false).map (·.1)).Nodup := by
    rw [List.map_cons, List.map_cons, Constraints.keys_published]
    simp
  rw [acceptsWhole, published, Json.accepts_without_ofOptional hkeys, List.all_cons, List.all_cons,
    Bool.and_eq_true, Bool.and_eq_true]
  refine and_congr ?_ ?_
  · simp [partKeywords, Json.acceptsKeyword, Json.meets]
  · exact and_iff_right (by simp [partKeywords])

theorem acceptsWhole_object (fields : List SchemaField) : (object fields).acceptsWhole v = true ↔
    v.hasType "object" = true := by
  rw [acceptsWhole, published, Json.accepts_without_ofOptional (by simp)]
  simp [partKeywords, Json.acceptsKeyword, Json.meets]

theorem acceptsWhole_unsupported (reason : String) :
    (unsupported reason).acceptsWhole v = true := by
  simp [acceptsWhole, published, Json.without, Json.accepts, Json.acceptsAll]

/-! ## 4. Objections -/

theorem objectionToText?_eq_none_iff (hpattern : ∀ p ∈ c.pattern?, Pattern.isValid p = true)
    (text : String) : c.objectionToText? text = none ↔
      (c.published true).all (keywordHolds (.string text)) = true := by
  have hread : (∀ p ∈ c.pattern?, (Pattern.isValid p && !Pattern.occursIn p text) = false) ↔
      ∀ p ∈ c.pattern?, Pattern.occursIn p text = true := by
    refine forall₂_congr fun p hp => ?_
    rw [hpattern p hp, Bool.true_and, Bool.not_eq_false']
  rw [all_published, Constraints.objectionToText?, Option.orElse_eq_none, Option.orElse_eq_none,
    unlessBound_eq_none, unlessBound_eq_none, unlessBound_eq_none, hread]
  simp [Json.number?]

theorem objectionToNumber?_eq_none_iff (n : Number) : c.objectionToNumber? n.toFloat = none ↔
    (c.published false).all (keywordHolds (.number n)) = true := by
  rw [all_published]
  simp [Constraints.objectionToNumber?, unlessBound_eq_none, Json.number?, Json.string?, Json.items?]

theorem objectionToLength?_eq_none_iff (items : List Json) :
    c.objectionToLength? items.length = none ↔
      (c.published false).all (keywordHolds (.array items)) = true := by
  rw [all_published]
  simp [Constraints.objectionToLength?, unlessBound_eq_none, Json.number?, Json.string?, Json.items?]

/-- Constraints say nothing about values of other types. -/
theorem all_published_of_hasType {isText : Bool} {type : String} (h : v.hasType type = true)
    (htype : type = "boolean" ∨ type = "null") : (c.published isText).all (keywordHolds v) = true := by
  rw [all_published]
  rcases htype with rfl | rfl <;>
    cases v <;> simp_all [Json.hasType, Json.number?, Json.string?, Json.items?]

/-- A leaf has constraints that belong to its kind only, so one that holds anything has none. -/
theorem all_published_of_any (h : (leaf .any c).Placed) :
    (c.published false).all (keywordHolds v) = true := by
  have hbounds := h.bounds rfl
  have hlengths := h.lengths rfl
  have htexts := h.texts rfl
  simp only [constraints] at hbounds hlengths htexts
  rw [all_published]
  simp [hbounds, hlengths, htexts]

theorem objectionToLeaf?_eq_none_iff (h : (leaf kind c).Publishable) :
    objectionToLeaf? kind c v = none ↔ (leaf kind c).acceptsWhole v = true := by
  rw [acceptsWhole_leaf]
  cases kind with
  | string =>
    cases v with
    | string text =>
      rw [and_iff_right (.inr rfl)]
      exact objectionToText?_eq_none_iff h.pattern text
    | _ => simp [objectionToLeaf?, Json.string?, Json.hasType, LeafKind.text]
  | number =>
    cases v with
    | number n =>
      rw [and_iff_right (.inr rfl)]
      exact objectionToNumber?_eq_none_iff n
    | _ => simp [objectionToLeaf?, Json.number?, Json.hasType, LeafKind.text]
  | integer =>
    cases v with
    | number n =>
      have hwhole : (Json.number n).hasType "integer" = isWhole n.toFloat := by simp [Json.hasType]
      simp only [objectionToLeaf?, Json.number?, LeafKind.text, hwhole]
      by_cases hw : isWhole n.toFloat = true
      · rw [if_pos hw, and_iff_right (.inr hw)]
        exact objectionToNumber?_eq_none_iff n
      · simp [hw]
    | _ => simp [objectionToLeaf?, Json.number?, Json.hasType, LeafKind.text]
  | boolean =>
    cases v with
    | bool b => exact iff_of_true rfl ⟨.inr rfl, all_published_of_hasType rfl (.inl rfl)⟩
    | _ => simp [objectionToLeaf?, Json.hasType, LeafKind.text]
  | null =>
    cases v with
    | null => exact iff_of_true rfl ⟨.inr rfl, all_published_of_hasType rfl (.inr rfl)⟩
    | _ => simp [objectionToLeaf?, Json.hasType, LeafKind.text]
  | any => exact iff_of_true rfl ⟨.inl rfl, all_published_of_any h.placed⟩

/-- **A value is not objected to exactly if it is as the keywords say that are not about its parts.** -/
theorem objection?_eq_none_iff {n : Schema} (h : n.Publishable) :
    n.objection? v = none ↔ n.acceptsWhole v = true := by
  cases n with
  | leaf kind c => exact objectionToLeaf?_eq_none_iff h
  | enumeration values =>
    rw [acceptsWhole_enumeration]
    cases v <;> simp [objection?, Json.string?]
  | list items c =>
    rw [acceptsWhole_list]
    cases v with
    | array xs => exact (objectionToLength?_eq_none_iff xs).trans (and_iff_right rfl).symm
    | _ => simp [objection?, Json.hasType]
  | object fields =>
    rw [acceptsWhole_object]
    cases v <;> simp [objection?, Json.hasType]
  | unsupported reason => exact iff_of_true rfl (acceptsWhole_unsupported reason)

/-! ## 5. All keywords -/

/-- Whether a node says something about parts of its values. -/
def hasParts : Schema → Bool
  | list _ _ | object _ => true
  | leaf _ _ | enumeration _ | unsupported _ => false

theorem acceptsWhole_of_accepts {n : Schema} (h : n.published.accepts v = true) :
    n.acceptsWhole v = true := Json.accepts_without h

theorem accepts_eq_acceptsWhole {n : Schema} (h : n.hasParts = false) :
    n.published.accepts v = n.acceptsWhole v := by
  unfold acceptsWhole
  cases n with
  | leaf kind c =>
    rw [published, Json.without_ofOptional (nodup_keys_leaf kind c)]
    rw [keys_leaf]
    cases kind == .string <;> simp [partKeywords]
  | enumeration values => rw [published, Json.without_ofMembers (by simp) (by simp [partKeywords])]
  | unsupported reason => rfl
  | list items c => cases h
  | object fields => cases h

end Schema

/-! ## 6. Analyses -/

namespace Analysis

variable {f : SourceFile} {n : Schema} {v : Json}

/-- The nodes of the schemas that are made from a file: of its graph, and of whatever type and field stand in
it. -/
inductive Produces (f : SourceFile) (n : Schema) : Prop
  | graph : (ofFile f).graph.HasNode n → Produces f n
  | type (free : List String) (owner path : String) (t : TypeExpr) :
      n.IsNode (TypeSchema.ofType (context f) free owner path t).value.schema → Produces f n
  | field (free : List String) (owner path : String) (g : Field) :
      n.IsNode (TypeSchema.ofField (context f) free owner path g).value.schema → Produces f n

theorem texts_annotations : (context f).annotations.Every (·.tags.Texts fun _ => True) := by
  intro e he
  obtain ⟨doc, -, heq⟩ := every_ofDoc f e he
  exact heq ▸ (TagSet.texts_ofDoc doc).mono fun _ _ => trivial

/-- Patterns of tags can be read, and so those of schemas. -/
theorem readable_of_built {s : Schema} (h : s.Built (·.tags.Texts fun _ => True)) (hn : n.IsNode s) :
    ∀ p ∈ n.constraints.pattern?, Pattern.isValid p = true :=
  (h.everywhere (Schema.keptBy_texts trivial) n hn).readable

theorem Produces.publishable (h : Produces f n) : n.Publishable := by
  cases h with
  | graph hn =>
    obtain ⟨root, hroot, hmem⟩ := id hn
    exact ⟨(accounted_of_hasNode f hn).placed,
      readable_of_built (built_of_mem_roots texts_annotations root hroot) hmem⟩
  | type free owner path t hn =>
    exact ⟨(TypeSchema.accounted_ofType (sound_annotations f) free owner path t n hn).placed,
      readable_of_built (TypeSchema.built_ofType texts_annotations free owner path t) hn⟩
  | field free owner path g hn =>
    exact ⟨((TypeSchema.accounted_ofField (sound_annotations f) free owner path g).schema n hn).placed,
      readable_of_built (TypeSchema.built_ofField texts_annotations free owner path g).schema hn⟩

/-- **Which values are objected to.** A value is not objected to exactly if it is as all keywords of the
published schema say but those about its parts, `items`, `properties` and `required`. So no valid value is
objected to; and where a node says nothing about parts, exactly the valid ones are not. -/
theorem unobjected_iff_accepts (h : Produces f n) (v : Json) :
    (n.objection? v = none ↔ (n.published.without Schema.partKeywords).accepts v = true) ∧
      (n.published.accepts v = true → n.objection? v = none) ∧
        (n.hasParts = false → (n.objection? v = none ↔ n.published.accepts v = true)) := by
  have hiff : n.objection? v = none ↔ n.acceptsWhole v = true :=
    Schema.objection?_eq_none_iff h.publishable
  refine ⟨hiff, fun hv => hiff.mpr (Schema.acceptsWhole_of_accepts hv), fun hparts => ?_⟩
  rw [Schema.accepts_eq_acceptsWhole hparts]
  exact hiff

end Analysis

/-! ## 7. A default that is not valid -/

namespace Sample

def numbers : Schema := .listOf (.plain .number)

/-- A list of one text. -/
def words : Json := .array [.string "one"]

/-- A parameter that is a list of numbers, with a list of one text for its default. -/
def terms : Field :=
  ⟨"terms", true, false, some (.array .origin (.keyword .origin "number")),
    some ⟨"/** @default [\"one\"] */", .origin⟩, .origin⟩

def adder : SourceFile where
  items := [
    interface "Add" "Operation"
      [field "name" (text "add"), field "params" (.object .origin [terms] [])]]
  errors := []

set_option maxRecDepth 10000 in
theorem roots_adder : (Analysis.ofFile adder).graph.roots =
    [.object [⟨"terms", numbers, false, none, some words, false⟩]] := by cbv

theorem produces_numbers : Analysis.Produces adder numbers :=
  .graph ⟨_, roots_adder ▸ List.mem_cons_self, .field List.mem_cons_self .self⟩

theorem words_unobjected : numbers.objection? words = none := by cbv

/-- What the published schema says of items is not looked at. -/
theorem words_partly_accepted : Analysis.Produces adder numbers ∧ numbers.objection? words = none ∧
    (numbers.published.without Schema.partKeywords).accepts words = true :=
  ⟨produces_numbers, words_unobjected,
    (Analysis.unobjected_iff_accepts produces_numbers words).1.mp words_unobjected⟩

/-- So a value that is not objected to need not be valid. -/
theorem words_not_accepted : ¬ ∀ (f : SourceFile) (n : Schema), Analysis.Produces f n → ∀ v : Json,
    (n.objection? v = none ↔ n.published.accepts v = true) := by
  intro hall
  have haccepted := (hall adder numbers produces_numbers words).mp words_unobjected
  have hrejected : numbers.published.accepts words = false := by cbv
  rw [hrejected] at haccepted
  cases haccepted

end Sample

end ServiceGraph
