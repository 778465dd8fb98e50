import ServiceGraph.Emission.File
import ServiceGraph.Proofs.Emission.Literals
import ServiceGraph.Proofs.Syntax.Declarations

/-!
The text of a graph is that of a written file (`Emission.lexes_file`): a heading, an import, an interface for each
descriptor, and stubs.
-/

namespace ServiceGraph.Emission

open Syntax Token Written

/-! ## 1. Descriptors as written interfaces -/

/-- A field with a text for its type. -/
def writtenText (name text : String) : WrittenField := ⟨none, name, false, .text text⟩

/-- A flag, if it is set. -/
def writtenFlag (name : String) (isSet : Bool) : List WrittenField :=
  if isSet then [⟨none, name, false, .word "true"⟩] else []

def writtenTexts (texts : List String) : Written := .tuple (texts.map .text)

def writtenAuth : Auth → Written
  | .apiKey header env? =>
    .object false <| [writtenText "type" "apiKey", writtenText "header" header]
      ++ (env?.map (writtenText "env")).toList
  | .oauth issuer audience? scopes =>
    .object false <| [writtenText "type" "oauth", writtenText "issuer" issuer]
      ++ (audience?.map (writtenText "audience")).toList
      ++ (if scopes.isEmpty then [] else [⟨none, "scopes", false, writtenTexts scopes⟩])

def serviceFields (s : Service) : List WrittenField :=
  [writtenText "name" s.name] ++ [writtenText "version" s.version] ++
    ((s.auth?.map fun a => [⟨none, "auth", false, writtenAuth a⟩]).getD [])

/-- A field with an object for its type; nothing if the object has no fields. -/
def writtenObject (name : String) (fields : List SchemaField) : List WrittenField :=
  if fields.isEmpty then [] else [⟨none, name, false, written 1 (.object fields)⟩]

/-- The result of an operation, with the tags of its schema. -/
def writtenResult (s : Schema) : List WrittenField :=
  [⟨fieldComment? 1 ⟨"result", s, true, none, none, false⟩, "result", false, written 1 s⟩]

def operationFields (o : Operation) : List WrittenField :=
  [writtenText "name" o.name] ++ writtenObject "params" (o.params.fields?.getD [])
    ++ ((o.result?.map writtenResult).getD [])
    ++ o.flags.named.flatMap fun (name, isSet) => writtenFlag name isSet

def promptFields (p : Prompt) : List WrittenField :=
  [writtenText "name" p.name] ++ writtenObject "args" p.arguments
    ++ match p.content with
      | .template content => [writtenText "template" content]
      | .dynamic => writtenFlag "dynamic" true

def resourceFields (r : Resource) : List WrittenField :=
  [writtenText "uri" r.uri] ++ [writtenText "name" r.name] ++ [writtenText "mimeType" r.mimeType]
    ++ writtenFlag "subscribable" r.subscribable
    ++ match r.content with
      | .static value => [⟨none, "data", false, writtenLiteral value⟩]
      | .dynamic => writtenFlag "dynamic" true

def groupFields (g : Group) : List WrittenField :=
  [writtenText "name" g.name] ++ [⟨none, "tools", false, writtenTexts g.operations⟩]

/-- An interface to be written, and the fields between its braces. -/
abbrev InterfacePart := Interface × List WrittenField

/-- The interfaces of a graph with their fields, in the order in which they are written. -/
def parts (g : Graph) : List InterfacePart :=
  (g.service?.map fun s => (service s, serviceFields s)).toList
    ++ g.operations.map (fun o => (operation o, operationFields o))
    ++ g.prompts.map (fun p => (prompt p, promptFields p))
    ++ g.resources.map (fun r => (resource r, resourceFields r))
    ++ g.groups.map (fun group => (Emission.group group, groupFields group))

theorem map_fst_parts (g : Graph) : (parts g).map Prod.fst = interfaces g := by
  simp [parts, interfaces, Function.comp_def, ← Option.toList_map]

/-- The comment for a description that a comment does not change. -/
def descriptionComment? (description? : Option String) : Option String :=
  (commentText 0 (((description?.filter isCommentSafe).map descriptionLines).getD [])).map String.ofList

/-- The field for a description that a comment would change. -/
def descriptionField (description? : Option String) : List WrittenField :=
  ((description?.filter (!isCommentSafe ·)).map fun d => [writtenText "description" d]).getD []

def writtenInterface (name : String) (p : InterfacePart) : WrittenInterface :=
  ⟨descriptionComment? p.1.description?, name, p.1.marker, descriptionField p.1.description? ++ p.2⟩

/-- The names of the interfaces of a graph. -/
def namesOf (g : Graph) : List String := interfaceNames reservedNames ((interfaces g).map (·.stem))

def writtenFile (g : Graph) (markerModule : String) : WrittenFile where
  heading := "// Generated by declc. Edit the source declarations instead."
  imports := imports g
  path := markerModule
  interfaces := List.zipWith writtenInterface (namesOf g) (parts g)
  functions := topLevelNames (handlers g)
  methods := memberNames (handlers g)

/-! ## 2. Fields on lines of their own -/

theorem fieldTokens_append : ∀ fields more : List WrittenField,
    fieldTokens true (fields ++ more) = fieldTokens true fields ++ fieldTokens true more
  | [], _ => rfl
  | ⟨comment?, name, isOptional, type⟩ :: rest, more => by
      rw [List.cons_append, fieldTokens, fieldTokens, fieldTokens_append rest more]
      simp

/-- The text of a body is cut into the tokens of its fields. -/
def LexesAsBody (text : String) (fields : List WrittenField) : Prop :=
  ∀ tail, Lexes text.toList (fieldTokens true fields) tail

theorem lexesAsBody_nil : LexesAsBody "" [] := fun _ => lexes_nil

theorem LexesAsBody.append {text more : String} {fields others : List WrittenField}
    (h : LexesAsBody text fields) (h' : LexesAsBody more others) :
    LexesAsBody (text ++ more) (fields ++ others) := by
  intro tail
  rw [String.toList_append, fieldTokens_append]
  exact (h _).append (h' tail)

/-- A field with a comment in front of it. -/
theorem lexesAsBody_described (level : Nat) {lines : List String} (name : String) {text : String} {type : Written}
    (hlines : ∀ l ∈ lines, hasCloser l.toList = false) (hname : isIdentifier name = true)
    (h : LexesApart text type.tokens) :
    LexesAsBody (comment level lines ++ line level (name ++ ": " ++ text ++ ";"))
      [⟨(commentText level lines).map String.ofList, name, false, type⟩] := by
  intro tail
  have htext : (comment level lines ++ line level (name ++ ": " ++ text ++ ";")).toList =
      (comment level lines).toList ++ (blanks level ++ (name.toList ++ ([':'] ++ ([' '] ++
        (text.toList ++ ([';'] ++ ['\n'])))))) := by
    simp [toList_line]
  have hproperty : Written.property name = (.name, name) := by simp [Written.property, hname]
  have hfeed : Lexes ['\n'] [] tail := lexes_blank (by decide)
  rw [htext]
  have hall := (lexes_comment level hlines).append <| (lexes_blanks level).append <|
    (lexes_word name hname (breaks_cons (by decide) _)).append <|
    (lexes_punctuation (c := ':') (by decide)).append <| (lexes_blank (c := ' ') (by decide)).append <|
    (h _ (breaks_cons (c := ';') (by decide) _)).append <|
    (lexes_punctuation (c := ';') (by decide)).append hfeed
  refine (congrArg (Lexes _ · tail) ?_).mp hall
  simp [fieldTokens, hproperty]
  rfl

theorem lexesAsBody_field (name : String) {text : String} {type : Written} (hname : isIdentifier name = true)
    (h : LexesApart text type.tokens) : LexesAsBody (field name text) [⟨none, name, false, type⟩] := by
  have hnone : ∀ l ∈ ([] : List String), hasCloser l.toList = false := by simp
  have hbody := lexesAsBody_described 1 name hnone hname h
  rwa [show comment 1 [] = "" from rfl, String.empty_append] at hbody

theorem lexesApart_quote (text : String) : LexesApart (Text.quote text) (Written.text text).tokens :=
  fun _ _ => lexes_quote text

theorem lexesAsBody_text (name : String) (hname : isIdentifier name = true) (text : String) :
    LexesAsBody (textField name text) [writtenText name text] :=
  lexesAsBody_field name hname (lexesApart_quote text)

theorem lexesAsBody_flag (name : String) (hname : isIdentifier name = true) (isSet : Bool) :
    LexesAsBody (flag name isSet) (writtenFlag name isSet) := by
  cases isSet with
  | false => exact lexesAsBody_nil
  | true => exact lexesAsBody_field name hname fun _ h => lexes_word "true" (by decide) h

theorem lexesAsBody_option {α : Type} {text : α → String} {fields : α → List WrittenField} {x? : Option α}
    (h : ∀ x ∈ x?, LexesAsBody (text x) (fields x)) :
    LexesAsBody ((x?.map text).getD "") ((x?.map fields).getD []) := by
  cases x? with
  | none => exact lexesAsBody_nil
  | some x => exact h x rfl

theorem lexesApart_texts (texts : List String) :
    LexesApart (bracketed (texts.map Text.quote)) (writtenTexts texts).tokens := by
  have hall : List.Forall₂ (fun text item => LexesApart text item.tokens) (texts.map Text.quote)
      (texts.map Written.text) := by
    rw [List.forall₂_map_left_iff, List.forall₂_map_right_iff]
    exact List.forall₂_same.mpr fun text _ => lexesApart_quote text
  exact fun _ _ => lexes_bracketed hall

theorem lexesAsBody_object (name : String) (hname : isIdentifier name = true) {fields : List SchemaField}
    (h : (Schema.object fields).Everywhere Schema.Writable) :
    LexesAsBody (objectField name fields) (writtenObject name fields) := by
  unfold objectField writtenObject
  split
  · exact lexesAsBody_nil
  · exact lexesAsBody_field name hname fun _ hbreaks => lexes_type 1 _ h hbreaks

/-! ## 3. Bodies of descriptors -/

theorem lexesAsField_text (name text : String) (hname : isIdentifier name = true) :
    LexesAsField (name ++ ": " ++ Text.quote text) (writtenText name text) := by
  have h := lexesAsField name (lexesApart_quote text)
  rwa [property, if_pos hname] at h

theorem lexes_auth (a : Auth) : LexesApart (auth a) (writtenAuth a).tokens := by
  have hoption : ∀ (name : String), isIdentifier name = true → ∀ text? : Option String,
      List.Forall₂ LexesAsField (text?.map fun text => name ++ ": " ++ Text.quote text).toList
        (text?.map (writtenText name)).toList := by
    intro name hname text?
    cases text? with
    | none => exact .nil
    | some text => exact .cons (lexesAsField_text name text hname) .nil
  intro tail _
  cases a with
  | apiKey header env? =>
    refine lexes_braced (List.rel_append ?_ (hoption "env" (by decide) env?))
    exact .cons (lexesAsField_text "type" "apiKey" (by decide))
      (.cons (lexesAsField_text "header" header (by decide)) .nil)
  | oauth issuer audience? scopes =>
    refine lexes_braced (List.rel_append (List.rel_append ?_ (hoption "audience" (by decide) audience?)) ?_)
    · exact .cons (lexesAsField_text "type" "oauth" (by decide))
        (.cons (lexesAsField_text "issuer" issuer (by decide)) .nil)
    · split
      · exact .nil
      · have hscopes := lexesAsField "scopes" (lexesApart_texts scopes)
        rw [property, if_pos (by decide)] at hscopes
        exact .cons hscopes .nil

theorem lexesAsBody_service (s : Service) : LexesAsBody (service s).body (serviceFields s) :=
  ((lexesAsBody_text "name" (by decide) s.name).append
    (lexesAsBody_text "version" (by decide) s.version)).append
    (lexesAsBody_option fun a _ => lexesAsBody_field "auth" (by decide) (lexes_auth a))

theorem lexesAsBody_result {s : Schema} (h : s.Everywhere Schema.Writable) :
    LexesAsBody (result s) (writtenResult s) := by
  have htags : noteLines none s none false = schemaTags s := by simp [noteLines, fieldTags]
  have hlines : ∀ l ∈ schemaTags s, hasCloser l.toList = false := by
    intro l hl
    have hmem : l ∈ fieldTags s none false := by simpa [fieldTags] using hl
    exact ( Annotation.isTagLine_of_mem_fieldTags false h.self.legible (by simp) l hmem).closer
  have hbody := lexesAsBody_described 1 "result" hlines (by decide)
    fun _ hbreaks => lexes_type 1 s h hbreaks
  unfold writtenResult fieldComment?
  rw [htags]
  exact hbody

theorem lexesAsBody_flags (flags : List (String × Bool)) (hnames : ∀ f ∈ flags, isIdentifier f.1 = true) :
    LexesAsBody (String.join (flags.map fun (name, isSet) => flag name isSet))
      (flags.flatMap fun (name, isSet) => writtenFlag name isSet) := by
  induction flags with
  | nil => exact lexesAsBody_nil
  | cons f rest ih =>
    rw [List.map_cons, String.join_cons, List.flatMap_cons]
    exact (lexesAsBody_flag f.1 (hnames f List.mem_cons_self) f.2).append
      (ih fun g hg => hnames g (List.mem_cons_of_mem _ hg))

theorem lexesAsBody_operation {o : Operation} (h : o.Writable) :
    LexesAsBody (operation o).body (operationFields o) := by
  obtain ⟨fields, hfields⟩ := h.object
  have hparams : (Schema.object (o.params.fields?.getD [])).Everywhere Schema.Writable := by
    have hparams := h.params
    rwa [hfields] at hparams ⊢
  exact (((lexesAsBody_text "name" (by decide) o.name).append
    (lexesAsBody_object "params" (by decide) hparams)).append
    (lexesAsBody_option fun s hs => lexesAsBody_result (h.result s hs))).append
    (lexesAsBody_flags _ (by simp [OperationFlags.named]; decide))

theorem lexesAsBody_prompt {p : Prompt} (h : p.Writable) :
    LexesAsBody (prompt p).body (promptFields p) := by
  refine ((lexesAsBody_text "name" (by decide) p.name).append
    (lexesAsBody_object "args" (by decide) h.arguments)).append ?_
  cases p.content with
  | template text => exact lexesAsBody_text "template" (by decide) text
  | dynamic => exact lexesAsBody_flag "dynamic" (by decide) true

theorem lexesAsBody_resource {r : Resource} (h : r.Writable) :
    LexesAsBody (resource r).body (resourceFields r) := by
  refine ((((lexesAsBody_text "uri" (by decide) r.uri).append
    (lexesAsBody_text "name" (by decide) r.name)).append
    (lexesAsBody_text "mimeType" (by decide) r.mimeType)).append
    (lexesAsBody_flag "subscribable" (by decide) r.subscribable)).append ?_
  have hdata := h.data
  cases hcontent : r.content with
  | static value => exact lexesAsBody_field "data" (by decide) (lexes_literal value (hdata value hcontent))
  | dynamic => exact lexesAsBody_flag "dynamic" (by decide) true

theorem lexesAsBody_group (g : Group) : LexesAsBody (group g).body (groupFields g) :=
  (lexesAsBody_text "name" (by decide) g.name).append
    (lexesAsBody_field "tools" (by decide) (lexesApart_texts g.operations))

/-- A part of a file that can be written: its names are identifiers, and its body is that of its fields. -/
structure InterfacePart.Sound (p : InterfacePart) : Prop where
  stem : isIdentifier p.1.stem = true
  marker : isIdentifier p.1.marker = true
  body : LexesAsBody p.1.body p.2

/-- Every descriptor of a graph that can be written makes such a part. -/
theorem sound_of_mem_parts {g : Graph} (h : g.Writable) : ∀ p ∈ parts g, InterfacePart.Sound p := by
  have hstem : ∀ (name suffix : String), Naming.IsAscii name → Naming.IsWord suffix.toList →
      isIdentifier (baseName name ++ suffix) = true := fun name suffix hname hsuffix =>
    isIdentifier_append (isIdentifier_baseName hname) hsuffix
  have hword : ∀ suffix ∈ ["Service", "Tool", "Prompt", "Resource", "Group"],
      Naming.IsWord suffix.toList := by
    simp only [List.mem_cons, List.not_mem_nil, or_false, forall_eq_or_imp, forall_eq]
    simp [Naming.IsWord]
  have hmarker : ∀ marker ∈ ["Server", "Tool", "Prompt", "Resource", "ToolGroup"],
      isIdentifier marker = true := by
    simp only [List.mem_cons, List.not_mem_nil, or_false, forall_eq_or_imp, forall_eq]
    decide
  intro p hp
  simp only [parts, List.mem_append, Option.mem_toList, Option.map_eq_some_iff, List.mem_map] at hp
  rcases hp with (((⟨s, hs, rfl⟩ | ⟨o, ho, rfl⟩) | ⟨q, hq, rfl⟩) | ⟨r, hr, rfl⟩) | ⟨group, hgroup, rfl⟩
  · exact ⟨hstem _ _ (h.service s hs).ascii (hword _ (by simp)), hmarker "Server" (by simp), lexesAsBody_service s⟩
  · have hwritable := h.operations o ho
    exact ⟨hstem _ _ hwritable.ascii (hword _ (by simp)), hmarker "Tool" (by simp), lexesAsBody_operation hwritable⟩
  · have hwritable := h.prompts q hq
    exact ⟨hstem _ _ hwritable.ascii (hword _ (by simp)), hmarker "Prompt" (by simp), lexesAsBody_prompt hwritable⟩
  · have hwritable := h.resources r hr
    exact ⟨hstem _ _ hwritable.ascii (hword _ (by simp)), hmarker "Resource" (by simp), lexesAsBody_resource hwritable⟩
  · exact ⟨hstem _ _ (h.groups group hgroup).ascii (hword _ (by simp)), hmarker "ToolGroup" (by simp),
      lexesAsBody_group group⟩

theorem isIdentifier_of_mem_namesOf {g : Graph} (h : g.Writable) :
    ∀ name ∈ namesOf g, isIdentifier name = true := by
  refine isIdentifier_of_mem_interfaceNames _ _ fun stem hstem => ?_
  obtain ⟨i, hi, rfl⟩ := List.mem_map.mp hstem
  rw [← map_fst_parts] at hi
  obtain ⟨p, hp, rfl⟩ := List.mem_map.mp hi
  exact (sound_of_mem_parts h p hp).stem

/-! ## 4. Lines of a file -/

variable {tail : List Char}

theorem lexes_feed : Lexes ['\n'] [] tail := lexes_blank (by decide)

/-- A word with a blank behind it. -/
theorem lexes_lead (word : String) (h : isIdentifier word = true) :
    Lexes (word ++ " ").toList [(.name, word)] tail := by
  rw [String.toList_append]
  exact (lexes_word word h (breaks_cons (c := ' ') (by decide) _)).append (lexes_blank (by decide))

/-- Lines one after the other. -/
theorem lexes_join {α : Type} {text : α → String} {found : α → List Signature} : ∀ {as : List α},
    (∀ a ∈ as, ∀ tail, Lexes (text a).toList (found a) tail) →
      Lexes (String.join (as.map text)).toList (as.flatMap found) tail
  | [], _ => lexes_nil
  | a :: rest, h => by
      rw [List.map_cons, String.join_cons, String.toList_append, List.flatMap_cons]
      exact (h a List.mem_cons_self _).append (lexes_join fun b hb => h b (List.mem_cons_of_mem _ hb))

/-- An interface under a name. -/
theorem lexes_interface {name : String} {p : InterfacePart} (hname : isIdentifier name = true)
    (h : p.Sound) : Lexes (interfaceText name p.1).toList (writtenInterface name p).tokens tail := by
  have hsafe : ∀ l ∈ ((p.1.description?.filter isCommentSafe).map descriptionLines).getD [],
      hasCloser l.toList = false := by
    intro l hl
    cases hd : p.1.description?.filter isCommentSafe with
    | none =>
      rw [hd] at hl
      cases hl
    | some d =>
      rw [hd] at hl
      have hd' := (Option.filter_eq_some_iff.mp hd).2
      obtain ⟨heq, hlines⟩ := Annotation.descriptionLines_eq hd'
      rw [Option.map_some, Option.getD_some, heq] at hl
      obtain ⟨k, hk, rfl⟩ := List.mem_map.mp hl
      rw [String.toList_ofList]
      exact (hlines k hk).1
  have hdescription : LexesAsBody
      (((p.1.description?.filter (!isCommentSafe ·)).map (textField "description")).getD "")
      (descriptionField p.1.description?) :=
    lexesAsBody_option fun d _ => lexesAsBody_text "description" (by decide) d
  have hopening : ∀ rest : List Char,
      Lexes (line 0 s!"interface {name} extends {p.1.marker} \x7b").toList
        [(.name, "interface"), (.name, name), (.name, "extends"), (.name, p.1.marker), sign "\x7b"] rest := by
    intro rest
    have htext : (line 0 s!"interface {name} extends {p.1.marker} \x7b").toList =
        ("interface" ++ " ").toList ++ ((name ++ " ").toList ++ (("extends" ++ " ").toList ++
          ((p.1.marker ++ " ").toList ++ (['\x7b'] ++ ['\n'])))) := by
      simp [toList_line, blanks, toString]
    rw [htext]
    exact (lexes_lead "interface" (by decide)).append <| (lexes_lead name hname).append <|
      (lexes_lead "extends" (by decide)).append <| (lexes_lead p.1.marker h.marker).append <|
      (lexes_punctuation (by decide)).append lexes_feed
  have hclosing : Lexes (line 0 "\x7d").toList [sign "\x7d"] tail := by
    have htext : (line 0 "\x7d").toList = ['\x7d'] ++ ['\n'] := by simp [toList_line, blanks]
    rw [htext]
    exact (lexes_punctuation (by decide)).append lexes_feed
  have htext : (interfaceText name p.1).toList = ['\n'] ++
      ((comment 0 (((p.1.description?.filter isCommentSafe).map descriptionLines).getD [])).toList ++
        ((line 0 s!"interface {name} extends {p.1.marker} \x7b").toList ++
          (((((p.1.description?.filter (!isCommentSafe ·)).map (textField "description")).getD "") ++
            p.1.body).toList ++ (line 0 "\x7d").toList))) := by
    simp only [interfaceText, describe, String.toList_append, List.append_nil, List.append_assoc]
    rfl
  rw [htext]
  have hall := (lexes_feed).append <| (lexes_comment 0 hsafe).append <| (hopening _).append <|
    ((hdescription.append h.body) _).append hclosing
  refine (congrArg (Lexes _ · tail) ?_).mp hall
  simp [writtenInterface, WrittenInterface.tokens, descriptionComment?]
  rfl

theorem lexes_interfaces {tail : List Char} : ∀ {names : List String} {ps : List InterfacePart},
    (∀ name ∈ names, isIdentifier name = true) → (∀ p ∈ ps, InterfacePart.Sound p) →
      Lexes (String.join (List.zipWith interfaceText names (ps.map Prod.fst))).toList
        ((List.zipWith writtenInterface names ps).flatMap WrittenInterface.tokens) tail
  | [], _, _, _ => lexes_nil
  | _ :: _, [], _, _ => lexes_nil
  | name :: names, p :: ps, hnames, hps => by
      rw [List.map_cons, List.zipWith_cons_cons, List.zipWith_cons_cons, String.join_cons,
        String.toList_append, List.flatMap_cons]
      exact (lexes_interface (hnames name List.mem_cons_self) (hps p List.mem_cons_self)).append
        (lexes_interfaces (fun n hn => hnames n (List.mem_cons_of_mem _ hn))
          fun q hq => hps q (List.mem_cons_of_mem _ hq))

/-! ## 5. Imports and stubs -/

theorem lexes_imports : ∀ (first : String) (others : List String),
    (∀ name ∈ first :: others, isIdentifier name = true) → Breaks tail →
      Lexes (", ".intercalate (first :: others)).toList ((.name, first) :: moreNames others) tail
  | first, [], h, hbreaks => by
      rw [String.intercalate_singleton]
      exact lexes_word first (h first List.mem_cons_self) hbreaks
  | first, next :: others, h, hbreaks => by
      rw [String.intercalate_cons_cons, String.toList_append, String.toList_append, List.append_assoc]
      exact (lexes_word first (h first List.mem_cons_self) (breaks_cons (c := ',') (by decide) _)).append
        (lexes_comma.append
          (lexes_imports next others (fun n hn => h n (List.mem_cons_of_mem _ hn)) hbreaks))

theorem isIdentifier_of_mem_imports {g : Graph} : ∀ name ∈ imports g,
    isIdentifier name = true ∧ name ∉ ["type", "typeof"] := by
  intro name hname
  have hall : ∀ n ∈ ["Server", "Tool", "Prompt", "Resource", "ToolGroup", "Integer"],
      isIdentifier n = true ∧ n ∉ ["type", "typeof"] := by
    simp only [List.mem_cons, List.not_mem_nil, or_false, forall_eq_or_imp, forall_eq]
    decide
  refine hall name ?_
  simp only [imports, List.mem_append] at hname
  rcases hname with ((((h | h) | h) | h) | h) | h <;>
    · split at h <;> simp_all

theorem lexes_importLine (g : Graph) (markerModule : String) :
    Lexes (importLine g markerModule).toList (writtenFile g markerModule).importTokens tail := by
  unfold importLine WrittenFile.importTokens
  have hnamed : (writtenFile g markerModule).imports = imports g := rfl
  have hpath : (writtenFile g markerModule).path = markerModule := rfl
  rw [hnamed, hpath]
  have hnames := isIdentifier_of_mem_imports (g := g)
  cases himports : imports g with
  | nil => exact lexes_nil
  | cons first others =>
    rw [himports] at hnames
    have htext : (line 0 ("import type \x7b " ++ ", ".intercalate (first :: others) ++ " \x7d from " ++
        Text.quote markerModule ++ ";")).toList =
        ("import" ++ " ").toList ++ (("type" ++ " ").toList ++ (['\x7b'] ++ ([' '] ++
          ((", ".intercalate (first :: others)).toList ++ ([' '] ++ (['\x7d'] ++ ([' '] ++
            (("from" ++ " ").toList ++ ((Text.quote markerModule).toList ++ ([';'] ++ ['\n'])))))))))) := by
      simp [toList_line, blanks]
    have hfeed : Lexes ['\n'] [] tail := lexes_feed
    rw [List.isEmpty_cons, if_neg (by decide), htext]
    have hblank : ∀ rest : List Char, Lexes [' '] [] rest := fun _ => lexes_blank (by decide)
    have hall := (lexes_lead "import" (by decide)).append <| (lexes_lead "type" (by decide)).append <|
      (lexes_punctuation (c := '\x7b') (by decide)).append <| (hblank _).append <|
      (lexes_imports first others (fun n hn => (hnames n hn).1) (breaks_cons (by decide) _)).append <|
      (hblank _).append <| (lexes_punctuation (c := '\x7d') (by decide)).append <| (hblank _).append <|
      (lexes_lead "from" (by decide)).append <| (lexes_quote markerModule).append <|
      (lexes_punctuation (c := ';') (by decide)).append hfeed
    refine (congrArg (Lexes _ · tail) ?_).mp hall
    simp [importTokens]
    exact ⟨rfl, rfl, rfl, rfl⟩

theorem lexes_parameter (name : String) (h : isIdentifier name = true) (hbreaks : Breaks tail) :
    Lexes (name ++ "?: unknown").toList (parameterTokens name) tail := by
  have htext : (name ++ "?: unknown").toList = name.toList ++ (['?'] ++ ([':'] ++ ([' '] ++ "unknown".toList))) := by
    simp
  rw [htext]
  exact (lexes_word name h (breaks_cons (by decide) _)).append <|
    (lexes_operator (c := '?') (by decide) (by decide)).append <|
    (lexes_punctuation (c := ':') (by decide)).append <| (lexes_blank (c := ' ') (by decide)).append
      (lexes_word "unknown" (by decide) hbreaks)

theorem lexes_signature : Lexes signature.toList signatureTokens tail := by
  have htext : signature.toList = ['('] ++ (("args" ++ "?: unknown").toList ++ ((", " : String).toList ++
      (("context" ++ "?: unknown").toList ++ ([')'] ++ ([':'] ++ ([' '] ++ ("unknown".toList ++ [';']))))))) := by
    decide
  rw [htext]
  exact (lexes_punctuation (c := '(') (by decide)).append <|
    (lexes_parameter "args" (by decide) (breaks_cons (c := ',') (by decide) _)).append <| lexes_comma.append <|
    (lexes_parameter "context" (by decide) (breaks_cons (c := ')') (by decide) _)).append <|
    (lexes_punctuation (c := ')') (by decide)).append <| (lexes_punctuation (c := ':') (by decide)).append <|
    (lexes_blank (c := ' ') (by decide)).append <|
    (lexes_word "unknown" (by decide) (breaks_cons (c := ';') (by decide) _)).append
      (lexes_punctuation (c := ';') (by decide))

theorem lexes_function {name : String} (h : isName name.toList = true) :
    Lexes (line 0 ("export declare function " ++ name ++ signature)).toList (functionTokens name) tail := by
  have htext : (line 0 ("export declare function " ++ name ++ signature)).toList =
      ("export" ++ " ").toList ++ (("declare" ++ " ").toList ++ (("function" ++ " ").toList ++
        (name.toList ++ (signature.toList ++ ['\n'])))) := by
    simp [toList_line, blanks]
  have hname : Lexes name.toList [(.name, name)] ((signature.toList ++ ['\n']) ++ tail) := by
    have hlexes := lexes_name h (breaks_cons (c := '(') (by decide) (signature.toList.tail ++ ('\n' :: tail)))
    rw [String.ofList_toList] at hlexes
    rwa [List.append_assoc]
  have hfeed : Lexes ['\n'] [] tail := lexes_feed
  have hsignature : Lexes signature.toList signatureTokens (['\n'] ++ tail) := lexes_signature
  rw [htext]
  have hall := (lexes_lead "export" (by decide)).append <| (lexes_lead "declare" (by decide)).append <|
    (lexes_lead "function" (by decide)).append <| hname.append <| hsignature.append hfeed
  refine (congrArg (Lexes _ · tail) ?_).mp hall
  simp [functionTokens]

theorem lexes_method (name : String) :
    Lexes (line 1 (property name ++ signature)).toList (methodTokens [name]) tail := by
  have htext : (line 1 (property name ++ signature)).toList =
      blanks 1 ++ ((property name).toList ++ (signature.toList ++ ['\n'])) := by
    simp [toList_line]
  have hfeed : Lexes ['\n'] [] tail := lexes_feed
  rw [htext]
  have hall := (lexes_blanks 1).append <|
    (lexes_property name (breaks_cons (c := '(') (by decide) _)).append <| lexes_signature.append hfeed
  refine (congrArg (Lexes _ · tail) ?_).mp hall
  simp [methodTokens, signatureTokens]

theorem methodTokens_eq (names : List String) : methodTokens names = names.flatMap fun n => methodTokens [n] := by
  induction names with
  | nil => rfl
  | cons name rest ih =>
    rw [List.flatMap_cons, ← ih]
    simp [methodTokens]

theorem lexes_stubs {g : Graph} (markerModule : String) (h : g.Writable) :
    Lexes (stubs g).toList (writtenFile g markerModule).stubTokens tail := by
  have hfunctions : ∀ rest : List Char, Lexes (topLevelStubs (topLevelNames (handlers g))).toList
      ((topLevelNames (handlers g)).flatMap functionTokens) rest := by
    intro rest
    have hnames := h.functions
    unfold topLevelStubs
    split
    · rename_i hempty
      rw [List.isEmpty_iff.mp hempty]
      exact lexes_nil
    · rw [String.toList_append]
      exact lexes_feed.append (lexes_join fun name hname _ => lexes_function (hnames name hname))
  have hmembers : Lexes (memberStubs (memberNames (handlers g))).toList
      (if (memberNames (handlers g)).isEmpty then []
        else classTokens handlerClass (memberNames (handlers g)) ++ defaultTokens handlerClass) tail := by
    unfold memberStubs
    split
    · exact lexes_nil
    · have htext : ("\n" ++ line 0 s!"declare class {handlerClass} \x7b"
          ++ String.join ((memberNames (handlers g)).map fun n => line 1 (property n ++ signature)) ++ line 0 "\x7d"
          ++ line 0 s!"export default {handlerClass};").toList = ['\n'] ++ (("declare" ++ " ").toList ++
            (("class" ++ " ").toList ++ ((handlerClass ++ " ").toList ++ (['\x7b'] ++ (['\n'] ++
              ((String.join ((memberNames (handlers g)).map fun n => line 1 (property n ++ signature))).toList ++
                (['\x7d'] ++ (['\n'] ++ (("export" ++ " ").toList ++ (("default" ++ " ").toList ++
                  (handlerClass.toList ++ ([';'] ++ ['\n'])))))))))))) := by
        simp [toList_line, blanks, toString]
      have hclass : isIdentifier handlerClass = true := by decide
      have hmethods : ∀ rest : List Char, Lexes
          (String.join ((memberNames (handlers g)).map fun n => line 1 (property n ++ signature))).toList
          ((memberNames (handlers g)).flatMap fun n => methodTokens [n]) rest :=
        fun _ => lexes_join fun name _ _ => lexes_method name
      have hfeed : Lexes ['\n'] [] tail := lexes_feed
      rw [htext]
      have hall := lexes_feed.append <| (lexes_lead "declare" (by decide)).append <|
        (lexes_lead "class" (by decide)).append <| (lexes_lead handlerClass hclass).append <|
        (lexes_punctuation (c := '\x7b') (by decide)).append <| lexes_feed.append <|
        (hmethods _).append <| (lexes_punctuation (c := '\x7d') (by decide)).append <| lexes_feed.append <|
        (lexes_lead "export" (by decide)).append <| (lexes_lead "default" (by decide)).append <|
        (lexes_word handlerClass hclass (breaks_cons (c := ';') (by decide) _)).append <|
        (lexes_punctuation (c := ';') (by decide)).append hfeed
      refine (congrArg (Lexes _ · tail) ?_).mp hall
      rw [← methodTokens_eq]
      simp [classTokens, defaultTokens]
      exact ⟨rfl, rfl, rfl⟩
  have htext : (stubs g).toList = (topLevelStubs (topLevelNames (handlers g))).toList ++
      (memberStubs (memberNames (handlers g))).toList := String.toList_append
  rw [htext]
  exact (hfunctions _).append hmembers

/-! ## 6. Files -/

/-- **The text of a graph is cut into the tokens of the written file.** -/
theorem signatures_file {g : Graph} (h : g.Writable) (markerModule : String) :
    (scan (file g markerModule).toList).map Token.signature = (writtenFile g markerModule).tokens := by
  have hheading : ∀ rest : List Char,
      Lexes (line 0 (writtenFile g markerModule).heading).toList
        [(.comment, (writtenFile g markerModule).heading)] rest := by
    intro rest
    have htext : (line 0 (writtenFile g markerModule).heading).toList =
        '/' :: '/' :: " Generated by declc. Edit the source declarations instead.".toList ++ ['\n'] := by
      simp [writtenFile, toList_line, blanks]
    have hcomment : Lexes ('/' :: '/' :: " Generated by declc. Edit the source declarations instead.".toList)
        [(.comment, (writtenFile g markerModule).heading)] ('\n' :: rest) :=
      lexes_lineComment (by decide)
    rw [htext]
    exact hcomment.append lexes_feed
  have htext : (file g markerModule).toList = (line 0 (writtenFile g markerModule).heading).toList ++
      ((importLine g markerModule).toList ++
        ((String.join (List.zipWith interfaceText (namesOf g) ((parts g).map Prod.fst))).toList ++
          (stubs g).toList)) := by
    simp only [file, String.toList_append, List.append_assoc, map_fst_parts]
    rfl
  refine Lexes.scan ?_
  rw [htext]
  exact (hheading _).append <| (lexes_importLine g markerModule).append <|
    (lexes_interfaces (isIdentifier_of_mem_namesOf h) (sound_of_mem_parts h)).append
      (lexes_stubs markerModule h)

end ServiceGraph.Emission
