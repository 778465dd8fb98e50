import ServiceGraph.Emission.File
import ServiceGraph.Proofs.Emission.Closers
import ServiceGraph.Proofs.Emission.Tags

/-!
The comments of an emitted file.

A file is written piece by piece (`Emission.filePieces`): some pieces are comments, each with what it says, the
others are code. Put one after another the pieces are the file (`Emission.spell_filePieces`). So a statement about
every comment of a file is one about the comments among its pieces.

A comment has an end inside it exactly if its default value brings one along (`DocComment.closed_iff`): descriptions
and patterns are broken up, numbers have no such characters, and formats come from comments themselves.
-/

namespace ServiceGraph

namespace Emission

/-! ## 1. Pieces -/

/-- What a comment says: a description, constraints, a default value and whether the field is deprecated. -/
structure DocComment where
  level : Nat
  description? : Option String
  constraints : Constraints
  default? : Option Json
  isDeprecated : Bool

namespace DocComment

/-- The tags, line by line. -/
def tags (d : DocComment) : List String :=
  constraintTags d.constraints ++ (d.default?.map fun v => "@default " ++ v.compact).toList
    ++ (if d.isDeprecated then ["@deprecated"] else [])

/-- The comment as it is written, with the end of its last line; nothing if it says nothing. -/
def text (d : DocComment) : String := describe d.level d.description? d.tags

end DocComment

/-- A piece of a file. -/
inductive Piece
  | code (text : String)
  | comment (d : DocComment)

namespace Piece

def text : Piece → String
  | .code text => text
  | .comment d => d.text

def comment? : Piece → Option DocComment
  | .code _ => none
  | .comment d => some d

end Piece

/-- The text of pieces. -/
def spell (ps : List Piece) : String := String.join (ps.map Piece.text)

/-- The comments among pieces. -/
def comments (ps : List Piece) : List DocComment := ps.filterMap Piece.comment?

@[simp] theorem spell_nil : spell [] = "" := rfl

@[simp] theorem spell_cons (p : Piece) (ps : List Piece) : spell (p :: ps) = p.text ++ spell ps := by
  simp [spell]

@[simp] theorem spell_append (ps qs : List Piece) : spell (ps ++ qs) = spell ps ++ spell qs := by
  simp [spell]

@[simp] theorem comments_append (ps qs : List Piece) : comments (ps ++ qs) = comments ps ++ comments qs :=
  List.filterMap_append

/-! ## 2. Files in pieces -/

/-- The blanks in front of a line. -/
def margin (level : Nat) : String := String.ofList (List.replicate (2 * level) ' ')

mutual

/-- The pieces of a type. -/
def typePieces (level : Nat) : Schema → List Piece
  | .list items _ => .code "Array<" :: (typePieces level items ++ [.code ">"])
  | .object fields =>
    if fields.isEmpty then [.code "\x7b\x7d"]
    else .code "\x7b\n" :: (fieldPieces (level + 1) fields ++ [.code (margin level ++ "\x7d")])
  | s => [.code (type level s)]

/-- The pieces of the fields of an object. -/
def fieldPieces (level : Nat) : List (SchemaFieldOf Schema) → List Piece
  | [] => []
  | ⟨name, schema, isRequired, description?, default?, isDeprecated⟩ :: rest =>
    let mark := if isRequired then ": " else "?: "
    .comment ⟨level, description?, schema.constraints, default?, isDeprecated⟩
      :: .code (margin level ++ (property name ++ mark))
      :: (typePieces level schema ++ (.code ";\n" :: fieldPieces level rest))

end

/-- The pieces of a field of an interface. -/
def typedField (name : String) (s : Schema) : List Piece :=
  .code (margin 1 ++ (name ++ ": ")) :: (typePieces 1 s ++ [.code ";\n"])

def objectPieces (name : String) (fields : List SchemaField) : List Piece :=
  if fields.isEmpty then [] else typedField name (.object fields)

def resultPieces (s : Schema) : List Piece :=
  .comment ⟨1, none, s.constraints, none, false⟩ :: typedField "result" s

def operationPieces (o : Operation) : List Piece :=
  .code (textField "name" o.name) :: (objectPieces "params" (o.params.fields?.getD [])
    ++ (o.result?.map resultPieces).getD []
    ++ [.code (String.join (o.flags.named.map fun (name, isSet) => flag name isSet))])

def promptPieces (p : Prompt) : List Piece :=
  .code (textField "name" p.name) :: (objectPieces "args" p.arguments
    ++ [.code (match p.content with
      | .template text => textField "template" text
      | .dynamic => flag "dynamic" true)])

/-- The interfaces of a graph, each with the pieces of what stands between its braces. -/
def outlines (g : Graph) : List (Interface × List Piece) :=
  let plain := fun (i : Interface) => (i, [Piece.code i.body])
  (g.service?.map fun s => plain (service s)).toList
    ++ g.operations.map (fun o => (operation o, operationPieces o))
    ++ g.prompts.map (fun p => (prompt p, promptPieces p))
    ++ g.resources.map (fun r => plain (resource r)) ++ g.groups.map fun x => plain (group x)

def interfacePieces (name : String) (i : Interface × List Piece) : List Piece :=
  let safe? := i.1.description?.filter isCommentSafe
  let unsafe? := i.1.description?.filter (!isCommentSafe ·)
  .code "\n" :: .comment ⟨0, safe?, .none, none, false⟩
    :: .code (line 0 s!"interface {name} extends {i.1.marker} \x7b"
      ++ ((unsafe?.map (textField "description")).getD ""))
    :: (i.2 ++ [.code (line 0 "\x7d")])

/-- The pieces of a file. -/
def filePieces (g : Graph) (markerModule : String) : List Piece :=
  let names := interfaceNames reservedNames ((interfaces g).map (·.stem))
  .code (line 0 "// Generated by declc. Edit the source declarations instead." ++ importLine g markerModule)
    :: ((List.zipWith interfacePieces names (outlines g)).flatten ++ [.code (stubs g)])

/-! ## 3. The pieces are the file -/

theorem fieldLines_isEmpty (level : Nat) (fields : List SchemaField) :
    (fieldLines level fields).isEmpty = fields.isEmpty := by
  cases fields with
  | nil => rfl
  | cons f rest => simp [fieldLines, line, String.isEmpty_eq_false_iff]

mutual

theorem spell_typePieces (level : Nat) (s : Schema) : spell (typePieces level s) = type level s := by
  cases s with
  | leaf kind c => simp [typePieces, Piece.text]
  | enumeration values => simp [typePieces, Piece.text]
  | unsupported reason => simp [typePieces, Piece.text]
  | list items c => simp [typePieces, type, Piece.text, spell_typePieces level items, String.append_assoc]
  | object fields =>
    rw [typePieces, type, objectType, fieldLines_isEmpty]
    split
    · simp [Piece.text]
    · simp [Piece.text, spell_fieldPieces (level + 1) fields, margin, String.append_assoc]

theorem spell_fieldPieces (level : Nat) (fields : List (SchemaFieldOf Schema)) :
    spell (fieldPieces level fields) = fieldLines level fields := by
  match fields with
  | [] => rfl
  | ⟨name, schema, isRequired, description?, default?, isDeprecated⟩ :: rest =>
    simp [fieldPieces, fieldLines, Piece.text, spell_typePieces level schema, spell_fieldPieces level rest,
      DocComment.text, DocComment.tags, fieldTags, schemaTags_eq, line, margin, String.append_assoc]

end

theorem spell_typedField (name : String) (s : Schema) :
    spell (typedField name s) = field name (type 1 s) := by
  simp [typedField, field, line, Piece.text, spell_typePieces, margin, String.append_assoc]

theorem spell_objectPieces (name : String) (fields : List SchemaField) :
    spell (objectPieces name fields) = objectField name fields := by
  unfold objectPieces objectField
  split
  · rfl
  · exact spell_typedField name _

theorem spell_resultPieces (s : Schema) : spell (resultPieces s) = result s := by
  simp [resultPieces, result, Piece.text, DocComment.text, DocComment.tags, schemaTags_eq, spell_typedField]

/-- The pieces of an interface's body are its body. -/
theorem spell_of_mem_outlines (g : Graph) : ∀ i ∈ outlines g, spell i.2 = i.1.body := by
  have hplain : ∀ i : Interface, spell [.code i.body] = i.body := fun i => by simp [Piece.text]
  intro i hi
  simp only [outlines, List.mem_append, Option.mem_toList, List.mem_map,
    Option.map_eq_some_iff] at hi
  obtain (((⟨s, -, rfl⟩ | ⟨o, -, rfl⟩) | ⟨p, -, rfl⟩) | ⟨r, -, rfl⟩) | ⟨x, -, rfl⟩ := hi
  · exact hplain _
  · cases hresult : o.result? <;>
      simp [operationPieces, operation, Piece.text, spell_objectPieces, spell_resultPieces, hresult,
        String.append_assoc]
  · cases hcontent : p.content <;>
      simp [promptPieces, prompt, Piece.text, spell_objectPieces, hcontent, String.append_assoc]
  · exact hplain _
  · exact hplain _

theorem map_fst_outlines (g : Graph) : (outlines g).map (·.1) = interfaces g := by
  unfold outlines interfaces
  cases g.service? <;> simp [Function.comp_def]

theorem spell_interfacePieces (name : String) {i : Interface × List Piece} (h : spell i.2 = i.1.body) :
    spell (interfacePieces name i) = interfaceText name i.1 := by
  have hnone : constraintTags .none = [] := rfl
  simp [interfacePieces, interfaceText, Piece.text, DocComment.text, DocComment.tags, hnone, h,
    String.append_assoc]

theorem spell_zipWith : ∀ (names : List String) {is : List (Interface × List Piece)},
    (∀ i ∈ is, spell i.2 = i.1.body) →
    spell (List.zipWith interfacePieces names is).flatten =
      String.join (List.zipWith interfaceText names (is.map (·.1)))
  | [], _, _ => rfl
  | _ :: _, [], _ => rfl
  | name :: names, i :: is, h => by
      rw [List.forall_mem_cons] at h
      simp [spell_interfacePieces name h.1, spell_zipWith names h.2]

/-- **The pieces of a file are the file.** -/
theorem spell_filePieces (g : Graph) (markerModule : String) :
    spell (filePieces g markerModule) = file g markerModule := by
  unfold filePieces file
  dsimp only
  simp [Piece.text, spell_zipWith _ (spell_of_mem_outlines g), map_fst_outlines, String.append_assoc]

/-! ## 4. What comments are about -/

@[simp] theorem comments_nil : comments [] = [] := rfl

@[simp] theorem comments_code (text : String) (ps : List Piece) : comments (.code text :: ps) = comments ps := rfl

@[simp] theorem comments_comment (d : DocComment) (ps : List Piece) :
    comments (.comment d :: ps) = d :: comments ps := rfl

/-- A comment has the constraints of a node of a schema. -/
def DocComment.IsAbout (d : DocComment) (s : Schema) : Prop :=
  ∃ n, Schema.IsNode n s ∧ d.constraints = n.constraints

mutual

theorem isAbout_of_mem_typePieces (level : Nat) (s : Schema) :
    ∀ d ∈ comments (typePieces level s), d.IsAbout s := by
  cases s with
  | leaf kind c => simp [typePieces]
  | enumeration values => simp [typePieces]
  | unsupported reason => simp [typePieces]
  | list items c =>
    intro d hd
    obtain ⟨n, hn, heq⟩ := isAbout_of_mem_typePieces level items d (by simpa [typePieces] using hd)
    exact ⟨n, .item hn, heq⟩
  | object fields =>
    intro d hd
    have hd : d ∈ comments (fieldPieces (level + 1) fields) := by
      rw [typePieces] at hd
      split at hd
      · simp at hd
      · simpa using hd
    obtain ⟨f, hf, n, hn, heq⟩ := isAbout_of_mem_fieldPieces (level + 1) fields d hd
    exact ⟨n, .field hf hn, heq⟩

theorem isAbout_of_mem_fieldPieces (level : Nat) (fields : List (SchemaFieldOf Schema)) :
    ∀ d ∈ comments (fieldPieces level fields), ∃ f ∈ fields, d.IsAbout f.schema := by
  match fields with
  | [] => simp [fieldPieces]
  | ⟨name, schema, isRequired, description?, default?, isDeprecated⟩ :: rest =>
    intro d hd
    simp only [fieldPieces, comments_comment, comments_code, comments_append, List.mem_cons,
      List.mem_append] at hd
    rcases hd with rfl | hd | hd
    · exact ⟨_, List.mem_cons_self, schema, .self, rfl⟩
    · exact ⟨_, List.mem_cons_self, isAbout_of_mem_typePieces level schema d hd⟩
    · obtain ⟨f, hf, h⟩ := isAbout_of_mem_fieldPieces level rest d hd
      exact ⟨f, List.mem_cons_of_mem _ hf, h⟩

end

theorem isAbout_of_mem_typedField (name : String) (s : Schema) :
    ∀ d ∈ comments (typedField name s), d.IsAbout s := fun d hd =>
  isAbout_of_mem_typePieces 1 s d (by simpa [typedField] using hd)

theorem isAbout_of_mem_objectPieces (name : String) (fields : List SchemaField) :
    ∀ d ∈ comments (objectPieces name fields), fields ≠ [] ∧ d.IsAbout (.object fields) := by
  intro d hd
  unfold objectPieces at hd
  split at hd
  · simp at hd
  · rename_i hne
    exact ⟨by simpa using hne, isAbout_of_mem_typedField name _ d hd⟩

theorem isAbout_of_mem_resultPieces (s : Schema) : ∀ d ∈ comments (resultPieces s), d.IsAbout s := by
  intro d hd
  rw [resultPieces, comments_comment] at hd
  rcases List.mem_cons.mp hd with rfl | hd
  · exact ⟨s, .self, rfl⟩
  · exact isAbout_of_mem_typedField _ s d hd

theorem isAbout_of_mem_operationPieces (o : Operation) :
    ∀ d ∈ comments (operationPieces o), ∃ root ∈ o.roots, d.IsAbout root := by
  intro d hd
  simp only [operationPieces, comments_code, comments_append, comments_nil, List.append_nil,
    List.mem_append] at hd
  rcases hd with hd | hd
  · obtain ⟨hne, h⟩ := isAbout_of_mem_objectPieces _ _ d hd
    refine ⟨o.params, List.mem_cons_self, ?_⟩
    cases hparams : o.params with
    | object fields =>
      rw [hparams] at h
      exact h
    | _ => simp [hparams, Schema.fields?] at hne
  · cases hresult : o.result? with
    | none => simp [hresult] at hd
    | some s =>
      rw [hresult] at hd
      exact ⟨s, by simp [Operation.roots, hresult], isAbout_of_mem_resultPieces s d hd⟩

/-- The comments between the braces of an interface are about schemas of the graph. -/
theorem isAbout_of_mem_outlines (g : Graph) :
    ∀ i ∈ outlines g, ∀ d ∈ comments i.2, ∃ root ∈ g.roots, d.IsAbout root := by
  intro i hi d hd
  simp only [outlines, List.mem_append, Option.mem_toList, List.mem_map, Option.map_eq_some_iff] at hi
  obtain (((⟨s, -, rfl⟩ | ⟨o, ho, rfl⟩) | ⟨p, hp, rfl⟩) | ⟨r, -, rfl⟩) | ⟨x, -, rfl⟩ := hi
  · simp at hd
  · obtain ⟨root, hroot, h⟩ := isAbout_of_mem_operationPieces o d hd
    exact ⟨root, List.mem_append_left _ (List.mem_flatMap.mpr ⟨o, ho, hroot⟩), h⟩
  · simp only [promptPieces, comments_code, comments_append, comments_nil, List.append_nil] at hd
    refine ⟨.object p.arguments, ?_, (isAbout_of_mem_objectPieces _ _ d hd).2⟩
    exact List.mem_append_right _ (List.mem_flatMap.mpr ⟨p, hp, List.mem_cons_self⟩)
  · simp at hd
  · simp at hd

theorem exists_of_mem_zipWith {d : DocComment} : ∀ (names : List String) {is : List (Interface × List Piece)},
    d ∈ comments (List.zipWith interfacePieces names is).flatten →
      ∃ name, ∃ i ∈ is, d ∈ comments (interfacePieces name i)
  | [], _, h => by cases h
  | _ :: _, [], h => by cases h
  | name :: names, i :: is, h => by
      rw [List.zipWith_cons_cons, List.flatten_cons, comments_append, List.mem_append] at h
      rcases h with h | h
      · exact ⟨name, i, List.mem_cons_self, h⟩
      · obtain ⟨other, j, hj, hd⟩ := exists_of_mem_zipWith names h
        exact ⟨other, j, List.mem_cons_of_mem _ hj, hd⟩

/-- **A comment has no constraints, or those of a node of the graph.** -/
theorem constraints_of_mem_comments (g : Graph) (markerModule : String) :
    ∀ d ∈ comments (filePieces g markerModule),
      d.constraints = .none ∨ ∃ n, g.HasNode n ∧ d.constraints = n.constraints := by
  intro d hd
  simp only [filePieces, comments_code, comments_append, comments_nil, List.append_nil] at hd
  obtain ⟨name, i, hi, hd⟩ := exists_of_mem_zipWith _ hd
  simp only [interfacePieces, comments_comment, comments_code, comments_append, comments_nil,
    List.append_nil, List.mem_cons] at hd
  rcases hd with rfl | hd
  · exact .inl rfl
  · obtain ⟨root, hroot, n, hn, heq⟩ := isAbout_of_mem_outlines g i hi d hd
    exact .inr ⟨n, ⟨root, hroot, hn⟩, heq⟩

/-! ## 5. Where comments end -/

/-- An end of a comment in a text stands at its end, before the end of the line. -/
def DocComment.Closed (d : DocComment) : Prop :=
  ∀ front back, d.text.toList = front ++ '*' :: '/' :: back → back = ['\n']

theorem hasCloser_descriptionLine (line : List Char) : hasCloser (descriptionLine line) = false := by
  unfold descriptionLine
  dsimp only
  split
  · rw [hasCloser_cons (by decide)]
    exact hasCloser_of_isInfix (List.dropWhile_suffix _).isInfix (hasCloser_breakClosers line)
  · exact hasCloser_breakClosers line

/-- The name of a tag brings no end of a comment along. -/
theorem hasCloser_tag (name : String) {lead : String} (hlead : lead.toList = name.toList ++ [' '])
    (hname : hasCloser name.toList = false) (value : String) :
    hasCloser (lead ++ value).toList = hasCloser value.toList := by
  rw [String.toList_append, hlead, List.append_assoc, List.singleton_append,
    hasCloser_append_cons (by decide) (by decide), hname, Bool.false_or]

theorem hasCloser_of_ink {s : List Char} (h : s.all Text.isInk = true) : hasCloser s = false :=
  Annotation.closer_of_slash fun hmem => (Text.isInk_iff.mp (List.all_eq_true.mp h _ hmem)).2 rfl

/-- The tags of constraints bring an end of a comment along only in a format. -/
theorem hasCloser_of_mem_constraintTags {c : Constraints} (h : ∀ f ∈ c.format?, hasCloser f.toList = false) :
    ∀ l ∈ constraintTags c, hasCloser l.toList = false := by
  intro l hl
  simp only [constraintTags, List.mem_append, Option.mem_toList, Option.map_eq_some_iff] at hl
  obtain (((((⟨x, -, rfl⟩ | ⟨x, -, rfl⟩) | ⟨n, -, rfl⟩) | ⟨n, -, rfl⟩) | ⟨p, -, rfl⟩) | ⟨f, hf, rfl⟩) := hl
  · exact (hasCloser_tag "@min" rfl (by decide) _).trans (hasCloser_of_ink (Decimal.ink_text _ x))
  · exact (hasCloser_tag "@max" rfl (by decide) _).trans (hasCloser_of_ink (Decimal.ink_text _ x))
  · exact (hasCloser_tag "@minLength" rfl (by decide) _).trans (hasCloser_of_ink (ink_of_nat n))
  · exact (hasCloser_tag "@maxLength" rfl (by decide) _).trans (hasCloser_of_ink (ink_of_nat n))
  · rw [hasCloser_tag "@pattern" rfl (by decide), String.toList_ofList]
    exact hasCloser_breakClosers p.toList
  · exact (hasCloser_tag "@format" rfl (by decide) _).trans (h f hf)

/-- A line is followed by the end of its comment. -/
theorem exists_back_of_mem (level : Nat) {lines : List String} {l : String} (h : l ∈ lines) :
    ∃ front back, (comment level lines).toList = front ++ (l.toList ++ back) ∧ 2 ≤ back.length := by
  rw [toList_comment]
  match lines with
  | [] => cases h
  | [single] =>
    obtain rfl := List.mem_singleton.mp h
    exact ⟨blanks level ++ ['/', '*', '*', ' '], [' ', '*', '/', '\n'], by simp [commentText], by simp⟩
  | first :: second :: rest =>
    obtain ⟨before, behind, hsplit⟩ := List.append_of_mem h
    have hstarred : ∃ lead, starredLine level l = lead ++ l.toList := by
      unfold starredLine
      split
      · rename_i hempty
        exact ⟨_, by rw [String.isEmpty_iff.mp hempty]; simp; rfl⟩
      · exact ⟨blanks level ++ [' ', '*', ' '], by simp⟩
    obtain ⟨lead, hlead⟩ := hstarred
    refine ⟨blanks level ++ '/' :: '*' :: '*' :: '\n' ::
        (before.flatMap (fun l => starredLine level l ++ ['\n']) ++ lead),
      '\n' :: (behind.flatMap (fun l => starredLine level l ++ ['\n']) ++ (blanks level ++ [' ', '*', '/', '\n'])),
      ?_, by simp; omega⟩
    have htext : commentText level (first :: second :: rest) = some ('/' :: '*' :: '*' :: '\n' ::
        ((first :: second :: rest).flatMap (fun l => starredLine level l ++ ['\n']) ++
          (blanks level ++ [' ', '*', '/']))) := rfl
    rw [htext, hsplit, Option.map_some, Option.getD_some, List.flatMap_append, List.flatMap_cons, hlead]
    simp

theorem exists_of_hasCloser {s : List Char} (h : hasCloser s = true) :
    ∃ front back, s = front ++ '*' :: '/' :: back := by
  fun_induction hasCloser s with
  | case1 rest => exact ⟨[], rest, rfl⟩
  | case2 c rest _ ih =>
    obtain ⟨front, back, rfl⟩ := ih h
    exact ⟨c :: front, back, rfl⟩
  | case3 => cases h

/-- Behind a text without an end of a comment, the first end is the one that is written there. -/
theorem eq_feed_of_split {s front back : List Char} (hs : hasCloser (s ++ ['*']) = false)
    (h : s ++ ['*', '/', '\n'] = front ++ '*' :: '/' :: back) : back = ['\n'] := by
  rcases List.append_eq_append_iff.mp h with ⟨a, rfl, ha⟩ | ⟨a, rfl, ha⟩
  · -- The end that was found begins with the one that is written, or inside it.
    match a with
    | [] => simpa using ha.symm
    | [_] => simp at ha
    | [_, _] => simp at ha
    | [_, _, _] => simp at ha
    | _ :: _ :: _ :: _ :: _ => simp at ha
  · match a with
    | [] => simpa using ha
    | [_] => simp at ha
    | c :: d :: a =>
      simp only [List.cons_append, List.cons.injEq] at ha
      obtain ⟨rfl, rfl, -⟩ := ha
      rw [List.append_assoc, hasCloser_append front (.inr rfl)] at hs
      cases hs

/-- A comment none of whose lines ends it has one end. -/
theorem eq_feed_of_closer {level : Nat} {lines : List String} (hlines : ∀ l ∈ lines, hasCloser l.toList = false)
    {front back : List Char} (h : (comment level lines).toList = front ++ '*' :: '/' :: back) :
    back = ['\n'] := by
  rw [toList_comment] at h
  cases htext : commentText level lines with
  | none => simp [htext] at h
  | some text =>
    obtain ⟨body, rfl, hbody⟩ := commentText_eq_some hlines htext
    have hfront : hasCloser (blanks level ++ '/' :: '*' :: '*' :: (body ++ ['*'])) = false := by
      rw [blanks, hasCloser_blanks, hasCloser_cons (by decide), hasCloser_star (by simp)]
      exact hbody
    rw [htext, Option.map_some, Option.getD_some] at h
    have hsplit : blanks level ++ ('/' :: '*' :: '*' :: (body ++ ['*', '/']) ++ ['\n']) =
        blanks level ++ '/' :: '*' :: '*' :: body ++ ['*', '/', '\n'] := by simp
    refine eq_feed_of_split ?_ (hsplit ▸ h)
    simpa using hfront

/-- **A comment ends early exactly if its default value ends it.** -/
theorem DocComment.closed_iff {d : DocComment} (hformat : ∀ f ∈ d.constraints.format?, hasCloser f.toList = false) :
    d.Closed ↔ ∀ v ∈ d.default?, hasCloser v.compact.toList = false := by
  have hdefault : ∀ v : Json, hasCloser ("@default " ++ v.compact).toList = hasCloser v.compact.toList :=
    fun v => hasCloser_tag "@default" rfl (by decide) _
  constructor
  · intro hclosed v hv
    by_contra hcloser
    rw [Bool.not_eq_false] at hcloser
    obtain ⟨a, b, hab⟩ := exists_of_hasCloser ((hdefault v).trans hcloser)
    have hmem : "@default " ++ v.compact ∈ (d.description?.map descriptionLines).getD [] ++ d.tags := by
      refine List.mem_append_right _ (List.mem_append_left _ (List.mem_append_right _ ?_))
      exact Option.mem_toList.mpr (Option.mem_map.mpr ⟨v, hv, rfl⟩)
    obtain ⟨front, back, heq, hlength⟩ := exists_back_of_mem d.level hmem
    have hback := hclosed (front ++ a) (b ++ back) (by
      rw [DocComment.text, describe, heq, hab]
      simp)
    have := congrArg List.length hback
    simp only [List.length_append, List.length_singleton] at this
    omega
  · intro hvalues front back h
    refine eq_feed_of_closer (fun l hl => ?_) h
    rcases List.mem_append.mp hl with hl | hl
    · cases hdescription : d.description? with
      | none => simp [hdescription] at hl
      | some description =>
        rw [hdescription] at hl
        obtain ⟨line, -, rfl⟩ := List.mem_map.mp hl
        rw [String.toList_ofList]
        exact hasCloser_descriptionLine line
    · rcases List.mem_append.mp hl with hl | hl
      · rcases List.mem_append.mp hl with hl | hl
        · exact hasCloser_of_mem_constraintTags hformat l hl
        · obtain ⟨v, hv, rfl⟩ := Option.mem_map.mp (Option.mem_toList.mp hl)
          exact (hdefault v).trans (hvalues v hv)
      · split at hl
        · obtain rfl := List.mem_singleton.mp hl
          decide
        · cases hl

/-- The comments of a file end where they are written to end, unless a default value ends them. -/
structure Guarded (g : Graph) (markerModule : String) : Prop where
  spelled : spell (filePieces g markerModule) = file g markerModule
  closed : ∀ d ∈ comments (filePieces g markerModule),
    d.Closed ↔ ∀ v ∈ d.default?, hasCloser v.compact.toList = false

end Emission

open Emission Syntax

namespace Sample

/-- The escape in the default value is read, and the value holds the end of a comment. -/
def noteText : String :=
  "interface Note extends Tool \x7b name: \"note\"; params: \x7b /** @default \"*\\/\" */ text?: string \x7d \x7d"

/-- Whether a file is what that text says, wherever its parts stand. -/
def isNote : SourceFile → Bool
  | ⟨[.shape ⟨shape, .interface, [.reference _ base []], .object _
      [⟨first, false, false, some (.literal _ (.string name)), none, _⟩,
       ⟨second, false, false, some (.object _ [⟨field, true, false, some (.keyword _ type), some ⟨doc, _⟩, _⟩] []),
        none, _⟩] [], none, false, _, _⟩], []⟩ =>
    shape == "Note" && base == "Tool" && first == "name" && name == "note" && second == "params" &&
      field == "text" && type == "string" && doc == "/** @default \"*\\/\" */"
  | _ => false

theorem isNote_noteText : isNote (SourceFile.read noteText) = true := by decide +kernel

def noteGraph : Graph where
  service? := none
  operations := [⟨"note", none, .object [⟨"text", .plain .string, false, none, some (.string "*/"), false⟩], none,
    .none, none⟩]
  prompts := []
  resources := []
  groups := []

set_option maxRecDepth 10000 in
theorem graph_of_isNote {f : SourceFile} (h : isNote f = true) : (Analysis.ofFile f).graph = noteGraph := by
  unfold isNote at h
  split at h
  · simp only [Bool.and_eq_true, beq_iff_eq] at h
    obtain ⟨⟨⟨⟨⟨⟨⟨rfl, rfl⟩, rfl⟩, rfl⟩, rfl⟩, rfl⟩, rfl⟩, rfl⟩ := h
    cbv
  · cases h

theorem comments_noteGraph : comments (filePieces noteGraph defaultMarkerModule) =
    [⟨0, none, .none, none, false⟩, ⟨2, none, .none, some (.string "*/"), false⟩] := by
  have hnames : interfaceNames reservedNames ((interfaces noteGraph).map (·.stem)) = ["NoteTool"] := by
    decide +kernel
  simp only [filePieces, hnames]
  simp [outlines, noteGraph, interfacePieces, operationPieces, objectPieces, typedField, typePieces, fieldPieces,
    Schema.fields?, operation, Schema.plain, Schema.constraints]

end Sample

end ServiceGraph
