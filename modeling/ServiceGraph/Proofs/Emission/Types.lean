import ServiceGraph.Emission.Type
import ServiceGraph.Proofs.Emission.Writable
import ServiceGraph.Proofs.Syntax.Written

/-!
The text of a schema is that of a written type (`Emission.lexes_type`), and that type can be read back
(`Emission.sound_written`).
-/

namespace ServiceGraph.Emission

open Syntax Token Written Schema

/-! ## 1. Schemas as written types -/

/-- The comment of a field, as far as there is something to say. -/
def fieldComment? (level : Nat) (f : SchemaField) : Option String :=
  (commentText level (noteLines f.description? f.schema f.default? f.isDeprecated)).map String.ofList

mutual

/-- The type for a schema, on a line that is `level` deep. -/
def written (level : Nat) : Schema → Written
  | .leaf kind _ => .word (leafType kind)
  | .enumeration [] => .word "never"
  | .enumeration [value] => .text value
  | .enumeration (first :: second :: others) => .choice first second others
  | .list items _ => .list (written level items)
  | .object fields => .object true (writtenFields (level + 1) fields)
  | .unsupported _ => .word "unknown"

def writtenFields (level : Nat) : List (SchemaFieldOf Schema) → List WrittenField
  | [] => []
  | ⟨name, schema, isRequired, description?, default?, isDeprecated⟩ :: rest =>
    ⟨fieldComment? level ⟨name, schema, isRequired, description?, default?, isDeprecated⟩, name,
      !isRequired, written level schema⟩ :: writtenFields level rest

end

/-! ## 2. Pieces of lines -/

variable {tail : List Char}

/-- What an identifier consists of can stand in a name. -/
theorem isNamePart_of_template {c : Char} (h : Template.isNamePart c = true) :
    isNamePart c = true ∧ (Template.isNameStart c = true → isNameStart c = true) := by
  have hascii : c.toNat < 128 := by
    have hvisible : Text.isVisible c = true := by
      simp only [Template.isNamePart, Template.isNameStart, Bool.or_eq_true, decide_eq_true_eq] at h
      rcases h with ((h | rfl) | rfl) | h
      · exact ( Annotation.isVisible_of_isAlpha h).1
      · decide
      · decide
      · exact Json.isVisible_of_isDigit h
    simp only [Text.isVisible, Bool.and_eq_true, decide_eq_true_eq] at hvisible
    omega
  revert h
  exact Naming.of_ascii c hascii (by decide)

theorem isName_of_isIdentifier {name : String} (h : isIdentifier name = true) :
    isName name.toList = true := by
  unfold isIdentifier at h
  split at h
  · rename_i first rest heq
    simp only [Bool.and_eq_true, List.all_eq_true] at h
    have hfirst : Template.isNamePart first = true := by simp [Template.isNamePart, h.1]
    rw [heq, isName, (isNamePart_of_template hfirst).2 h.1, Bool.true_and, List.all_eq_true]
    exact fun c hc => (isNamePart_of_template (h.2 c hc)).1
  · cases h

theorem lexes_property (name : String) (h : Breaks tail) :
    Lexes (property name).toList [Written.property name] tail := by
  unfold property Written.property
  split
  · rename_i hname
    have hlexes := lexes_name (isName_of_isIdentifier hname) h
    rwa [String.ofList_toList] at hlexes
  · exact lexes_quote name

theorem lexes_word (word : String) (h : isIdentifier word = true) (hbreaks : Breaks tail) :
    Lexes word.toList [(.name, word)] tail := by
  have hlexes := lexes_name (isName_of_isIdentifier h) hbreaks
  rwa [String.ofList_toList] at hlexes

/-- The mark between the name of a field and its type. -/
theorem lexes_mark (isRequired : Bool) :
    Lexes (if isRequired then ": " else "?: " : String).toList
      ((if !isRequired then [sign "?"] else []) ++ [sign ":"]) tail := by
  have hcolon : Lexes (": " : String).toList [sign ":"] tail :=
    (lexes_punctuation (c := ':') (by decide)).append (lexes_blank (c := ' ') (by decide))
  cases isRequired with
  | true => exact hcolon
  | false => exact (lexes_operator (c := '?') (by decide) (by decide)).append hcolon

theorem lexes_quotes : ∀ (first : String) (others : List String),
    Lexes (" | ".intercalate ((first :: others).map Text.quote)).toList
      (quoted first :: alternatives others) tail
  | first, [] => by
      rw [List.map_singleton, String.intercalate_singleton]
      exact lexes_quote first
  | first, next :: others => by
      rw [List.map_cons, List.map_cons, String.intercalate_cons_cons, String.toList_append,
        String.toList_append, List.append_assoc]
      have hbar : ∀ rest : List Char, Lexes (" | " : String).toList [sign "|"] rest := fun rest =>
        (lexes_blank (c := ' ') (by decide)).append <|
          (lexes_operator (c := '|') (d := ' ') (by decide) (by decide)).append
            (lexes_blank (c := ' ') (by decide))
      exact (lexes_quote first).append ((hbar _).append (lexes_quotes next others))

/-! ## 3. Types -/

theorem isIdentifier_leafType (kind : LeafKind) : isIdentifier (leafType kind) = true := by
  cases kind <;> decide

theorem isEmpty_fieldLines (level : Nat) (f : SchemaField) (rest : List SchemaField) :
    (fieldLines level (f :: rest)).isEmpty = false := by
  have hline : (line level (property f.name ++ (if f.isRequired then ": " else "?: ") ++
      type level f.schema ++ ";")).toList ≠ [] := by
    simp [toList_line]
  unfold fieldLines
  rw [Bool.eq_false_iff, ne_eq, String.isEmpty_iff]
  intro hempty
  have hlist := congrArg String.toList hempty
  rw [String.toList_append, String.toList_append] at hlist
  exact hline (List.append_eq_nil_iff.mp (List.append_eq_nil_iff.mp hlist).1).2

/-- Whether a text starts with nothing that an operator could go on with. -/
def startsApart (s : List Char) : Bool := 
  s.head?.any fun c => !(['?', '-', '|', '<', '=', '.'].contains c)

theorem startsApart_append {s : List Char} (h : startsApart s = true) (t : List Char) :
    startsApart (s ++ t) = true := by
  cases s with
  | nil => cases h
  | cons c s => exact h

theorem startsApart_quote (text : String) : startsApart (Text.quote text).toList = true := by
  rw [startsApart, TypeReader.head_quote]
  decide

theorem startsApart_type (level : Nat) (s : Schema) : startsApart (type level s).toList = true := by
  cases s with
  | leaf kind c =>
    unfold type
    cases kind <;> decide
  | enumeration values =>
    unfold type enumeration
    match values with
    | [] => decide
    | [value] => simpa using startsApart_quote value
    | first :: second :: others =>
      rw [List.isEmpty_cons, if_neg (by decide), List.map_cons, List.map_cons, String.intercalate_cons_cons,
        String.toList_append, String.toList_append, List.append_assoc]
      exact startsApart_append (startsApart_quote first) _
  | list items c =>
    unfold type
    rw [String.toList_append, String.toList_append]
    rfl
  | object fields =>
    unfold type objectType
    split
    · decide
    · rw [String.toList_append, String.toList_append, String.toList_append]
      rfl
  | unsupported reason =>
    unfold type
    decide

theorem lexes_angle {s : List Char} (h : startsApart s = true) : Lexes ['<'] [sign "<"] s := by
  cases s with
  | nil => cases h
  | cons c s => exact lexes_operator (by decide) (by simpa [startsApart] using h)

mutual

/-- **The text of a schema is cut into the tokens of the written type.** -/
theorem lexes_type (level : Nat) (s : Schema) (h : s.Everywhere Writable) {tail : List Char}
    (hbreaks : Breaks tail) : Lexes (type level s).toList (written level s).tokens tail := by
  match s with
  | .leaf kind c => exact lexes_word _ (isIdentifier_leafType kind) hbreaks
  | .enumeration [] => exact absurd rfl (h.self.values [] rfl).1
  | .enumeration [value] =>
    have hvalue : type level (.enumeration [value]) = Text.quote value := by
      simp [type, enumeration]
    rw [hvalue]
    exact lexes_quote value
  | .enumeration (first :: second :: others) => exact lexes_quotes first (second :: others)
  | .list items c =>
    have hitems : Lexes (type level items).toList (written level items).tokens ('>' :: tail) :=
      lexes_type level items h.items (breaks_cons (by decide) _)
    have hopen : Lexes ['<'] [sign "<"] (((type level items).toList ++ ['>']) ++ tail) :=
      lexes_angle (startsApart_append (startsApart_append (startsApart_type level items) _) _)
    have hall := (lexes_word "Array" (by decide) (breaks_cons (c := '<') (by decide) _)).append <|
      hopen.append (hitems.append (lexes_punctuation (c := '>') (by decide)))
    have htext : (type level (.list items c)).toList =
        "Array".toList ++ (['<'] ++ ((type level items).toList ++ ['>'])) := by
      simp [type]
    rw [htext]
    exact hall
  | .object [] =>
    have htext : (type level (.object [])).toList = ['\x7b'] ++ ['\x7d'] := by
      simp [type, objectType, fieldLines]
    rw [htext]
    exact (lexes_punctuation (c := '\x7b') (by decide)).append (lexes_punctuation (c := '\x7d') (by decide))
  | .object (f :: rest) =>
    have htext : (type level (.object (f :: rest))).toList = ['\x7b'] ++ (['\n'] ++
        ((fieldLines (level + 1) (f :: rest)).toList ++ (blanks level ++ ['\x7d']))) := by
      unfold type objectType
      rw [isEmpty_fieldLines]
      simp [blanks]
    rw [htext]
    exact (lexes_punctuation (c := '\x7b') (by decide)).append <| (lexes_blank (c := '\n') (by decide)).append <|
      (lexes_fieldLines (level + 1) (f :: rest) h.fieldsWritable).append <|
      (lexes_blanks level).append (lexes_punctuation (c := '\x7d') (by decide))
  | .unsupported reason => exact absurd rfl (h.self.supported reason)

/-- The lines of an object's fields. -/
theorem lexes_fieldLines (level : Nat) (fields : List SchemaField) (h : FieldsWritable fields)
    {tail : List Char} :
    Lexes (fieldLines level fields).toList (fieldTokens true (writtenFields level fields)) tail := by
  match fields with
  | [] => exact lexes_nil
  | ⟨name, schema, isRequired, description?, default?, isDeprecated⟩ :: rest =>
    have htype : Lexes (type level schema).toList (written level schema).tokens
        (';' :: '\n' :: ((fieldLines level rest).toList ++ tail)) :=
      lexes_type level schema h.head.2 (breaks_cons (by decide) _)
    have htext : (fieldLines level (⟨name, schema, isRequired, description?, default?, isDeprecated⟩ :: rest)).toList =
        (comment level (noteLines description? schema default? isDeprecated)).toList ++ (blanks level ++
          ((property name).toList ++ ((if isRequired then ": " else "?: " : String).toList ++
            ((type level schema).toList ++ ([';'] ++ (['\n'] ++ (fieldLines level rest).toList)))))) := by
      simp [fieldLines, describe, noteLines, toList_line]
    rw [htext]
    have hbreak : ∀ t t' : List Char, Breaks (((if isRequired then ": " else "?: " : String).toList ++ t) ++ t') := by
      intro t t'
      cases isRequired <;> exact breaks_cons (by decide) _
    have hall := (lexes_comment level h.closer).append <| (lexes_blanks level).append <|
      (lexes_property name (hbreak _ _)).append <| (lexes_mark isRequired).append <| htype.append <|
      (lexes_punctuation (c := ';') (by decide)).append <| (lexes_blank (c := '\n') (by decide)).append <|
      lexes_fieldLines level rest h.tail
    refine (congrArg (Lexes _ · tail) ?_).mp hall
    simp [writtenFields, fieldTokens, fieldComment?]
    rfl

end

/-! ## 4. Reading the written types -/

theorem leafType_mem_words (kind : LeafKind) : leafType kind ∈ words := by
  cases kind <;> decide

/-- A written comment is a doc comment. -/
theorem isDoc_of_commentText {level : Nat} {lines : List String} (hlines : ∀ l ∈ lines, hasCloser l.toList = false) :
    ∀ comment ∈ (commentText level lines).map String.ofList, "/**".toList.isPrefixOf comment.toList = true := by
  intro comment hcomment
  obtain ⟨text, htext, rfl⟩ := Option.map_eq_some_iff.mp hcomment
  obtain ⟨body, rfl, -⟩ := commentText_eq_some hlines htext
  simp

theorem isDoc_of_fieldComment? {level : Nat} {f : SchemaField} (h : FieldWritable f)
    (hlegible : f.schema.constraints.Legible) :
    ∀ comment ∈ fieldComment? level f, "/**".toList.isPrefixOf comment.toList = true := by
  have htags := Annotation.isTagLine_of_mem_fieldTags f.isDeprecated hlegible h.default
  refine isDoc_of_commentText fun l hl => ?_
  exact ( Annotation.fits_noteLines (fun d hd => (h.description d hd).safe) htags l hl).2

mutual

/-- **The written type can be read back.** -/
theorem sound_written (level : Nat) (s : Schema) (h : s.Everywhere Writable) : (written level s).Sound := by
  match s with
  | .leaf kind c => exact leafType_mem_words kind
  | .enumeration [] => exact absurd rfl (h.self.values [] rfl).1
  | .enumeration [value] => exact (h.self.values [value] rfl).2.2 value List.mem_cons_self
  | .enumeration (first :: second :: others) => exact (h.self.values _ rfl).2.2
  | .list items c => exact sound_written level items h.items
  | .object fields => exact sound_writtenFields (level + 1) fields h.fieldsWritable
  | .unsupported reason => exact absurd rfl (h.self.supported reason)

theorem sound_writtenFields (level : Nat) (fields : List SchemaField) (h : FieldsWritable fields) :
    SoundFields (writtenFields level fields) := by
  match fields with
  | [] => trivial
  | ⟨name, schema, isRequired, description?, default?, isDeprecated⟩ :: rest =>
    exact ⟨isDoc_of_fieldComment? h.head.1 h.head.2.self.legible, h.head.1.name,
      sound_written level schema h.head.2, sound_writtenFields level rest h.tail⟩

end

end ServiceGraph.Emission
