import ServiceGraph.Proofs.Emission.Files
import ServiceGraph.Proofs.Related

/-!
The interfaces of a written graph are read back (`Emission.reads_file`): as many as there are descriptors, in their
order, each with the name, the marker, the comment and the fields that were written.
-/

namespace ServiceGraph

open Syntax Text

namespace Syntax.Written

/-! ## 1. Fields of written objects -/

/-- A field is the written one, whatever its spans are. -/
structure ReadsField (w : WrittenField) (f : Field) : Prop where
  name : f.name = w.name
  isOptional : f.isOptional = w.isOptional
  type : ∃ e, f.type? = some e ∧ w.type.Reads e
  doc : f.doc?.map (·.text) = w.comment?

theorem ReadsFields.forall₂ : ∀ {ws : List WrittenField} {fs : List Field}, ReadsFields ws fs →
    List.Forall₂ ReadsField ws fs
  | [], _, h => by
      obtain rfl := h
      exact .nil
  | ⟨_, _, _, _⟩ :: _, _, h => by
      obtain ⟨e, doc?, span, others, rfl, hdoc, htype, hmore⟩ := h
      exact .cons ⟨rfl, rfl, ⟨e, rfl, htype⟩, hdoc⟩ hmore.forall₂

/-- A field that can be read back. -/
structure SoundField (w : WrittenField) : Prop where
  comment : ∀ comment ∈ w.comment?, "/**".toList.isPrefixOf comment.toList = true
  name : IsQuotable w.name
  type : w.type.Sound

theorem soundFields_of_forall : ∀ {ws : List WrittenField}, (∀ w ∈ ws, SoundField w) → SoundFields ws
  | [], _ => trivial
  | ⟨_, _, _, _⟩ :: _, h =>
    have hfirst := h _ List.mem_cons_self
    ⟨hfirst.comment, hfirst.name, hfirst.type,
      soundFields_of_forall fun w hw => h w (List.mem_cons_of_mem _ hw)⟩

theorem soundItems_of_forall : ∀ {items : List Written}, (∀ w ∈ items, w.Sound) → SoundItems items
  | [], _ => trivial
  | _ :: _, h =>
    ⟨h _ List.mem_cons_self, soundItems_of_forall fun w hw => h w (List.mem_cons_of_mem _ hw)⟩

end Syntax.Written

namespace Emission

open Written

/-! ## 2. Descriptors -/

theorem isQuotable_of_isNamePart {c : Char} (h : Template.isNamePart c = true) : isQuotable c = true := by
  by_contra hnot
  have hcontrol : c.toNat = 8 ∨ c.toNat = 12 := by
    by_contra hne
    rw [not_or] at hne
    exact hnot (by simp [isQuotable, hne])
  rw [← Char.ofNat_toNat c] at h
  rcases hcontrol with heq | heq <;>
    · rw [heq] at h
      cases h

/-- Names need no escapes. -/
theorem isQuotable_of_isIdentifier {name : String} (h : isIdentifier name = true) : IsQuotable name := by
  intro c hc
  unfold isIdentifier at h
  split at h
  · rename_i first rest heq
    rw [heq] at hc
    rw [Bool.and_eq_true] at h
    rcases List.mem_cons.mp hc with rfl | hc
    · exact isQuotable_of_isNamePart (by simp [Template.isNamePart, h.1])
    · exact isQuotable_of_isNamePart (List.all_eq_true.mp h.2 c hc)
  · cases h

/-- A field without a comment. -/
theorem soundField_plain {name : String} {type : Written} (hname : isIdentifier name = true)
    (htype : type.Sound) : SoundField ⟨none, name, false, type⟩ :=
  ⟨by simp, isQuotable_of_isIdentifier hname, htype⟩

theorem soundField_text {name text : String} (hname : isIdentifier name = true) (htext : IsQuotable text) :
    SoundField (writtenText name text) :=
  soundField_plain hname htext

theorem soundField_of_mem_flag {name : String} {isSet : Bool} (hname : isIdentifier name = true) :
    ∀ w ∈ writtenFlag name isSet, SoundField w := by
  intro w hw
  cases isSet with
  | false => cases hw
  | true =>
    obtain rfl := List.mem_singleton.mp hw
    exact soundField_plain hname (show "true" ∈ words by decide)

theorem sound_writtenTexts {texts : List String} (h : ∀ text ∈ texts, IsQuotable text) :
    (writtenTexts texts).Sound := by
  refine soundItems_of_forall fun w hw => ?_
  obtain ⟨text, htext, rfl⟩ := List.mem_map.mp hw
  exact h text htext

theorem sound_writtenAuth {a : Auth} (h : ∀ text ∈ a.texts, IsQuotable text) : (writtenAuth a).Sound := by
  cases a with
  | apiKey header env? =>
    refine soundFields_of_forall fun w hw => ?_
    simp only [List.mem_append, List.mem_cons, List.not_mem_nil, or_false, Option.mem_toList,
      Option.map_eq_some_iff] at hw
    rcases hw with (rfl | rfl) | ⟨env, rfl, rfl⟩
    · exact soundField_text (by decide) (isQuotable_of_isIdentifier (by decide))
    · exact soundField_text (by decide) (h _ (by simp [Auth.texts]))
    · exact soundField_text (by decide) (h _ (by simp [Auth.texts]))
  | oauth issuer audience? scopes =>
    refine soundFields_of_forall fun w hw => ?_
    simp only [List.mem_append, List.mem_cons, List.not_mem_nil, or_false, Option.mem_toList,
      Option.map_eq_some_iff] at hw
    rcases hw with ((rfl | rfl) | ⟨audience, rfl, rfl⟩) | hw
    · exact soundField_text (by decide) (isQuotable_of_isIdentifier (by decide))
    · exact soundField_text (by decide) (h _ (by simp [Auth.texts]))
    · exact soundField_text (by decide) (h _ (by simp [Auth.texts]))
    · split at hw
      · cases hw
      · obtain rfl := List.mem_singleton.mp hw
        refine soundField_plain (by decide) (sound_writtenTexts fun scope hscope => h _ ?_)
        simp [Auth.texts, hscope]

theorem soundField_of_mem_object {name : String} {fields : List SchemaField} (hname : isIdentifier name = true)
    (h : (Schema.object fields).Everywhere Schema.Writable) : ∀ w ∈ writtenObject name fields, SoundField w := by
  intro w hw
  unfold writtenObject at hw
  split at hw
  · cases hw
  · obtain rfl := List.mem_singleton.mp hw
    exact soundField_plain hname (sound_written 1 _ h)

theorem soundField_of_mem_result {s : Schema} (h : s.Everywhere Schema.Writable) :
    ∀ w ∈ writtenResult s, SoundField w := by
  intro w hw
  obtain rfl := List.mem_singleton.mp hw
  have hdefault : ∀ d ∈ (none : Option Json), d.Legible := by simp
  have hsafe : ∀ d ∈ (none : Option String), isCommentSafe d = true := by simp
  have htags := Annotation.isTagLine_of_mem_fieldTags false h.self.legible hdefault
  have hname : isIdentifier "result" = true := by decide
  refine ⟨isDoc_of_commentText ?_, isQuotable_of_isIdentifier hname, sound_written 1 s h⟩
  exact fun l hl => ( Annotation.fits_noteLines hsafe htags l hl).2

theorem soundField_of_mem_description {description? : Option String} (h : ∀ d ∈ description?, IsQuotable d) :
    ∀ w ∈ descriptionField description?, SoundField w := by
  intro w hw
  unfold descriptionField at hw
  cases hd : description?.filter (!isCommentSafe ·) with
  | none =>
    rw [hd] at hw
    cases hw
  | some d =>
    rw [hd] at hw
    obtain rfl := List.mem_singleton.mp hw
    exact soundField_text (by decide) (h d (Option.filter_eq_some_iff.mp hd).1)

theorem isDoc_of_descriptionComment? {description? : Option String} :
    ∀ comment ∈ descriptionComment? description?, "/**".toList.isPrefixOf comment.toList = true := by
  refine isDoc_of_commentText fun l hl => ?_
  cases hd : description?.filter isCommentSafe with
  | none =>
    rw [hd] at hl
    cases hl
  | some d =>
    rw [hd] at hl
    obtain ⟨heq, hlines⟩ := Annotation.descriptionLines_eq (Option.filter_eq_some_iff.mp hd).2
    rw [Option.map_some, Option.getD_some, heq] at hl
    obtain ⟨k, hk, rfl⟩ := List.mem_map.mp hl
    rw [String.toList_ofList]
    exact (hlines k hk).1

variable {g : Graph}

/-- The fields of a part can be read back, and so can the description. -/
structure InterfacePart.Legible (p : InterfacePart) : Prop where
  description : ∀ d ∈ p.1.description?, IsQuotable d
  fields : ∀ w ∈ p.2, SoundField w

theorem legible_service {s : Service} (h : s.Writable) : InterfacePart.Legible (service s, serviceFields s) := by
  refine ⟨h.description, fun w hw => ?_⟩
  simp only [serviceFields, List.mem_append, List.mem_singleton] at hw
  rcases hw with (rfl | rfl) | hw
  · exact soundField_text (by decide) h.name
  · exact soundField_text (by decide) h.version
  · cases hauth : s.auth? with
    | none =>
      rw [hauth] at hw
      cases hw
    | some a =>
      rw [hauth] at hw
      obtain rfl := List.mem_singleton.mp hw
      exact soundField_plain (by decide) (sound_writtenAuth (h.auth a hauth))

theorem legible_operation {o : Operation} (h : o.Writable) :
    InterfacePart.Legible (operation o, operationFields o) := by
  obtain ⟨fields, hfields⟩ := h.object
  refine ⟨h.description, fun w hw => ?_⟩
  simp only [operationFields, List.mem_append, List.mem_singleton, List.mem_flatMap] at hw
  rcases hw with ((rfl | hw) | hw) | ⟨f, hf, hw⟩
  · exact soundField_text (by decide) h.name
  · refine soundField_of_mem_object (by decide) ?_ w hw
    have hparams := h.params
    rwa [hfields] at hparams ⊢
  · cases hresult : o.result? with
    | none =>
      rw [hresult] at hw
      cases hw
    | some s =>
      rw [hresult] at hw
      exact soundField_of_mem_result (h.result s hresult) w hw
  · refine soundField_of_mem_flag ?_ w hw
    have hnames : ∀ f ∈ o.flags.named, isIdentifier f.1 = true := by
      simp [OperationFlags.named]
      decide
    exact hnames f hf

theorem legible_prompt {p : Prompt} (h : p.Writable) : InterfacePart.Legible (prompt p, promptFields p) := by
  refine ⟨h.description, fun w hw => ?_⟩
  simp only [promptFields, List.mem_append, List.mem_singleton] at hw
  rcases hw with (rfl | hw) | hw
  · exact soundField_text (by decide) h.name
  · exact soundField_of_mem_object (by decide) h.arguments w hw
  · cases hcontent : p.content with
    | template text =>
      rw [hcontent] at hw
      obtain rfl := List.mem_singleton.mp hw
      exact soundField_text (by decide) (h.template text hcontent)
    | dynamic =>
      rw [hcontent] at hw
      exact soundField_of_mem_flag (by decide) w hw

theorem legible_resource {r : Resource} (h : r.Writable) :
    InterfacePart.Legible (resource r, resourceFields r) := by
  refine ⟨h.description, fun w hw => ?_⟩
  simp only [resourceFields, List.mem_append, List.mem_singleton] at hw
  rcases hw with (((rfl | rfl) | rfl) | hw) | hw
  · exact soundField_text (by decide) h.uri
  · exact soundField_text (by decide) h.name
  · exact soundField_text (by decide) h.mimeType
  · exact soundField_of_mem_flag (by decide) w hw
  · cases hcontent : r.content with
    | static value =>
      rw [hcontent] at hw
      obtain rfl := List.mem_singleton.mp hw
      exact soundField_plain (by decide) (sound_writtenLiteral value (h.data value hcontent))
    | dynamic =>
      rw [hcontent] at hw
      exact soundField_of_mem_flag (by decide) w hw

theorem legible_group {group : Group} (h : group.Writable) :
    InterfacePart.Legible (Emission.group group, groupFields group) := by
  refine ⟨h.description, fun w hw => ?_⟩
  simp only [groupFields, List.mem_append, List.mem_singleton] at hw
  rcases hw with rfl | rfl
  · exact soundField_text (by decide) h.name
  · exact soundField_plain (by decide) (sound_writtenTexts h.operations)

theorem legible_of_mem_parts (h : g.Writable) : ∀ p ∈ parts g, InterfacePart.Legible p := by
  intro p hp
  simp only [parts, List.mem_append, Option.mem_toList, Option.map_eq_some_iff, List.mem_map] at hp
  rcases hp with (((⟨s, hs, rfl⟩ | ⟨o, ho, rfl⟩) | ⟨q, hq, rfl⟩) | ⟨r, hr, rfl⟩) | ⟨group, hgroup, rfl⟩
  · exact legible_service (h.service s hs)
  · exact legible_operation (h.operations o ho)
  · exact legible_prompt (h.prompts q hq)
  · exact legible_resource (h.resources r hr)
  · exact legible_group (h.groups group hgroup)

/-! ## 3. Files -/

theorem sound_writtenInterface {p : InterfacePart} (h : p.Legible) (name : String) :
    (writtenInterface name p).Sound where
  comment := isDoc_of_descriptionComment?
  fields := soundFields_of_forall fun w hw => by
    rcases List.mem_append.mp hw with hw | hw
    · exact soundField_of_mem_description h.description w hw
    · exact h.fields w hw

/-- The written file of a graph can be read back. -/
theorem sound_writtenFile (h : g.Writable) (markerModule : String) : (writtenFile g markerModule).Sound where
  heading := by
    simp only [writtenFile]
    decide
  imports name hname := (isIdentifier_of_mem_imports (g := g) name hname).2
  interfaces := by
    intro w hw
    rw [writtenFile, ← List.map_uncurry_zip_eq_zipWith] at hw
    obtain ⟨entry, hentry, rfl⟩ := List.mem_map.mp hw
    exact sound_writtenInterface (legible_of_mem_parts h _ (List.of_mem_zip hentry).2) entry.1
  methods := h.methods

/-- **What was written of a graph is read back from its text**: interfaces, functions and methods. -/
theorem reads_items (h : g.Writable) (markerModule : String) :
    List.Forall₂ WrittenItem.Reads (writtenFile g markerModule).items (SourceFile.read (file g markerModule)).items :=
  (SourceFile.read_written (sound_writtenFile h markerModule) (signatures_file h markerModule)).1

/-- **The interfaces of a graph are read back from its text.** -/
theorem reads_file (h : g.Writable) (markerModule : String) :
    List.Forall₂ WrittenInterface.Reads (List.zipWith writtenInterface (namesOf g) (parts g))
      (SourceFile.read (file g markerModule)).shapes :=
  SourceFile.shapes_of_reads (reads_items h markerModule)

end Emission

end ServiceGraph
