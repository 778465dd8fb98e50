import ServiceGraph.Descriptor.OfShape
import ServiceGraph.Proofs.Emission.Catalog

/-!
The fields of a descriptor are read back from the interface that is written for it: texts, lists of texts, flags,
authentications and fixed values. What a shape has under a name is what was written under it
(`Syntax.WrittenInterface.Declares.rel_field?`).
-/

namespace ServiceGraph

open Syntax Written

/-! ## 1. What is written under a name -/

namespace Emission

/-- The written field of a name. -/
def writtenNamed? (ws : List WrittenField) (name : String) : Option WrittenField := ws.find? (·.name == name)

section

variable {ws vs : List WrittenField} {name other text : String} {isSet : Bool}

@[simp] theorem writtenNamed?_append :
    writtenNamed? (ws ++ vs) name = (writtenNamed? ws name).or (writtenNamed? vs name) :=
  List.find?_append

@[simp] theorem writtenNamed?_nil : writtenNamed? [] name = none := rfl

theorem writtenNamed?_single {w : WrittenField} :
    writtenNamed? [w] name = if w.name = name then some w else none := by
  unfold writtenNamed?
  rw [List.find?_singleton]
  simp

@[simp] theorem writtenNamed?_cons {w : WrittenField} :
    writtenNamed? (w :: ws) name = if w.name = name then some w else writtenNamed? ws name := by
  rw [← List.singleton_append, writtenNamed?_append, writtenNamed?_single]
  split <;> simp

@[simp] theorem name_writtenText : (writtenText name text).name = name := rfl

@[simp] theorem type_writtenText : (writtenText name text).type = .text text := rfl

theorem writtenNamed?_option {w? : Option WrittenField} (h : ∀ w ∈ w?, w.name = other) :
    writtenNamed? w?.toList name = if other = name then w? else none := by
  cases w? with
  | none => simp
  | some w => rw [Option.toList_some, writtenNamed?_single, h w rfl]

@[simp] theorem writtenNamed?_flag :
    writtenNamed? (writtenFlag other isSet) name =
      if other = name then (if isSet then some ⟨none, other, false, .word "true"⟩ else none) else none := by
  cases isSet with
  | false => simp [writtenFlag]
  | true => exact writtenNamed?_single

end

end Emission

open Emission

/-! ## 2. Reading fields -/

namespace Syntax.Written

variable {ws : List WrittenField} {fs : List Field}

theorem ReadsFields.rel_find? (h : ReadsFields ws fs) (name : String) :
    Option.Rel ReadsField (writtenNamed? ws name) (fs.find? (·.name == name)) :=
  ServiceGraph.rel_find? (fun _ _ hf => by rw [hf.name]) h.forall₂

end Syntax.Written

/-- The texts of a written list are read back. -/
theorem Syntax.TypeExpr.strings?_of_written {texts : List String} {e : TypeExpr}
    (h : (writtenTexts texts).Reads e) : e.strings?.map (·.map (·.1)) = some texts := by
  obtain ⟨span, es, rfl, hitems⟩ := h
  change (es.mapM fun m : TypeExpr => m.string?.map (·, m.span)).map (·.map (·.1)) = some texts
  induction texts generalizing es with
  | nil =>
    obtain rfl := hitems
    rfl
  | cons text rest ih =>
    obtain ⟨e, others, rfl, ⟨textSpan, rfl⟩, hrest⟩ := hitems
    have hmore := ih others hrest
    rw [Option.map_eq_some_iff] at hmore
    obtain ⟨found, hfound, htexts⟩ := hmore
    rw [List.mapM_cons, hfound]
    simp [TypeExpr.string?, htexts]

namespace Auth

variable {ws : List WrittenField} {fs : List Field} {name : String}

/-- What an authentication has under a name. -/
theorem rel_typeOf? (h : ReadsFields ws fs) (name : String) :
    Option.Rel Reads ((writtenNamed? ws name).map (·.type)) (typeOf? fs name) := by
  have hrel := h.rel_find? name
  unfold typeOf?
  generalize writtenNamed? ws name = w? at hrel
  generalize fs.find? (·.name == name) = f? at hrel
  cases hrel with
  | none => exact .none
  | some hf =>
    obtain ⟨e, he, hreads⟩ := hf.type
    simp only [Option.map_some, Option.bind_some, he]
    exact .some hreads

theorem text?_of_written (h : ReadsFields ws fs) {text? : Option String}
    (hname : (writtenNamed? ws name).map (·.type) = text?.map Written.text) :
    Auth.text? fs name = .ok text? := by
  have hrel := rel_typeOf? h name
  rw [hname] at hrel
  unfold Auth.text?
  cases text? with
  | none => rw [eq_none_of_rel hrel rfl]
  | some text =>
    obtain ⟨e, he, span, rfl⟩ := exists_of_rel_some hrel rfl
    rw [he]
    rfl

theorem scopes_of_written (h : ReadsFields ws fs) {scopes : List String}
    (hname : (writtenNamed? ws "scopes").map (·.type) =
      if scopes.isEmpty then none else some (writtenTexts scopes)) :
    Auth.scopes fs = .ok scopes := by
  have hrel := rel_typeOf? h "scopes"
  rw [hname] at hrel
  unfold Auth.scopes
  cases scopes with
  | nil => rw [eq_none_of_rel hrel rfl]
  | cons scope rest =>
    obtain ⟨e, he, hreads⟩ := exists_of_rel_some hrel rfl
    have htexts := TypeExpr.strings?_of_written hreads
    rw [Option.map_eq_some_iff] at htexts
    obtain ⟨found, hfound, hvalues⟩ := htexts
    rw [he]
    simp [hfound, hvalues]

theorem typeText_of_written (h : ReadsFields ws fs) {text : String}
    (hname : (writtenNamed? ws "type").map (·.type) = some (.text text)) :
    (typeOf? fs "type").bind TypeExpr.string? = some text := by
  have hrel := rel_typeOf? h "type"
  rw [hname] at hrel
  obtain ⟨e, he, span, rfl⟩ := exists_of_rel_some hrel rfl
  rw [he]
  rfl

/-- **An authentication is read back.** -/
theorem ofType_of_written (a : Auth) {e : TypeExpr} (h : (writtenAuth a).Reads e) : ofType (some e) = .ok a := by
  have hoption : ∀ (field : String) (text? : Option String) (name : String),
      writtenNamed? (text?.map (writtenText field)).toList name =
        if field = name then text?.map (writtenText field) else none := by
    intro field text? name
    refine writtenNamed?_option fun w hw => ?_
    obtain ⟨text, -, rfl⟩ := Option.map_eq_some_iff.mp hw
    rfl
  cases a with
  | apiKey header env? =>
    obtain ⟨span, fs, rfl, hfields⟩ := h
    have htype : (typeOf? fs "type").bind TypeExpr.string? = some "apiKey" :=
      typeText_of_written hfields (by simp)
    have hheader : Auth.text? fs "header" = .ok (some header) := text?_of_written hfields (by simp)
    have henv : Auth.text? fs "env" = .ok env? :=
      text?_of_written hfields (by simp [hoption, Function.comp_def])
    unfold ofType ofFields
    simp only [htype, hheader, henv]
    rfl
  | oauth issuer audience? scopes =>
    obtain ⟨span, fs, rfl, hfields⟩ := h
    have htype : (typeOf? fs "type").bind TypeExpr.string? = some "oauth" :=
      typeText_of_written hfields (by simp)
    have hissuer : Auth.text? fs "issuer" = .ok (some issuer) := text?_of_written hfields (by simp)
    have haudience : Auth.text? fs "audience" = .ok audience? :=
      text?_of_written hfields (by cases scopes <;> cases audience? <;> simp)
    have hscopes : Auth.scopes fs = .ok scopes :=
      scopes_of_written hfields (by cases scopes <;> simp [hoption])
    unfold ofType ofFields
    simp only [htype, hissuer, haudience, hscopes]
    rfl

end Auth

/-! ## 3. Fixed values -/

theorem Emission.reads_writtenNumber {s : List Char} {e : TypeExpr} (h : (writtenNumber s).Reads e) :
    ∃ span, e = .literal span (.number (String.ofList s)) := by
  unfold writtenNumber at h
  split at h
  · obtain ⟨span, rfl⟩ := h
    refine ⟨span, congrArg _ (congrArg _ ?_)⟩
    rw [← String.toList_inj]
    simp [signed]
  · obtain ⟨span, rfl⟩ := h
    exact ⟨span, rfl⟩

namespace Syntax.TypeExpr

mutual

/-- **A value is read back from the type that spells it.** -/
theorem json?_of_written (d : Json) (h : d.Spellable) {e : TypeExpr} (hreads : (writtenLiteral d).Reads e) :
    e.json? = some d := by
  match d with
  | .null =>
    obtain ⟨span, rfl⟩ := hreads
    change json? (.literal span .null) = _
    rw [json?]
  | .bool b =>
    obtain ⟨span, rfl⟩ := hreads
    cases b with
    | true =>
      change json? (.literal span (.bool true)) = _
      rw [json?]
    | false =>
      change json? (.literal span (.bool false)) = _
      rw [json?]
  | .number n =>
    rw [Json.Spellable] at h
    obtain ⟨span, rfl⟩ := reads_writtenNumber hreads
    rw [json?, String.ofList_toList, h]
  | .string s =>
    obtain ⟨span, rfl⟩ := hreads
    rw [json?]
  | .array items =>
    rw [Json.Spellable] at h
    obtain ⟨span, es, rfl, hitems⟩ := hreads
    rw [json?, jsonItems?_of_written items h hitems, Option.map_some]
  | .object members =>
    rw [Json.Spellable] at h
    obtain ⟨span, fs, rfl, hfields⟩ := hreads
    rw [json?, jsonMembers?_of_written members h.2 hfields, Option.map_some, h.1]

theorem jsonItems?_of_written (items : List Json) (h : Json.SpellableItems items) {es : List TypeExpr}
    (hreads : ReadsItems (writtenItems items) es) : jsonItems? es = some items := by
  match items with
  | [] =>
    obtain rfl := hreads
    rw [jsonItems?]
  | x :: rest =>
    rw [Json.SpellableItems] at h
    obtain ⟨e, others, rfl, hfirst, hrest⟩ := hreads
    rw [jsonItems?, json?_of_written x h.1 hfirst, jsonItems?_of_written rest h.2 hrest]

theorem jsonMembers?_of_written (members : List (String × Json)) (h : Json.SpellableMembers members)
    {fs : List Field} (hreads : ReadsFields (writtenMembers members) fs) : jsonMembers? fs = some members := by
  match members with
  | [] =>
    obtain rfl := hreads
    rw [jsonMembers?]
  | (name, x) :: rest =>
    rw [Json.SpellableMembers] at h
    obtain ⟨e, doc?, span, others, rfl, hdoc, htype, hmore⟩ := hreads
    rw [jsonMembers?, jsonOfField?, jsonOfDeclared?, json?_of_written x h.2.1 htype,
      jsonMembers?_of_written rest h.2.2 hmore, Option.map_some]

end

end Syntax.TypeExpr

/-! ## 4. Fields of shapes -/

namespace Syntax.WrittenInterface

variable {w : WrittenInterface} {s : ShapeInfo} {name : String}

/-- What a shape has under a name is what was written under it. -/
theorem Declares.rel_field? (h : w.Declares s) (name : String) :
    Option.Rel (fun v (m : MergedField) => ReadsField v m.field ∧ m.owner = s.name)
      (writtenNamed? w.fields name) (s.field? name) := by
  obtain ⟨span, fs, -, hfields, hmerged⟩ := h.fields
  unfold ShapeInfo.field? ShapeKind.fieldNamed?
  rw [hmerged]
  refine rel_find? (fun v m hm => by rw [MergedField.name, hm.1.name]) ?_
  rw [List.forall₂_map_right_iff]
  exact hfields.forall₂.imp fun _ _ hf => ⟨hf, rfl⟩

theorem Declares.exists_field (h : w.Declares s) {v : WrittenField} (hv : writtenNamed? w.fields name = some v) :
    ∃ m, s.field? name = some m ∧ ReadsField v m.field ∧ m.owner = s.name :=
  exists_of_rel_some (h.rel_field? name) hv

theorem Declares.field?_eq_none (h : w.Declares s) (hv : writtenNamed? w.fields name = none) :
    s.field? name = none :=
  eq_none_of_rel (h.rel_field? name) hv

variable {text : String}

theorem Declares.textOf_eq (_ : w.Declares s) {m : MergedField} (hm : ReadsField (writtenText name text) m.field) :
    s.textOf m = pure (some text) := by
  obtain ⟨e, he, span, rfl⟩ := hm.type
  unfold ShapeInfo.textOf MergedField.type?
  rw [he]
  rfl

theorem Declares.value_requiredText? (h : w.Declares s)
    (hv : writtenNamed? w.fields name = some (writtenText name text)) :
    (s.requiredText? name).value = some text := by
  obtain ⟨m, hm, hreads, -⟩ := h.exists_field hv
  unfold ShapeInfo.requiredText?
  rw [hm]
  exact congrArg Noted.value (h.textOf_eq hreads)

theorem Declares.value_text? (h : w.Declares s)
    (hv : writtenNamed? w.fields name = some (writtenText name text)) : (s.text? name).value = some text := by
  obtain ⟨m, hm, hreads, -⟩ := h.exists_field hv
  unfold ShapeInfo.text?
  rw [hm]
  exact congrArg Noted.value (h.textOf_eq hreads)

/-- A flag is read back. -/
theorem Declares.value_flag (h : w.Declares s) {isSet : Bool}
    (hv : writtenNamed? w.fields name = if isSet then some ⟨none, name, false, .word "true"⟩ else none) :
    (s.flag name).value = isSet := by
  unfold ShapeInfo.flag
  cases isSet with
  | false =>
    rw [h.field?_eq_none hv]
    rfl
  | true =>
    obtain ⟨m, hm, hreads, -⟩ := h.exists_field hv
    obtain ⟨e, he, span, rfl⟩ := hreads.type
    have htype : m.type? = some (wordType span "true") := he
    simp only [hm, htype]
    rfl

end Syntax.WrittenInterface

end ServiceGraph
