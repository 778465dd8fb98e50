import Mathlib.Data.List.Nodup
import ServiceGraph.Proofs.Annotation.Lookup
import ServiceGraph.Proofs.Syntax.Parts
import ServiceGraph.Schema.OfType

/-!
Paths of comments.

If the names of fields hold neither a dot nor a bracket, a path tells where it leads: what stands under one
field of an object has another path than what stands under a field of another name
(`TypePath.Within.field_unique`), and than what stands in the items of a list
(`TypePath.Within.not_item`). The comments inside of a type have paths below that of the type
(`Annotation.below_of_mem_docsOfType`), so they can be told from those of all other types.
-/

namespace ServiceGraph

open Syntax

namespace TypePath

/-! ## 1. Paths and their extensions -/

/-- The characters that end a name in a path. -/
def endsName (c : Char) : Bool := c = '.' || c = '['

/-- A name that a path can hold: it is not empty, and nothing in it ends it. -/
def IsPlain (name : String) : Prop := name ≠ "" ∧ ∀ c ∈ name.toList, endsName c = false

-- by a walk over the name, not over all characters
instance (name : String) : Decidable (IsPlain name) :=
  @instDecidableAnd _ _ _ (List.decidableBAll (endsName · = false) name.toList)

/-- The path of something that stands inside of what has another path. -/
def Below (path key : String) : Prop :=
  ∃ c rest, key.toList = path.toList ++ c :: rest ∧ (path = "" ∨ endsName c = true)

/-- A path, or one below it. -/
def Within (path key : String) : Prop := key = path ∨ Below path key

theorem toList_item (path : String) : (item path).toList = path.toList ++ ['[', ']'] := by
  simp [item]

theorem field_root (name : String) : field "" name = name := rfl

theorem toList_field {path : String} (h : path ≠ "") (name : String) :
    (field path name).toList = path.toList ++ '.' :: name.toList := by
  simp [field, h, String.append_assoc]

theorem field_ne_empty {path name : String} (h : IsPlain name) : field path name ≠ "" := by
  by_cases hpath : path = ""
  · subst hpath
    exact h.1
  · intro heq
    have := congrArg String.toList heq
    simp [toList_field hpath] at this

theorem item_ne_empty (path : String) : item path ≠ "" := by
  intro heq
  have := congrArg String.toList heq
  simp [toList_item] at this

theorem below_item (path : String) : Below path (item path) :=
  ⟨'[', [']'], toList_item path, .inr rfl⟩

theorem below_field (path : String) {name : String} (h : IsPlain name) :
    Below path (field path name) := by
  by_cases hpath : path = ""
  · subst hpath
    cases hname : name.toList with
    | nil => exact absurd (String.toList_eq_nil_iff.mp hname) h.1
    | cons c rest => exact ⟨c, rest, hname, .inl rfl⟩
  · exact ⟨'.', name.toList, toList_field hpath name, .inr rfl⟩

theorem Below.trans {path middle key : String} (h : Below path middle) (h' : Below middle key) :
    Below path key := by
  obtain ⟨c, rest, hmiddle, hc⟩ := h
  obtain ⟨c', rest', hkey, -⟩ := h'
  exact ⟨c, rest ++ c' :: rest', by simp [hkey, hmiddle], hc⟩

theorem Below.of_within {path middle key : String} (h : Below path middle) (h' : Within middle key) :
    Below path key := by
  rcases h' with rfl | h'
  · exact h
  · exact h.trans h'

theorem Below.ne {path key : String} (h : Below path key) : key ≠ path := by
  rintro rfl
  obtain ⟨c, rest, heq, -⟩ := h
  simpa using congrArg List.length heq

theorem not_below_empty (path : String) : ¬ Below path "" := by
  rintro ⟨c, rest, heq, -⟩
  simp at heq

/-- What comes before the name of a field in its path. -/
def lead (path : String) : List Char := if path = "" then [] else path.toList ++ ['.']

/-- A path within that of a field goes on after the field's name with something that ends it. -/
theorem Within.exists_tail {path name key : String} (hname : IsPlain name)
    (h : Within (field path name) key) :
    ∃ tail, key.toList = lead path ++ (name.toList ++ tail) ∧
      tail.takeWhile (!endsName ·) = [] := by
  have hfield : (field path name).toList = lead path ++ name.toList := by
    by_cases hpath : path = ""
    · simp [lead, hpath, field_root]
    · simp [lead, hpath, toList_field hpath]
  rcases h with rfl | ⟨c, rest, hkey, hc⟩
  · exact ⟨[], by simp [hfield], rfl⟩
  · have hc := hc.resolve_left (field_ne_empty hname)
    exact ⟨c :: rest, by simp [hkey, hfield], by simp [hc]⟩

/-- The name at which paths that go on behind it are cut. -/
theorem takeWhile_name_append {name : String} (hname : IsPlain name) {tail : List Char}
    (htail : tail.takeWhile (!endsName ·) = []) :
    (name.toList ++ tail).takeWhile (!endsName ·) = name.toList := by
  rw [List.takeWhile_append_of_pos fun c hc => by simp [hname.2 c hc], htail, List.append_nil]

/-- A path leads under one field of an object only. -/
theorem Within.field_unique {path name other key : String} (hname : IsPlain name)
    (hother : IsPlain other) (h : Within (field path name) key)
    (h' : Within (field path other) key) : name = other := by
  obtain ⟨tail, hkey, htail⟩ := h.exists_tail hname
  obtain ⟨tail', hkey', htail'⟩ := h'.exists_tail hother
  have heq : name.toList ++ tail = other.toList ++ tail' :=
    List.append_cancel_left (hkey.symm.trans hkey')
  have hnames := congrArg (List.takeWhile (!endsName ·)) heq
  rw [takeWhile_name_append hname htail, takeWhile_name_append hother htail'] at hnames
  exact String.toList_inj.mp hnames

/-- No path leads both under a field and to the items of a list. -/
theorem Within.not_item {path name key : String} (hname : IsPlain name)
    (h : Within (field path name) key) : ¬ Within (item path) key := by
  intro hitem
  obtain ⟨rest, hrest⟩ : ∃ rest, key.toList = path.toList ++ '[' :: rest := by
    rcases hitem with rfl | ⟨c, rest, hkey, -⟩
    · exact ⟨[']'], toList_item path⟩
    · exact ⟨']' :: c :: rest, by simp [hkey, toList_item]⟩
  obtain ⟨tail, hkey, -⟩ := h.exists_tail hname
  rw [hrest] at hkey
  by_cases hpath : path = ""
  · subst hpath
    cases hlist : name.toList with
    | nil => exact hname.1 (String.toList_eq_nil_iff.mp hlist)
    | cons c cs =>
      rw [hlist] at hkey
      obtain ⟨rfl, -⟩ : '[' = c ∧ _ := by simpa [lead] using hkey
      exact absurd (hname.2 '[' (by simp [hlist])) (by decide)
  · simp [lead, hpath] at hkey

end TypePath

/-! ## 2. Names -/

namespace Syntax

/-- The fields of an object type can be told apart in paths. -/
def TypeExpr.HasPlainFields : TypeExpr → Prop
  | .object _ fields _ =>
    (∀ f ∈ fields, TypePath.IsPlain f.name) ∧ (fields.map (·.name)).Nodup
  | _ => True

instance : DecidablePred TypeExpr.HasPlainFields
  | .object _ _ _ => instDecidableAnd
  | .keyword _ _ | .literal _ _ | .reference _ _ _ | .array _ _ | .tuple _ _ | .union _ _
  | .intersection _ _ | .function _ | .other _ _ => isTrue trivial

/-- The fields of a shape can be told apart in paths, also those of the objects in an intersection. -/
structure ShapeDecl.HasPlainFields (d : ShapeDecl) : Prop where
  type : d.type.Everywhere TypeExpr.HasPlainFields
  own : ((ShapeStructure.ofDecl d).1.fields.map (·.name)).Nodup

instance (d : ShapeDecl) : Decidable d.HasPlainFields :=
  decidable_of_iff (d.type.Everywhere TypeExpr.HasPlainFields ∧
    ((ShapeStructure.ofDecl d).1.fields.map (·.name)).Nodup)
    ⟨fun h => ⟨h.1, h.2⟩, fun h => ⟨h.type, h.own⟩⟩

end Syntax

/-! ## 3. Comments inside of types -/

namespace Annotation

open TypePath

theorem mem_docsOfTypes {path : String} {e : String × Doc} :
    ∀ {items : List TypeExpr}, e ∈ docsOfTypes path items ↔ ∃ t ∈ items, e ∈ docsOfType path t
  | [] => by simp [docsOfTypes]
  | t :: rest => by
      rw [docsOfTypes, List.mem_append, mem_docsOfTypes]
      simp

theorem mem_docsOfFields {path : String} {e : String × Doc} :
    ∀ {fields : List Field}, e ∈ docsOfFields path fields ↔ ∃ f ∈ fields, e ∈ docsOfField path f
  | [] => by simp [docsOfFields]
  | f :: rest => by
      rw [docsOfFields, List.mem_append, mem_docsOfFields]
      simp

/-- A comment at a field is the field's own, or stands in its type. -/
theorem mem_docsOfField {path : String} {f : Field} {e : String × Doc} :
    e ∈ docsOfField path f ↔
      (∃ doc ∈ f.doc?, e = (field path f.name, doc)) ∨
        ∃ t ∈ f.type?, e ∈ docsOfType (field path f.name) t := by
  obtain ⟨name, isOptional, isReadonly, type?, doc?, span⟩ := f
  rw [docsOfField, List.mem_append]
  refine or_congr ?_ ?_
  · cases doc? <;> simp
  · cases type? <;> simp [docsOfOption]

mutual

/-- The comments inside of a type have paths below that of the type. -/
theorem below_of_mem_docsOfType (path : String) (t : TypeExpr)
    (ht : t.Everywhere TypeExpr.HasPlainFields) :
    ∀ e ∈ docsOfType path t, Below path e.1 := by
  match t, ht with
  | .object span fields skipped, ht =>
    rw [docsOfType]
    exact below_of_mem_docsOfFields path fields ht.self.1 fun f hf t ht' => ht.field hf ht'
  | .array span inner, ht =>
    rw [docsOfType]
    exact fun e he => (below_item path).trans (below_of_mem_docsOfType (item path) inner ht.item e he)
  | .reference span name args, ht =>
    rw [docsOfType]
    split
    · exact fun e he => (below_item path).trans
        (below_of_mem_docsOfTypes (item path) args (fun t h => ht.argument h) e he)
    · simp
  | .union span items, ht =>
    rw [docsOfType]
    exact below_of_mem_docsOfTypes path items fun t h => ht.unionMember h
  | .intersection span items, ht =>
    rw [docsOfType]
    exact below_of_mem_docsOfTypes path items fun t h => ht.intersectionMember h
  | .keyword _ _, _ | .literal _ _, _ | .tuple _ _, _ | .function _, _ | .other _ _, _ =>
    simp [docsOfType]

theorem below_of_mem_docsOfTypes (path : String) (items : List TypeExpr)
    (hitems : ∀ t ∈ items, t.Everywhere TypeExpr.HasPlainFields) :
    ∀ e ∈ docsOfTypes path items, Below path e.1 := by
  match items with
  | [] => simp [docsOfTypes]
  | t :: rest =>
    rw [docsOfTypes]
    intro e he
    rcases List.mem_append.mp he with he | he
    · exact below_of_mem_docsOfType path t (hitems t List.mem_cons_self) e he
    · exact below_of_mem_docsOfTypes path rest
        (fun u hu => hitems u (List.mem_cons_of_mem _ hu)) e he

theorem below_of_mem_docsOfFields (path : String) (fields : List (FieldOf TypeExpr))
    (hnames : ∀ f ∈ fields, IsPlain f.name)
    (hfields : ∀ f ∈ fields, ∀ t ∈ f.type?, t.Everywhere TypeExpr.HasPlainFields) :
    ∀ e ∈ docsOfFields path fields, Below path e.1 := by
  match fields with
  | [] => simp [docsOfFields]
  | f :: rest =>
    rw [docsOfFields]
    intro e he
    rcases List.mem_append.mp he with he | he
    · exact (below_field path (hnames f List.mem_cons_self)).of_within
        (within_of_mem_docsOfField path f (hfields f List.mem_cons_self) e he)
    · exact below_of_mem_docsOfFields path rest
        (fun g hg => hnames g (List.mem_cons_of_mem _ hg))
        (fun g hg => hfields g (List.mem_cons_of_mem _ hg)) e he

/-- The comments at a field have its path or one below. -/
theorem within_of_mem_docsOfField (path : String) (f : FieldOf TypeExpr)
    (hf : ∀ t ∈ f.type?, t.Everywhere TypeExpr.HasPlainFields) :
    ∀ e ∈ docsOfField path f, Within (field path f.name) e.1 := by
  match f with
  | ⟨name, isOptional, isReadonly, some t, doc?, span⟩ =>
    intro e he
    rcases mem_docsOfField.mp he with ⟨doc, -, rfl⟩ | ⟨t', ht', he⟩
    · exact .inl rfl
    · cases ht'
      exact .inr (below_of_mem_docsOfType _ t (hf t rfl) e he)
  | ⟨name, isOptional, isReadonly, none, doc?, span⟩ =>
    intro e he
    rcases mem_docsOfField.mp he with ⟨doc, -, rfl⟩ | ⟨t', ht', -⟩
    · exact .inl rfl
    · cases ht'

end

/-- Of the comments of an object those at one field are the field's. -/
theorem mem_docsOfField_of_within {path : String} {fields : List Field}
    (hnames : ∀ f ∈ fields, IsPlain f.name) (hdistinct : (fields.map (·.name)).Nodup)
    (hfields : ∀ f ∈ fields, ∀ t ∈ f.type?, t.Everywhere TypeExpr.HasPlainFields) {f : Field}
    (hf : f ∈ fields) {e : String × Doc} (he : e ∈ docsOfFields path fields)
    (hwithin : Within (field path f.name) e.1) : e ∈ docsOfField path f := by
  obtain ⟨g, hg, he⟩ := mem_docsOfFields.mp he
  have hother := within_of_mem_docsOfField path g (hfields g hg) e he
  have hname : g.name = f.name := hother.field_unique (hnames g hg) (hnames f hf) hwithin
  rwa [← List.inj_on_of_nodup_map hdistinct hg hf hname]

theorem field_ne_empty_of_path {path : String} (h : path ≠ "") (name : String) : field path name ≠ "" := by
  intro heq
  have hlist := congrArg String.toList heq
  rw [toList_field h] at hlist
  simp at hlist

mutual

/-- Below the root no comment is at the root. -/
theorem ne_empty_of_mem_docsOfType {path : String} (h : path ≠ "") (t : TypeExpr) :
    ∀ e ∈ docsOfType path t, e.1 ≠ "" := by
  match t with
  | .object span fields skipped =>
    rw [docsOfType]
    exact ne_empty_of_mem_docsOfFields fields fun f _ => field_ne_empty_of_path h f.name
  | .array span inner =>
    rw [docsOfType]
    exact ne_empty_of_mem_docsOfType (item_ne_empty path) inner
  | .reference span name args =>
    rw [docsOfType]
    split
    · exact ne_empty_of_mem_docsOfTypes (item_ne_empty path) args
    · simp
  | .union span items =>
    rw [docsOfType]
    exact ne_empty_of_mem_docsOfTypes h items
  | .intersection span items =>
    rw [docsOfType]
    exact ne_empty_of_mem_docsOfTypes h items
  | .keyword _ _ | .literal _ _ | .tuple _ _ | .function _ | .other _ _ => simp [docsOfType]

theorem ne_empty_of_mem_docsOfTypes {path : String} (h : path ≠ "") (items : List TypeExpr) :
    ∀ e ∈ docsOfTypes path items, e.1 ≠ "" := by
  match items with
  | [] => simp [docsOfTypes]
  | t :: rest =>
    rw [docsOfTypes]
    intro e he
    rcases List.mem_append.mp he with he | he
    · exact ne_empty_of_mem_docsOfType h t e he
    · exact ne_empty_of_mem_docsOfTypes h rest e he

theorem ne_empty_of_mem_docsOfFields {path : String} (fields : List (FieldOf TypeExpr))
    (h : ∀ f ∈ fields, field path f.name ≠ "") : ∀ e ∈ docsOfFields path fields, e.1 ≠ "" := by
  match fields with
  | [] => simp [docsOfFields]
  | f :: rest =>
    rw [docsOfFields]
    intro e he
    rcases List.mem_append.mp he with he | he
    · exact ne_empty_of_mem_docsOfField f (h f List.mem_cons_self) e he
    · exact ne_empty_of_mem_docsOfFields rest (fun g hg => h g (List.mem_cons_of_mem _ hg)) e he

theorem ne_empty_of_mem_docsOfField {path : String} (f : FieldOf TypeExpr) (h : field path f.name ≠ "") :
    ∀ e ∈ docsOfField path f, e.1 ≠ "" := by
  match f with
  | ⟨name, isOptional, isReadonly, some t, doc?, span⟩ =>
    intro e he
    rcases mem_docsOfField.mp he with ⟨doc, -, rfl⟩ | ⟨t', ht', he⟩
    · exact h
    · cases ht'
      exact ne_empty_of_mem_docsOfType h t e he
  | ⟨name, isOptional, isReadonly, none, doc?, span⟩ =>
    intro e he
    rcases mem_docsOfField.mp he with ⟨doc, -, rfl⟩ | ⟨t', ht', -⟩
    · exact h
    · cases ht'

end

/-- The members of a union that count as missing hold no comments. -/
theorem docsOfType_of_not_kept {path : String} {t : TypeExpr}
    (h : (!TypeSchema.isNullType t && !TypeSchema.isUndefinedType t) = false) :
    docsOfType path t = [] := by
  cases t <;> simp_all [docsOfType, TypeSchema.isNullType, TypeSchema.isUndefinedType]

/-- A union of which one member is kept holds the comments of that member. -/
theorem mem_docsOfTypes_of_kept {path : String} {members : List TypeExpr} {t : TypeExpr}
    (h : TypeSchema.kept members = [t]) {e : String × Doc} :
    e ∈ docsOfTypes path members ↔ e ∈ docsOfType path t := by
  rw [mem_docsOfTypes]
  constructor
  · rintro ⟨m, hm, he⟩
    by_cases hkept : (!TypeSchema.isNullType m && !TypeSchema.isUndefinedType m) = true
    · have hmem : m ∈ TypeSchema.kept members := List.mem_filter.mpr ⟨hm, hkept⟩
      rw [h] at hmem
      exact List.mem_singleton.mp hmem ▸ he
    · rw [docsOfType_of_not_kept (by simpa using hkept)] at he
      cases he
  · intro he
    have hmem : t ∈ TypeSchema.kept members := by simp [h]
    exact ⟨t, (List.mem_filter.mp hmem).1, he⟩

/-! ## 4. Comments of a shape -/

/-- Whether a member of an intersection is neither a name nor an object. Such a member is reported as
ignored. -/
def isIgnoredMember : TypeExpr → Bool
  | .reference _ _ _ | .object _ _ _ => false
  | _ => true

/-- The comments inside of the ignored members of an intersection. They are entered like all others. -/
def strayDocs (d : ShapeDecl) : List (String × Doc) :=
  match d.type with
  | .intersection _ members => docsOfTypes "" (members.filter isIgnoredMember)
  | _ => []

variable {d : ShapeDecl} {path : String}

/-- The comments of a shape below a path are those inside of a type, but for stray ones. -/
structure TypeAt (d : ShapeDecl) (path : String) (t : TypeExpr) : Prop where
  plain : t.Everywhere TypeExpr.HasPlainFields
  entered : ∀ e ∈ docsOfType path t, e ∈ docsOfShape d
  only : ∀ e ∈ docsOfShape d, Below path e.1 → e ∈ docsOfType path t ∨ e ∈ strayDocs d

/-- The comments of a shape from the path of a field on are those at the field, but for stray ones. -/
structure FieldAt (d : ShapeDecl) (parent : String) (f : Field) : Prop where
  name : IsPlain f.name
  plain : ∀ t ∈ f.type?, t.Everywhere TypeExpr.HasPlainFields
  entered : ∀ e ∈ docsOfField parent f, e ∈ docsOfShape d
  only : ∀ e ∈ docsOfShape d, Within (field parent f.name) e.1 →
    e ∈ docsOfField parent f ∨ e ∈ strayDocs d

theorem below_empty_of_mem_docsOfShape {e : String × Doc} (he : e ∈ docsOfShape d)
    (hbelow : Below path e.1) : e ∈ docsOfType "" d.type := by
  rcases List.mem_append.mp he with he | he
  · obtain ⟨doc, -, rfl⟩ := List.mem_map.mp he
    exact absurd hbelow (not_below_empty path)
  · exact he

/-- What is found at the root is what the declaration's own comment says. -/
theorem ofPlace?_root (h : ∀ e ∈ docsOfType "" d.type, e.1 ≠ "") :
    ofPlace? d "" = d.doc?.map fun doc => (ofDoc doc).1 := by
  cases hdoc : d.doc? with
  | none =>
    refine ofPlace?_eq_none fun e he => ?_
    rcases List.mem_append.mp he with he | he
    · simp [hdoc] at he
    · exact h e he
  | some doc =>
    refine ofPlace?_eq_some ?_ fun e he hroot => ?_
    · exact List.mem_append_left _ (by simp [hdoc])
    · rcases List.mem_append.mp he with he | he
      · simp only [hdoc, Option.toList_some, List.map_cons, List.map_nil, List.mem_singleton] at he
        rw [he]
      · exact absurd hroot (h e he)

/-- A shape's own type stands at its root. -/
theorem typeAt_root (h : d.type.Everywhere TypeExpr.HasPlainFields) : TypeAt d "" d.type where
  plain := h
  entered _ he := List.mem_append_right _ he
  only _ he hbelow := .inl (below_empty_of_mem_docsOfShape he hbelow)

namespace TypeAt

variable {span : Span}

theorem item {inner : TypeExpr} (h : TypeAt d path (.array span inner)) :
    TypeAt d (TypePath.item path) inner where
  plain := h.plain.item
  entered e he := h.entered e (by rwa [docsOfType])
  only e he hbelow := by
    simpa only [docsOfType] using h.only e he ((below_item path).trans hbelow)

theorem argument {name : String} {inner : TypeExpr} (hname : isListName name = true)
    (h : TypeAt d path (.reference span name [inner])) : TypeAt d (TypePath.item path) inner where
  plain := h.plain.argument List.mem_cons_self
  entered e he := h.entered e (by simpa [docsOfType, hname, docsOfTypes] using he)
  only e he hbelow := by
    simpa [docsOfType, hname, docsOfTypes] using h.only e he ((below_item path).trans hbelow)

theorem kept {members : List TypeExpr} {t : TypeExpr} (hkept : TypeSchema.kept members = [t])
    (h : TypeAt d path (.union span members)) : TypeAt d path t where
  plain := h.plain.unionMember (List.mem_of_mem_filter (hkept ▸ List.mem_singleton_self t))
  entered e he := h.entered e (by rwa [docsOfType, mem_docsOfTypes_of_kept hkept])
  only e he hbelow := by
    simpa only [docsOfType, mem_docsOfTypes_of_kept hkept] using h.only e he hbelow

theorem field {fields : List Field} {skipped : List SkippedMember} {f : Field}
    (h : TypeAt d path (.object span fields skipped)) (hf : f ∈ fields) : FieldAt d path f where
  name := h.plain.self.1 f hf
  plain t ht := h.plain.field hf ht
  entered e he := h.entered e (by rw [docsOfType]; exact mem_docsOfFields.mpr ⟨f, hf, he⟩)
  only e he hwithin := by
    obtain ⟨hnames, hdistinct⟩ := h.plain.self
    have hbelow := (below_field path (hnames f hf)).of_within hwithin
    refine (h.only e he hbelow).imp_left fun he => ?_
    rw [docsOfType] at he
    exact mem_docsOfField_of_within hnames hdistinct (fun g hg t ht => h.plain.field hg ht) hf he hwithin

end TypeAt

namespace FieldAt

variable {f : Field}

theorem type {t : TypeExpr} (h : FieldAt d path f) (ht : t ∈ f.type?) :
    TypeAt d (TypePath.field path f.name) t where
  plain := h.plain t ht
  entered e he := h.entered e (mem_docsOfField.mpr (.inr ⟨t, ht, he⟩))
  only e he hbelow := by
    refine (h.only e he (.inr hbelow)).imp_left fun he => ?_
    rcases mem_docsOfField.mp he with ⟨doc, -, rfl⟩ | ⟨u, hu, he⟩
    · exact absurd rfl hbelow.ne
    · exact Option.mem_unique hu ht ▸ he

/-- What is found at a field's path is what the field's own comment says. -/
theorem ofPlace?_eq (h : FieldAt d path f)
    (hclear : ∀ e ∈ strayDocs d, e.1 ≠ TypePath.field path f.name) :
    ofPlace? d (TypePath.field path f.name) = f.doc?.map fun doc => (ofDoc doc).1 := by
  have hown : ∀ e ∈ docsOfShape d, e.1 = TypePath.field path f.name → e.2 ∈ f.doc? := by
    intro e he heq
    have he := (h.only e he (.inl heq)).resolve_right fun hstray => hclear e hstray heq
    rcases mem_docsOfField.mp he with ⟨doc, hdoc, rfl⟩ | ⟨t, ht, he⟩
    · exact hdoc
    · exact absurd heq (below_of_mem_docsOfType _ t (h.plain t ht) e he).ne
  cases hdoc : f.doc? with
  | none =>
    refine ofPlace?_eq_none fun e he heq => ?_
    have := hown e he heq
    rw [hdoc] at this
    cases this
  | some doc =>
    refine ofPlace?_eq_some (h.entered (_, doc) (mem_docsOfField.mpr (.inl ⟨doc, hdoc, rfl⟩)))
      fun e he heq => ?_
    exact Option.mem_unique (hown e he heq) hdoc

end FieldAt

/-- A comment at the root of an intersection stands at a field of one of its objects, in the items of a
list, or in an ignored member. -/
theorem mem_docsOfTypes_members {members : List TypeExpr} {e : String × Doc}
    (hplain : ∀ m ∈ members, m.Everywhere TypeExpr.HasPlainFields)
    (he : e ∈ docsOfTypes "" members) :
    e ∈ docsOfFields "" (members.flatMap (·.objectFields)) ∨ Within (item "") e.1 ∨
      e ∈ docsOfTypes "" (members.filter isIgnoredMember) := by
  obtain ⟨m, hm, he⟩ := mem_docsOfTypes.mp he
  match m, hm, he with
  | .object span fields skipped, hm, he =>
    rw [docsOfType] at he
    obtain ⟨f, hf, he⟩ := mem_docsOfFields.mp he
    exact .inl (mem_docsOfFields.mpr ⟨f, List.mem_flatMap.mpr ⟨_, hm, hf⟩, he⟩)
  | .reference span name args, hm, he =>
    rw [docsOfType] at he
    split at he
    · obtain ⟨t, ht, he⟩ := mem_docsOfTypes.mp he
      exact .inr (.inl (.inr (below_of_mem_docsOfType _ t ((hplain _ hm).argument ht) e he)))
    · cases he
  | .keyword _ _, hm, he | .literal _ _, hm, he | .array _ _, hm, he | .tuple _ _, hm, he
  | .union _ _, hm, he | .intersection _ _, hm, he | .function _, hm, he | .other _ _, hm, he =>
    exact .inr (.inr (mem_docsOfTypes.mpr ⟨_, List.mem_filter.mpr ⟨hm, rfl⟩, he⟩))

section Members

variable {members : List TypeExpr} {f : Field}

theorem plain_of_mem_objectFields (hplain : ∀ m ∈ members, m.Everywhere TypeExpr.HasPlainFields)
    (hf : f ∈ members.flatMap (·.objectFields)) :
    IsPlain f.name ∧ ∀ t ∈ f.type?, t.Everywhere TypeExpr.HasPlainFields := by
  obtain ⟨m, hm, hf⟩ := List.mem_flatMap.mp hf
  have hmember := hplain m hm
  cases m with
  | object span fields skipped => exact ⟨hmember.self.1 f hf, fun t ht => hmember.field hf ht⟩
  | _ => cases hf

/-- The comments at a field of an object are among those of all members. -/
theorem mem_docsOfTypes_of_objectFields (hf : f ∈ members.flatMap (·.objectFields)) {e : String × Doc}
    (he : e ∈ docsOfField path f) : e ∈ docsOfTypes path members := by
  obtain ⟨m, hm, hf⟩ := List.mem_flatMap.mp hf
  refine mem_docsOfTypes.mpr ⟨m, hm, ?_⟩
  cases m with
  | object span fields skipped =>
    rw [docsOfType]
    exact mem_docsOfFields.mpr ⟨f, hf, he⟩
  | _ => cases hf

/-- The fields of the objects of an intersection stand at the root of the shape. -/
theorem fieldAt_members {span : Span} (htype : d.type = .intersection span members)
    (hroot : TypeAt d "" d.type) (hdistinct : ((members.flatMap (·.objectFields)).map (·.name)).Nodup)
    (hf : f ∈ members.flatMap (·.objectFields)) : FieldAt d "" f := by
  rw [htype] at hroot
  have hplain : ∀ m ∈ members, m.Everywhere TypeExpr.HasPlainFields :=
    fun m hm => hroot.plain.intersectionMember hm
  have hfields : ∀ g ∈ members.flatMap (·.objectFields), IsPlain g.name ∧
      ∀ t ∈ g.type?, t.Everywhere TypeExpr.HasPlainFields :=
    fun g hg => plain_of_mem_objectFields hplain hg
  refine ⟨(hfields f hf).1, (hfields f hf).2, fun e he => ?_, fun e he hwithin => ?_⟩
  · refine hroot.entered e ?_
    rw [docsOfType]
    exact mem_docsOfTypes_of_objectFields hf he
  · have he := below_empty_of_mem_docsOfShape he
      ((below_field "" (hfields f hf).1).of_within hwithin)
    rw [htype, docsOfType] at he
    rcases mem_docsOfTypes_members hplain he with he | he | he
    · exact .inl (mem_docsOfField_of_within (fun g hg => (hfields g hg).1) hdistinct
        (fun g hg => (hfields g hg).2) hf he hwithin)
    · exact absurd he (hwithin.not_item (hfields f hf).1)
    · refine .inr ?_
      rw [strayDocs, htype]
      exact he

end Members

/-- The own fields of a shape stand at its root. -/
theorem fieldAt_root (hplain : d.type.Everywhere TypeExpr.HasPlainFields)
    (hdistinct : ((ShapeStructure.ofDecl d).1.fields.map (·.name)).Nodup) {f : Field}
    (hf : f ∈ (ShapeStructure.ofDecl d).1.fields) : FieldAt d "" f := by
  have hroot := typeAt_root hplain
  unfold ShapeStructure.ofDecl at hf hdistinct
  dsimp only at hf hdistinct
  split at hf
  · rename_i span fields skipped htype
    rw [htype] at hroot
    exact hroot.field hf
  · rename_i span members htype
    split at hf
    · cases hf
    · rename_i halias
      simp only [htype, halias, if_false, ShapeStructure.fields_addMembers, List.nil_append,
        Bool.false_eq_true] at hf hdistinct
      exact fieldAt_members htype hroot hdistinct hf
  · split at hf <;> cases hf
  · cases hf

end Annotation

end ServiceGraph
