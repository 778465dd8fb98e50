import Mathlib.Data.List.Basic
import ServiceGraph.Proofs.Annotation.Paths
import ServiceGraph.Proofs.Schema.Recursion

/-!
Positions of fields, and the paths that name them.

A position is the list of the steps that lead to it from a shape's root. Its path (`TypePath.ofSteps`) is what
comments are entered under. Nothing in a name is escaped, so two positions can have one path: a dot in a name
reads like a step to a field, `[]` at its end like a step to the items of a list, and an empty name at the root
like no step at all (`TypePath.ofSteps_dotted`, `ofSteps_bracketed`, `ofSteps_nameless`).

These are the only ways. Positions without such names (`TypePath.Clear`) are told apart by their paths
(`TypePath.ofSteps_inj`).
-/

namespace ServiceGraph

open Syntax
open Schema (Step)

namespace TypePath

/-! ## 1. Steps and paths -/

/-- The path behind one more step. -/
def after (path : String) : Step → String
  | .item => item path
  | .field name => field path name

/-- The path of a position in a shape. -/
def ofSteps (p : List Step) : String := p.foldl after ""

@[simp] theorem ofSteps_nil : ofSteps [] = "" := rfl

@[simp] theorem ofSteps_item (p : List Step) : ofSteps (p ++ [Step.item]) = item (ofSteps p) := by
  simp [ofSteps, after]

@[simp] theorem ofSteps_field (p : List Step) (name : String) :
    ofSteps (p ++ [Step.field name]) = field (ofSteps p) name := by
  simp [ofSteps, after]

theorem ofSteps_append (p q : List Step) : ofSteps (p ++ q) = q.foldl after (ofSteps p) := by
  simp [ofSteps]

theorem field_cases (path name : String) :
    path = "" ∧ field path name = name ∨
      path ≠ "" ∧ (field path name).toList = path.toList ++ '.' :: name.toList := by
  by_cases h : path = ""
  · exact .inl ⟨h, h ▸ field_root name⟩
  · exact .inr ⟨h, toList_field h name⟩

/-! ### Names that look like steps -/

/-- A dot in a name looks like a step to a field. -/
theorem ofSteps_dotted (p rest : List Step) {front : String} (behind : String)
    (h : ofSteps p ≠ "" ∨ front ≠ "") :
    ofSteps (p ++ .field (front ++ "." ++ behind) :: rest) =
      ofSteps (p ++ .field front :: .field behind :: rest) := by
  have hstep : field (ofSteps p) (front ++ "." ++ behind) = field (field (ofSteps p) front) behind := by
    by_cases hp : ofSteps p = ""
    · have hfront := h.resolve_left (not_not.mpr hp)
      simp [field, hp, hfront]
    · simp [field, hp, String.append_assoc]
  rw [ofSteps_append, ofSteps_append]
  simp only [List.foldl_cons, after, hstep]

/-- Brackets at the end of a name look like a step to the items of a list. -/
theorem ofSteps_bracketed (p rest : List Step) (name : String) :
    ofSteps (p ++ .field (name ++ "[]") :: rest) = ofSteps (p ++ .field name :: .item :: rest) := by
  have hstep : field (ofSteps p) (name ++ "[]") = item (field (ofSteps p) name) := by
    by_cases hp : ofSteps p = ""
    · simp [field, item, hp]
    · simp [field, item, hp, String.append_assoc]
  rw [ofSteps_append, ofSteps_append]
  simp only [List.foldl_cons, after, hstep]

/-- A field without a name at the root looks like the root. -/
theorem ofSteps_nameless (rest : List Step) : ofSteps (.field "" :: rest) = ofSteps rest := rfl

/-! ### Positions with clear names -/

/-- A name holds no dot, and does not end like the path of items. -/
def IsClear (name : String) : Prop := '.' ∉ name.toList ∧ ¬ ['[', ']'] <:+ name.toList

-- by a walk over the name, not over all characters
instance (name : String) : Decidable (IsClear name) :=
  @instDecidableAnd _ _ inferInstance inferInstance

/-- The names on the way to a position are clear, and it does not begin with an empty one. -/
structure Clear (p : List Step) : Prop where
  names : ∀ step ∈ p, ∀ name, step = .field name → IsClear name
  root : p.head? ≠ some (.field "")

instance (p : List Step) : Decidable (Clear p) :=
  have : DecidablePred fun step : Step => ∀ name, step = .field name → IsClear name := fun step =>
    match step with
    | .item => isTrue nofun
    | .field name => decidable_of_iff (IsClear name) ⟨fun h _ heq => by cases heq; exact h, fun h => h name rfl⟩
  decidable_of_iff ((∀ step ∈ p, ∀ name, step = .field name → IsClear name) ∧
    p.head? ≠ some (.field "")) ⟨fun h => ⟨h.1, h.2⟩, fun h => ⟨h.names, h.root⟩⟩

namespace Clear

variable {p q : List Step} {step : Step}

theorem init (h : Clear (p ++ [step])) : Clear p where
  names s hs := h.names s (List.mem_append_left _ hs)
  root hhead := h.root (by rw [List.head?_append_of_ne_nil, hhead]; rintro rfl; cases hhead)

theorem last {name : String} (h : Clear (p ++ [.field name])) : IsClear name :=
  h.names _ (by simp) name rfl

/-- Only the root has the empty path. -/
theorem ofSteps_eq_empty (h : Clear p) (hempty : ofSteps p = "") : p = [] := by
  induction p using List.reverseRecOn with
  | nil => rfl
  | append_singleton p step ih =>
    cases step with
    | item =>
      have hlist := congrArg String.toList ((ofSteps_item p).symm.trans hempty)
      simp [toList_item] at hlist
    | field name =>
      rw [ofSteps_field] at hempty
      rcases field_cases (ofSteps p) name with ⟨hp, hfield⟩ | ⟨-, hfield⟩
      · obtain rfl := ih h.init hp
        rw [hfield] at hempty
        exact absurd rfl (hempty ▸ h.root)
      · rw [hempty] at hfield
        simp at hfield

end Clear

/-- Where the last dot of a text stands, and what is behind it, are determined. -/
theorem eq_of_append_dot {xs ys m n : List Char} (hm : '.' ∉ m) (hn : '.' ∉ n)
    (h : xs ++ '.' :: m = ys ++ '.' :: n) : xs = ys ∧ m = n := by
  have hsuffix := List.suffix_or_suffix_of_suffix (List.suffix_append xs ('.' :: m))
    (h ▸ List.suffix_append ys ('.' :: n))
  have htail : '.' :: m = '.' :: n := by
    rcases hsuffix with hs | hs
    · exact (List.suffix_cons_iff.mp hs).resolve_right fun hs => hn (hs.mem List.mem_cons_self)
    · exact ((List.suffix_cons_iff.mp hs).resolve_right fun hs => hm (hs.mem List.mem_cons_self)).symm
  obtain rfl : m = n := List.cons_injective htail
  exact ⟨List.append_cancel_right h, rfl⟩

/-- A clear name does not lead to where the items of a list are. -/
theorem field_ne_item {name : String} (hname : IsClear name) (path other : String) :
    field path name ≠ item other := by
  intro heq
  have hends : ['[', ']'] <:+ (field path name).toList := by
    rw [heq, toList_item]
    exact List.suffix_append ..
  rcases field_cases path name with ⟨-, hfield⟩ | ⟨-, hfield⟩
  · exact hname.2 (hfield ▸ hends)
  · rw [hfield] at hends
    rcases List.suffix_or_suffix_of_suffix hends (List.suffix_append path.toList ('.' :: name.toList))
      with hs | hs
    · rcases List.suffix_cons_iff.mp hs with hs | hs
      · simp at hs
      · exact hname.2 hs
    · simpa using hs.mem List.mem_cons_self

/-- Fields with clear names are at one path only if the names and the paths that lead to them are equal. -/
theorem field_inj {path other name name' : String} (hname : IsClear name) (hname' : IsClear name')
    (heq : field path name = field other name') : path = other ∧ name = name' := by
  rcases field_cases path name with ⟨rfl, hfield⟩ | ⟨-, hfield⟩ <;>
    rcases field_cases other name' with ⟨rfl, hfield'⟩ | ⟨-, hfield'⟩
  · exact ⟨rfl, hfield.symm.trans (heq.trans hfield')⟩
  · rw [← heq, hfield] at hfield'
    exact absurd (hfield' ▸ by simp) hname.1
  · rw [heq, hfield'] at hfield
    exact absurd (hfield ▸ by simp) hname'.1
  · rw [heq, hfield'] at hfield
    obtain ⟨hpath, hnames⟩ := eq_of_append_dot hname'.1 hname.1 hfield
    exact ⟨(String.toList_inj.mp hpath).symm, (String.toList_inj.mp hnames).symm⟩

/-- **Clear positions with one path are one position.** -/
theorem ofSteps_inj {p q : List Step} (hp : Clear p) (hq : Clear q) (h : ofSteps p = ofSteps q) :
    p = q := by
  induction p using List.reverseRecOn generalizing q with
  | nil => exact (hq.ofSteps_eq_empty h.symm).symm
  | append_singleton p step ih =>
    rcases List.eq_nil_or_concat q with rfl | ⟨q, step', rfl⟩
    · exact hp.ofSteps_eq_empty h
    rw [List.concat_eq_append] at *
    match step, step', hp, hq, h with
    | .item, .item, hp, hq, h =>
      rw [ofSteps_item, ofSteps_item] at h
      have hlist := congrArg String.toList h
      rw [toList_item, toList_item] at hlist
      rw [ih hp.init hq.init (String.toList_inj.mp (List.append_cancel_right hlist))]
    | .field name, .field name', hp, hq, h =>
      rw [ofSteps_field, ofSteps_field] at h
      obtain ⟨hpath, rfl⟩ := field_inj hp.last hq.last h
      rw [ih hp.init hq.init hpath]
    | .field name, .item, hp, _, h =>
      rw [ofSteps_field, ofSteps_item] at h
      exact absurd h (field_ne_item hp.last _ _)
    | .item, .field name', _, hq, h =>
      rw [ofSteps_field, ofSteps_item] at h
      exact absurd h.symm (field_ne_item hq.last _ _)

end TypePath

/-! ## 2. The walk over a type, with positions -/

namespace Annotation

open TypePath

mutual

/-- The fields that the walk over a type comes to, with their positions. -/
def positionsOfType (p : List Step) : TypeExpr → List (List Step × FieldOf TypeExpr)
  | .object _ fields _ => positionsOfFields p fields
  | .array _ item => positionsOfType (p ++ [Step.item]) item
  | .reference _ name args => if isListName name then positionsOfTypes (p ++ [Step.item]) args else []
  | .union _ items => positionsOfTypes p items
  | .intersection _ items => positionsOfTypes p items
  | _ => []

def positionsOfTypes (p : List Step) : List TypeExpr → List (List Step × FieldOf TypeExpr)
  | [] => []
  | t :: rest => positionsOfType p t ++ positionsOfTypes p rest

def positionsOfFields (p : List Step) : List (FieldOf TypeExpr) → List (List Step × FieldOf TypeExpr)
  | [] => []
  | f :: rest => positionsOfField p f ++ positionsOfFields p rest

def positionsOfField (p : List Step) : FieldOf TypeExpr → List (List Step × FieldOf TypeExpr)
  | ⟨name, isOptional, isReadonly, type?, doc?, span⟩ =>
    (p ++ [Step.field name], ⟨name, isOptional, isReadonly, type?, doc?, span⟩) ::
      positionsOfOption (p ++ [Step.field name]) type?

def positionsOfOption (p : List Step) : Option TypeExpr → List (List Step × FieldOf TypeExpr)
  | some t => positionsOfType p t
  | none => []

end

/-- The fields of a shape with their positions. -/
def positions (d : ShapeDecl) : List (List Step × Field) := positionsOfType [] d.type

/-- The comment at a position, if there is one, under the position's path. -/
def docsAt (e : List Step × Field) : List (String × Doc) := e.2.doc?.toList.map (ofSteps e.1, ·)

mutual

/-- The comments of a type are those of its fields, under the paths of their positions. -/
theorem docsOfType_ofSteps (p : List Step) :
    ∀ t : TypeExpr, docsOfType (ofSteps p) t = (positionsOfType p t).flatMap docsAt
  | .object _ fields _ => by
      rw [docsOfType, positionsOfType, docsOfFields_ofSteps p fields]
  | .array _ item => by
      rw [docsOfType, positionsOfType, ← docsOfType_ofSteps (p ++ [Step.item]) item, ofSteps_item]
  | .reference _ name args => by
      rw [docsOfType, positionsOfType]
      split
      · rw [← docsOfTypes_ofSteps (p ++ [Step.item]) args, ofSteps_item]
      · rfl
  | .union _ items => by rw [docsOfType, positionsOfType, docsOfTypes_ofSteps p items]
  | .intersection _ items => by rw [docsOfType, positionsOfType, docsOfTypes_ofSteps p items]
  | .keyword .. | .literal .. | .tuple .. | .function .. | .other .. => by
      rw [docsOfType, positionsOfType] <;> simp

theorem docsOfTypes_ofSteps (p : List Step) :
    ∀ items : List TypeExpr, docsOfTypes (ofSteps p) items = (positionsOfTypes p items).flatMap docsAt
  | [] => rfl
  | t :: rest => by
      rw [docsOfTypes, positionsOfTypes, List.flatMap_append, docsOfType_ofSteps p t,
        docsOfTypes_ofSteps p rest]

theorem docsOfFields_ofSteps (p : List Step) :
    ∀ fields : List (FieldOf TypeExpr),
      docsOfFields (ofSteps p) fields = (positionsOfFields p fields).flatMap docsAt
  | [] => rfl
  | f :: rest => by
      rw [docsOfFields, positionsOfFields, List.flatMap_append, docsOfField_ofSteps p f,
        docsOfFields_ofSteps p rest]

theorem docsOfField_ofSteps (p : List Step) :
    ∀ f : FieldOf TypeExpr, docsOfField (ofSteps p) f = (positionsOfField p f).flatMap docsAt
  | ⟨name, _, _, type?, _, _⟩ => by
      rw [docsOfField, positionsOfField, List.flatMap_cons, ← ofSteps_field,
        docsOfOption_ofSteps (p ++ [Step.field name]) type?]
      rfl

theorem docsOfOption_ofSteps (p : List Step) :
    ∀ type? : Option TypeExpr,
      docsOfOption (ofSteps p) type? = (positionsOfOption p type?).flatMap docsAt
  | some t => by rw [docsOfOption, positionsOfOption, docsOfType_ofSteps p t]
  | none => rfl

end

/-- **The comments of a shape are its own and those of its fields, under the paths of their positions.** -/
theorem docsOfShape_eq_positions (d : ShapeDecl) :
    docsOfShape d = d.doc?.toList.map ("", ·) ++ (positions d).flatMap docsAt := by
  rw [docsOfShape, positions, ← docsOfType_ofSteps, ofSteps_nil]

/-! ### Parts of the walk -/

theorem positionsOfTypes_subset {p : List Step} {t : TypeExpr} :
    ∀ {items : List TypeExpr}, t ∈ items → positionsOfType p t ⊆ positionsOfTypes p items
  | u :: rest, ht => by
      rw [positionsOfTypes]
      rcases List.mem_cons.mp ht with rfl | ht
      · exact List.subset_append_left _ _
      · exact List.Subset.trans (positionsOfTypes_subset ht) (List.subset_append_right _ _)

theorem positionsOfFields_subset {p : List Step} {f : Field} :
    ∀ {fields : List Field}, f ∈ fields → positionsOfField p f ⊆ positionsOfFields p fields
  | g :: rest, hf => by
      rw [positionsOfFields]
      rcases List.mem_cons.mp hf with rfl | hf
      · exact List.subset_append_left _ _
      · exact List.Subset.trans (positionsOfFields_subset hf) (List.subset_append_right _ _)

theorem positionsOfField_eq (p : List Step) (f : Field) :
    positionsOfField p f =
      (p ++ [Step.field f.name], f) :: positionsOfOption (p ++ [Step.field f.name]) f.type? := by
  cases f
  rw [positionsOfField]

mutual

/-- The walk comes to a field by the step to it. -/
theorem exists_init_of_mem_positionsOfType {p : List Step} :
    ∀ {t : TypeExpr}, ∀ e ∈ positionsOfType p t, ∃ q, e.1 = q ++ [Step.field e.2.name]
  | .object _ fields _, e, he => by
      rw [positionsOfType] at he
      exact exists_init_of_mem_positionsOfFields e he
  | .array _ item, e, he => by
      rw [positionsOfType] at he
      exact exists_init_of_mem_positionsOfType e he
  | .reference _ name args, e, he => by
      rw [positionsOfType] at he
      split at he
      · exact exists_init_of_mem_positionsOfTypes e he
      · cases he
  | .union _ items, e, he => by
      rw [positionsOfType] at he
      exact exists_init_of_mem_positionsOfTypes e he
  | .intersection _ items, e, he => by
      rw [positionsOfType] at he
      exact exists_init_of_mem_positionsOfTypes e he
  | .keyword .., e, he | .literal .., e, he | .tuple .., e, he | .function .., e, he
  | .other .., e, he => by
      rw [positionsOfType] at he <;> cases he

theorem exists_init_of_mem_positionsOfTypes {p : List Step} :
    ∀ {items : List TypeExpr}, ∀ e ∈ positionsOfTypes p items, ∃ q, e.1 = q ++ [Step.field e.2.name]
  | t :: rest, e, he => by
      rw [positionsOfTypes] at he
      rcases List.mem_append.mp he with he | he
      · exact exists_init_of_mem_positionsOfType e he
      · exact exists_init_of_mem_positionsOfTypes e he

theorem exists_init_of_mem_positionsOfFields {p : List Step} :
    ∀ {fields : List (FieldOf TypeExpr)}, ∀ e ∈ positionsOfFields p fields,
      ∃ q, e.1 = q ++ [Step.field e.2.name]
  | f :: rest, e, he => by
      rw [positionsOfFields] at he
      rcases List.mem_append.mp he with he | he
      · exact exists_init_of_mem_positionsOfField e he
      · exact exists_init_of_mem_positionsOfFields e he

theorem exists_init_of_mem_positionsOfField {p : List Step} :
    ∀ {f : FieldOf TypeExpr}, ∀ e ∈ positionsOfField p f, ∃ q, e.1 = q ++ [Step.field e.2.name]
  | ⟨name, _, _, type?, _, _⟩, e, he => by
      rw [positionsOfField] at he
      rcases List.mem_cons.mp he with rfl | he
      · exact ⟨p, rfl⟩
      · exact exists_init_of_mem_positionsOfOption e he

theorem exists_init_of_mem_positionsOfOption {p : List Step} :
    ∀ {type? : Option TypeExpr}, ∀ e ∈ positionsOfOption p type?,
      ∃ q, e.1 = q ++ [Step.field e.2.name]
  | some t, e, he => by
      rw [positionsOfOption] at he
      exact exists_init_of_mem_positionsOfType e he

end

end Annotation

end ServiceGraph
