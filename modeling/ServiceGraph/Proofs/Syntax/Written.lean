import ServiceGraph.Emission.Literal
import ServiceGraph.Proofs.Syntax.Moves
import ServiceGraph.Syntax.Reader.Type

/-!
Types as they are written, and how they are read.

`Written` is the fragment of the type language in which declarations are written out: a few words, quoted texts,
numbers, unions of texts, `Array<…>`, tuples, and objects whose fields may have comments. `Written.tokens`
spells such a type, and `Written.Reads` says which type expressions are that type, whatever their
spans are. The main result is that reading the tokens of a written type gives that type
(`TypeReader.takes_type`).

Every reader counts down a budget. Sixteen for each token that is left are enough, and each token
that is taken leaves more than its readers have used.
-/

namespace ServiceGraph.Syntax

open Text Token Reader

/-! ## 1. Written types -/

/-- A field of a written object. -/
structure WrittenFieldOf (τ : Type) where
  /-- The comment in front, delimiters included. -/
  comment? : Option String
  name : String
  isOptional : Bool
  type : τ

inductive Written
  | word (name : String)
  | text (value : String)
  | number (isNegative : Bool) (digits : String)
  /-- A union of two or more texts. -/
  | choice (first second : String) (others : List String)
  | list (items : Written)
  | tuple (items : List Written)
  /-- An object, with a semicolon behind its last field or without. -/
  | object (isClosed : Bool) (fields : List (WrittenFieldOf Written))

abbrev WrittenField := WrittenFieldOf Written

namespace Written

def sign (text : String) : Signature := (.punctuation, text)

def quoted (text : String) : Signature := (.string, quote text)

/-- The token of a property's name. -/
def property (name : String) : Signature :=
  if Emission.isIdentifier name then (.name, name) else quoted name

/-- Further alternatives of a union of texts. -/
def alternatives : List String → List Signature
  | [] => []
  | value :: rest => sign "|" :: quoted value :: alternatives rest

mutual

/-- The tokens of a type. -/
def tokens : Written → List Signature
  | .word name => [(.name, name)]
  | .text value => [quoted value]
  | .number isNegative digits => (if isNegative then [sign "-"] else []) ++ [(.number, digits)]
  | .choice first second others => quoted first :: alternatives (second :: others)
  | .list items => (.name, "Array") :: sign "<" :: (tokens items ++ [sign ">"])
  | .tuple items => sign "[" :: (itemTokens items ++ [sign "]"])
  | .object isClosed fields => sign "\x7b" :: (fieldTokens isClosed fields ++ [sign "\x7d"])

/-- The items of a tuple, with commas between them. -/
def itemTokens : List Written → List Signature
  | [] => []
  | item :: rest => tokens item ++ moreItems rest

def moreItems : List Written → List Signature
  | [] => []
  | item :: rest => sign "," :: (tokens item ++ moreItems rest)

/-- The fields of an object, each with a semicolon behind it, the last one if `isClosed`. -/
def fieldTokens (isClosed : Bool) : List (WrittenFieldOf Written) → List Signature
  | [] => []
  | ⟨comment?, name, isOptional, type⟩ :: rest =>
    (comment?.map (TokenKind.comment, ·)).toList ++ property name
      :: ((if isOptional then [sign "?"] else []) ++ sign ":" :: (tokens type
        ++ ((if isClosed || !rest.isEmpty then [sign ";"] else []) ++ fieldTokens isClosed rest)))

end

/-- The words that are written. -/
def words : List String :=
  ["string", "number", "boolean", "null", "unknown", "true", "false", "Integer"]

/-- What a word is read as. -/
def wordType (span : Span) (name : String) : TypeExpr :=
  if name = "null" then .literal span .null
  else if name = "true" then .literal span (.bool true)
  else if name = "false" then .literal span (.bool false)
  else if name = "Integer" then .reference span name []
  else .keyword span name

/-- The number that is read, with its sign. -/
def signed (isNegative : Bool) (digits : String) : String :=
  if isNegative then "-" ++ digits else digits

mutual

/-- A type expression is the written type, whatever its spans are. -/
def Reads : Written → TypeExpr → Prop
  | .word name, e => ∃ span, e = wordType span name
  | .text value, e => ∃ span, e = .literal span (.string value)
  | .number isNegative digits, e => ∃ span, e = .literal span (.number (signed isNegative digits))
  | .choice first second others, e => ∃ span es, e = .union span es ∧
      es.map TypeExpr.string? = (first :: second :: others).map some
  | .list items, e => ∃ span item, e = .reference span "Array" [item] ∧ Reads items item
  | .tuple items, e => ∃ span es, e = .tuple span es ∧ ReadsItems items es
  | .object _ fields, e => ∃ span fs, e = .object span fs [] ∧ ReadsFields fields fs

def ReadsItems : List Written → List TypeExpr → Prop
  | [], es => es = []
  | item :: rest, es => ∃ e others, es = e :: others ∧ Reads item e ∧ ReadsItems rest others

def ReadsFields : List (WrittenFieldOf Written) → List Field → Prop
  | [], fs => fs = []
  | ⟨comment?, name, isOptional, type⟩ :: rest, fs => ∃ e doc? span others,
      fs = ⟨name, isOptional, false, some e, doc?, span⟩ :: others ∧
        doc?.map (·.text) = comment? ∧ Reads type e ∧ ReadsFields rest others

end

mutual

/-- What can be read back: texts that can be quoted, known words, and comments that are doc comments. -/
def Sound : Written → Prop
  | .word name => name ∈ words
  | .text value => IsQuotable value
  | .number _ digits => IsNumeral digits.toList
  | .choice first second others => ∀ value ∈ first :: second :: others, IsQuotable value
  | .list items => Sound items
  | .tuple items => SoundItems items
  | .object _ fields => SoundFields fields

def SoundItems : List Written → Prop
  | [] => True
  | item :: rest => Sound item ∧ SoundItems rest

def SoundFields : List (WrittenFieldOf Written) → Prop
  | [] => True
  | ⟨comment?, name, _, type⟩ :: rest =>
    (∀ comment ∈ comment?, "/**".toList.isPrefixOf comment.toList = true) ∧ IsQuotable name ∧
      Sound type ∧ SoundFields rest

end

end Written

/-! ## 2. Types without operators -/

namespace TypeReader

open Written

section Plain

variable {source : List Char} {t u : Token} {ts rest : List Token} {last last' : Mark}
  {errors : List SyntaxError} {e : TypeExpr} {j : Nat}

/-- Texts with which no operator and no function type starts, and that end no list. -/
def StartsPlain (text : String) : Prop :=
  text ∉ ["|", "&", "readonly", "infer", "new", "abstract", "(", "<", ">", "]", "..."]

theorem single_of_primary (ending : Option Ending) (ht : t.isComment = false)
    (hplain : StartsPlain t.text) (hu : u.isComment = false) (hstop : u.text ≠ "[")
    (h : primary (j + 1) ⟨source, t :: ts, last, errors⟩ =
      some (e, ⟨source, u :: rest, last', errors⟩)) :
    single ending (j + 2) ⟨source, t :: ts, last, errors⟩ =
      some (e, ⟨source, u :: rest, last', errors⟩) := by
  simp only [StartsPlain, List.mem_cons, List.not_mem_nil, or_false, not_or] at hplain
  obtain ⟨b, hb⟩ := endsHere_apply ending ⟨source, u :: rest, last', errors⟩
  unfold single
  simp only [bind_apply, ahead_cons ht, Option.bind_some, hplain]
  simp [h, suffixes, peekText_cons hu, hstop, hb]

theorem intersection_of_primary (ending : Option Ending) (ht : t.isComment = false)
    (hplain : StartsPlain t.text) (hu : u.isComment = false) (hstop : u.text ∉ ["[", "&"])
    (h : primary (j + 1) ⟨source, t :: ts, last, errors⟩ =
      some (e, ⟨source, u :: rest, last', errors⟩)) :
    intersection ending (j + 3) ⟨source, t :: ts, last, errors⟩ =
      some (e, ⟨source, u :: rest, last', errors⟩) := by
  simp only [List.mem_cons, List.not_mem_nil, or_false, not_or] at hstop
  have hsingle := single_of_primary ending ht hplain hu hstop.1 h
  simp only [StartsPlain, List.mem_cons, List.not_mem_nil, or_false, not_or] at hplain
  unfold intersection
  simp [peek?_cons ht, accept_cons_of_ne ht hplain.2.1, hsingle, conjuncts,
    accept_cons_of_ne hu hstop.2]

theorem type_of_primary (ending : Option Ending) (ht : t.isComment = false)
    (hplain : StartsPlain t.text) (hu : u.isComment = false)
    (hstop : u.text ∉ ["[", "&", "|", "extends"])
    (h : primary (j + 1) ⟨source, t :: ts, last, errors⟩ =
      some (e, ⟨source, u :: rest, last', errors⟩)) :
    type ending (j + 5) ⟨source, t :: ts, last, errors⟩ =
      some (e, ⟨source, u :: rest, last', errors⟩) := by
  simp only [List.mem_cons, List.not_mem_nil, or_false, not_or] at hstop
  have hinter := intersection_of_primary ending ht hplain hu (by simp [hstop]) h
  simp only [StartsPlain, List.mem_cons, List.not_mem_nil, or_false, not_or] at hplain
  obtain ⟨b, hb⟩ := endsHere_apply ending ⟨source, u :: rest, last', errors⟩
  unfold type union
  simp [peek?_cons ht, hplain, hinter, alternatives, accept_cons_of_ne hu hstop.2.2.1,
    peekText_cons hu, hstop.2.2.2, hb]

end Plain

/-! ## 3. What stands behind a type -/

/-- What may stand behind a written type. -/
def Follows (rest : List Token) : Prop :=
  ∃ u others, rest = u :: others ∧ u.isComment = false ∧ u.text ∈ [";", ",", ">", "]", ")", "\x7d"]

theorem Follows.ne {u : Token} (h : u.text ∈ [";", ",", ">", "]", ")", "\x7d"]) (text : String)
    (htext : text ∉ [";", ",", ">", "]", ")", "\x7d"]) : u.text ≠ text :=
  fun heq => htext (heq ▸ h)

/-! ## 4. Names -/

section Names

variable {source : List Char} {t u : Token} {ts rest : List Token} {last last' : Mark}
  {errors : List SyntaxError} {j : Nat}

theorem dottedRest_cons (budget : Nat) (hu : u.isComment = false) (hdot : u.text ≠ ".") :
    dottedRest budget ⟨source, u :: rest, last, errors⟩ =
      some ((), ⟨source, u :: rest, last, errors⟩) := by
  cases budget with
  | zero => rfl
  | succ b => simp [dottedRest, ahead_cons hu, hdot]

theorem leadingComments_cons (hu : u.isComment = false) :
    leadingComments ⟨source, u :: rest, last, errors⟩ =
      some ([], ⟨source, u :: rest, last, errors⟩) := by
  simp [leadingComments, hu]

theorem primary_name (hkind : t.kind = .name) :
    primary (j + 1) ⟨source, t :: ts, last, errors⟩ = named t j ⟨source, ts, t.stop, errors⟩ := by
  have ht := isComment_of_kind hkind (by decide)
  simp [primary, next_cons ht, hkind]

/-- A name that is no keyword refers to something. -/
theorem named_reference (htext : t.text ∈ ["Integer", "Array"]) (ht : t.StandsIn source)
    (hu : u.isComment = false) (hdot : u.text ≠ ".") :
    named t (j + 1) ⟨source, u :: rest, t.stop, errors⟩ =
      reference t.start t.stop.offset t.text j ⟨source, u :: rest, t.stop, errors⟩ := by
  have hslice : String.ofList (sliceFrom t.start.offset t.stop.offset 0 source) = t.text := by
    rw [show sliceFrom _ _ 0 source = _ from ht, String.ofList_toList]
  simp only [List.mem_cons, List.not_mem_nil, or_false] at htext
  rcases htext with htext | htext <;>
    simp [named, htext, keywords, peekText_cons hu, dottedRest_cons j hu hdot, hslice]

/-- A word. -/
theorem primary_word (hname : t.text ∈ words) (hkind : t.kind = .name) (ht : t.StandsIn source)
    (hu : u.isComment = false) (hdot : u.text ≠ ".") (hangle : u.text ≠ "<") :
    ∃ span last', primary (j + 3) ⟨source, t :: u :: rest, last, errors⟩ =
      some (wordType span t.text, ⟨source, u :: rest, last', errors⟩) := by
  rw [primary_name hkind]
  by_cases hinteger : t.text = "Integer"
  · rw [named_reference (by simp [hinteger]) ht hu hdot]
    refine ⟨t.start.upTo t.stop.offset, t.stop, ?_⟩
    simp only [reference, bind_apply, accept_cons_of_ne hu hangle, Option.bind_some]
    simp [wordType, hinteger]
  · refine ⟨t.span, t.stop, ?_⟩
    simp only [words, List.mem_cons, List.not_mem_nil, or_false] at hname
    rcases hname with h | h | h | h | h | h | h | h <;>
      simp_all [named, wordType, keywords]

end Names

/-! ## 5. One type at a time

In each case what is inside the type has been read before. -/

section Step

variable {source : List Char} {t u v : Token} {ts rest : List Token} {j : Nat}

theorem startsPlain_of_head {text : String} {c : Char} (h : text.toList.head? = some c)
    (hc : c ∉ ['|', '&', 'r', 'i', 'n', 'a', '(', '<', '>', ']', '.']) : StartsPlain text := by
  intro hmem
  simp only [List.mem_cons, List.not_mem_nil, or_false] at hmem
  rcases hmem with rfl | rfl | rfl | rfl | rfl | rfl | rfl | rfl | rfl | rfl | rfl <;>
    (simp at h; subst h; simp at hc)

theorem head_quote (text : String) : (quote text).toList.head? = some '"' := by
  simp [quote]

theorem takes_of_primary {P : TypeExpr → Prop} (ending : Option Ending) (ht : t.isComment = false)
    (hplain : StartsPlain t.text) (hrest : Follows rest)
    (h : Takes (primary (j + 1)) source (t :: ts) rest P) :
    Takes (type ending (j + 5)) source (t :: ts) rest P := by
  obtain ⟨u, others, rfl, hu, hstop⟩ := hrest
  intro last errors
  obtain ⟨e, last', he, hP⟩ := h last errors
  refine ⟨e, last', type_of_primary ending ht hplain hu ?_ he, hP⟩
  intro hmem
  simp only [List.mem_cons, List.not_mem_nil, or_false] at hmem hstop
  rcases hmem with h | h | h | h <;> simp [h] at hstop

theorem takes_word (hkind : t.kind = .name) (hname : t.text ∈ words) (ht : t.StandsIn source)
    (hrest : Follows rest) :
    Takes (primary (j + 3)) source [t] rest (Reads (.word t.text)) := by
  obtain ⟨u, others, rfl, hu, hstop⟩ := hrest
  intro last errors
  obtain ⟨span, last', h⟩ :=
    primary_word hname hkind ht hu (Follows.ne hstop _ (by decide)) (Follows.ne hstop _ (by decide))
  exact ⟨_, last', h, span, rfl⟩

theorem takes_text {value : String} (hkind : t.kind = .string) (htext : t.text = quote value)
    (hvalue : IsQuotable value) :
    Takes (primary (j + 1)) source [t] rest fun e => ∃ span, e = .literal span (.string value) := by
  intro last errors
  have ht := isComment_of_kind hkind (by decide)
  refine ⟨_, t.stop, ?_, t.span, rfl⟩
  simp [primary, next_cons ht, hkind, htext, unquote_quote hvalue]

theorem takes_number (hkind : t.kind = .number) :
    Takes (primary (j + 1)) source [t] rest (Reads (.number false t.text)) := by
  intro last errors
  have ht := isComment_of_kind hkind (by decide)
  refine ⟨_, t.stop, ?_, t.span, rfl⟩
  simp [primary, next_cons ht, hkind, signed]

theorem takes_negative (hkind : t.kind = .punctuation) (htext : t.text = "-")
    (hkind' : u.kind = .number) :
    Takes (primary (j + 1)) source [t, u] rest (Reads (.number true u.text)) := by
  intro last errors
  have ht := isComment_of_kind hkind (by decide)
  have hu := isComment_of_kind hkind' (by decide)
  refine ⟨_, u.stop, ?_, t.start.upTo u.stop.offset, rfl⟩
  simp [primary, next_cons ht, hkind, htext, expectKind_cons hu hkind', signed]

theorem takes_list {items : Written} (hkind : t.kind = .name) (htext : t.text = "Array")
    (ht : t.StandsIn source) (hu : u.isComment = false) (hopen : u.text = "<")
    (hv : v.isComment = false) (hclose : v.text = ">")
    (hfront : ∃ first others, ts = first :: others ∧ first.isComment = false ∧ first.text ≠ ">")
    (h : Takes (type none j) source ts (v :: rest) items.Reads) :
    Takes (primary (j + 4)) source (t :: u :: (ts ++ [v])) rest (Reads (.list items)) := by
  intro last errors
  obtain ⟨item, last', hitem, hreads⟩ := h u.stop errors
  obtain ⟨first, others, rfl, hfirst, hne⟩ := hfront
  refine ⟨.reference (t.start.upTo v.stop.offset) "Array" [item], v.stop, ?_,
    t.start.upTo v.stop.offset, item, rfl, hreads⟩
  simp only [List.cons_append, List.append_assoc, List.nil_append] at hitem ⊢
  rw [primary_name hkind, named_reference (by simp [htext]) ht hu (by simp [hopen])]
  simp [reference, arguments, accept_cons hu hopen, leadingComments_cons hfirst,
    peekText_cons hfirst, hne, htext, hitem, leadingComments_cons hv, hclose, accept_cons_of_ne hv,
    closeWith_cons hv]

theorem takes_tuple {items : List Written} (hkind : t.kind = .punctuation) (hopen : t.text = "[")
    (hv : v.isComment = false) (hclose : v.text = "]")
    (h : Takes (tupleItems j) source ts (v :: rest) (ReadsItems items)) :
    Takes (primary (j + 1)) source (t :: (ts ++ [v])) rest (Reads (.tuple items)) := by
  intro last errors
  obtain ⟨es, last', hes, hreads⟩ := h t.stop errors
  have ht := isComment_of_kind hkind (by decide)
  refine ⟨.tuple (t.start.upTo v.stop.offset) es, v.stop, ?_, t.start.upTo v.stop.offset, es, rfl,
    hreads⟩
  simp only [List.cons_append, List.append_assoc, List.nil_append]
  simp [primary, next_cons ht, hkind, hopen, hes, closeWith_cons hv hclose]

theorem takes_object {isClosed : Bool} {fields : List WrittenField} (hkind : t.kind = .punctuation)
    (hopen : t.text = "\x7b") (hv : v.isComment = false) (hclose : v.text = "\x7d")
    (h : Takes (members none j) source ts (v :: rest) fun r => ReadsFields fields r.1 ∧ r.2 = []) :
    Takes (primary (j + 1)) source (t :: (ts ++ [v])) rest (Reads (.object isClosed fields)) := by
  intro last errors
  obtain ⟨⟨fs, skipped⟩, last', hfs, hreads, rfl⟩ := h t.stop errors
  have ht := isComment_of_kind hkind (by decide)
  refine ⟨.object (t.start.upTo v.stop.offset) fs [], v.stop, ?_, t.start.upTo v.stop.offset, fs, rfl,
    hreads⟩
  simp only [List.cons_append, List.append_assoc, List.nil_append]
  simp [primary, next_cons ht, hkind, hopen, hfs, closeWith_cons hv hclose]

/-! ## 6. Unions of texts -/

/-- What stands behind one of several texts: a bar, or what stands behind the union. -/
theorem head_alternatives {values : List String}
    (hts : Spelled source ts (Written.alternatives values)) (hrest : Follows rest) :
    ∃ u others, ts ++ rest = u :: others ∧ u.isComment = false ∧ u.text ∉ ["[", "&"] := by
  cases values with
  | nil =>
    obtain rfl := hts.eq_nil
    obtain ⟨u, others, rfl, hu, hstop⟩ := hrest
    refine ⟨u, others, rfl, hu, ?_⟩
    simp only [List.mem_cons, List.not_mem_nil, or_false] at hstop ⊢
    rcases hstop with h | h | h | h | h | h <;> simp [h]
  | cons value more =>
    obtain ⟨bar, ts', rfl, hkind, htext, -, -⟩ := hts.uncons
    exact ⟨bar, ts' ++ rest, rfl, isComment_of_kind hkind (by decide), by simp [htext]⟩

theorem takes_alternatives (ending : Option Ending) :
    ∀ (values : List String) {ts rest : List Token} {budget : Nat},
      (∀ value ∈ values, IsQuotable value) → Spelled source ts (Written.alternatives values) →
      Follows rest → 16 * (ts.length + rest.length) ≤ budget →
      Takes (TypeReader.alternatives ending budget) source ts rest
        fun es => es.map TypeExpr.string? = values.map some
  | [], ts, rest, budget, _, hts, hrest, hbudget => by
      obtain rfl := hts.eq_nil
      obtain ⟨u, others, rfl, hu, hstop⟩ := hrest
      obtain ⟨b, rfl⟩ : ∃ b, budget = b + 1 := ⟨budget - 1, by simp at hbudget; omega⟩
      intro last errors
      refine ⟨[], last, ?_, rfl⟩
      simp [TypeReader.alternatives, accept_cons_of_ne hu (Follows.ne hstop "|" (by decide))]
  | value :: more, ts, rest, budget, hvalues, hts, hrest, hbudget => by
      obtain ⟨bar, ts₁, rfl, hbar, hbartext, -, hts₁⟩ := hts.uncons
      obtain ⟨t, ts₂, rfl, ht, httext, -, hts₂⟩ := hts₁.uncons
      have hbar' := isComment_of_kind hbar (by decide)
      have ht' := isComment_of_kind ht (by decide)
      simp only [List.length_cons] at hbudget
      obtain ⟨j, rfl⟩ : ∃ j, budget = j + 4 := ⟨budget - 4, by omega⟩
      have hplain : StartsPlain t.text :=
        startsPlain_of_head (by rw [httext]; exact head_quote value) (by decide)
      obtain ⟨u, others, hsplit, hu, hstop⟩ := head_alternatives hts₂ hrest
      intro last errors
      have hvalue : Takes (primary (j + 1)) source [t] (ts₂ ++ rest) _ :=
        takes_text ht httext (hvalues value List.mem_cons_self)
      have hmore : Takes (TypeReader.alternatives ending (j + 3)) source ts₂ rest _ :=
        takes_alternatives ending more (fun v hv => hvalues v (List.mem_cons_of_mem _ hv)) hts₂ hrest
          (by omega)
      obtain ⟨e, last₁, he, span, rfl⟩ := hvalue bar.stop errors
      obtain ⟨es, last₂, hes, hmap⟩ := hmore last₁ errors
      refine ⟨.literal span (.string value) :: es, last₂, ?_, congrArg (some value :: ·) hmap⟩
      rw [List.cons_append, List.nil_append, hsplit] at he
      have hinter := intersection_of_primary ending ht' hplain hu hstop he
      rw [hsplit] at hes
      unfold TypeReader.alternatives
      simp [accept_cons hbar' hbartext, hsplit, hinter, hes]

theorem takes_choice (ending : Option Ending) {first second : String} {others : List String}
    {budget : Nat} (hvalues : ∀ value ∈ first :: second :: others, IsQuotable value)
    (hts : Spelled source ts (tokens (.choice first second others))) (hrest : Follows rest)
    (hbudget : 16 * (ts.length + rest.length) ≤ budget) :
    Takes (type ending budget) source ts rest (Reads (.choice first second others)) := by
  obtain ⟨t, ts', rfl, ht, httext, -, hts'⟩ := hts.uncons
  have ht' := isComment_of_kind ht (by decide)
  simp only [List.length_cons] at hbudget
  obtain ⟨j, rfl⟩ : ∃ j, budget = j + 5 := ⟨budget - 5, by omega⟩
  have hplain : StartsPlain t.text :=
    startsPlain_of_head (by rw [httext]; exact head_quote first) (by decide)
  have hbar : t.text ≠ "|" := fun h => hplain (by simp [h])
  obtain ⟨v, behind, hsplit, hv, hvstop⟩ := head_alternatives hts' hrest
  obtain ⟨u, beyond, hrest', hu, hstop⟩ := hrest
  intro last errors
  have hfirst : Takes (primary (j + 1)) source [t] (ts' ++ rest) _ :=
    takes_text ht httext (hvalues first List.mem_cons_self)
  have hothers : Takes (TypeReader.alternatives ending (j + 3)) source ts' rest _ :=
    takes_alternatives ending (second :: others) (fun w hw => hvalues w (List.mem_cons_of_mem _ hw))
      hts' ⟨u, beyond, hrest', hu, hstop⟩ (by omega)
  obtain ⟨e, last₁, he, span, rfl⟩ := hfirst last errors
  obtain ⟨es, last₂, hes, hmap⟩ := hothers last₁ errors
  rw [List.cons_append, List.nil_append, hsplit] at he
  have hinter := intersection_of_primary ending ht' hplain hv hvstop he
  rw [hsplit] at hes
  refine ⟨.union (t.start.upTo last₂.offset) (.literal span (.string first) :: es), last₂, ?_,
    t.start.upTo last₂.offset, _, rfl, congrArg (some first :: ·) hmap⟩
  obtain ⟨b, hb⟩ := endsHere_apply ending ⟨source, u :: beyond, last₂, errors⟩
  obtain ⟨e', es', rfl⟩ : ∃ e' es', es = e' :: es' := by
    cases es with
    | nil => simp at hmap
    | cons e' es' => exact ⟨e', es', rfl⟩
  rw [List.cons_append, hsplit, hrest']
  rw [hrest'] at hes
  unfold type union
  simp [peek?_cons ht', hbar, hinter, hes, peekText_cons hu, Follows.ne hstop "extends" (by decide),
    hb]

/-! ## 7. Fields -/

theorem quote_ne {text : String} (htext : text.toList.head? ≠ some '"') (value : String) :
    quote value ≠ text :=
  fun h => htext (h ▸ head_quote value)

/-- The token of a property's name is no punctuation. -/
theorem property_ne {name text : String} (htext : t.text = (property name).2)
    (hword : Emission.isIdentifier text = false) (hquote : text.toList.head? ≠ some '"') :
    t.text ≠ text := by
  unfold property at htext
  split at htext
  · rename_i hname
    rw [htext]
    rintro rfl
    exact absurd hname (by simp [hword])
  · rw [htext]
    exact quote_ne hquote name

theorem isPropertyName_of_token {name : String} (hkind : t.kind = (property name).1) :
    isPropertyName t = true ∧ t.isComment = false := by
  unfold Written.property at hkind
  split at hkind
  · have hkind' : t.kind = .name := hkind
    exact ⟨by simp [isPropertyName, hkind'], isComment_of_kind hkind' (by decide)⟩
  · have hkind' : t.kind = .string := hkind
    exact ⟨by simp [isPropertyName, hkind'], isComment_of_kind hkind' (by decide)⟩

theorem propertyName_of_token {name : String} (hkind : t.kind = (property name).1)
    (htext : t.text = (property name).2) (hname : IsQuotable name) :
    TypeReader.propertyName t = name := by
  unfold Written.property at hkind htext
  split at htext
  · rename_i hidentifier
    rw [if_pos hidentifier] at hkind
    have hkind' : t.kind = .name := hkind
    simp [TypeReader.propertyName, hkind', htext]
  · rename_i hidentifier
    rw [if_neg hidentifier] at hkind
    have hkind' : t.kind = .string := hkind
    have htext' : t.text = quote name := htext
    simp [TypeReader.propertyName, hkind', htext', unquote_quote hname]

/-- A word is no modifier in front of punctuation. -/
theorem modifiers_cons (budget : Nat) {last : Mark} {errors : List SyntaxError}
    (ht : t.isComment = false) (hstar : t.text ≠ "*") (hu : u.kind = .punctuation)
    (hnext : u.text ∉ ["[", "*"]) :
    modifiers budget ⟨source, t :: u :: rest, last, errors⟩ =
      some ([], ⟨source, t :: u :: rest, last, errors⟩) := by
  simp only [List.mem_cons, List.not_mem_nil, or_false, not_or] at hnext
  have hu' := isComment_of_kind hu (by decide)
  cases budget with
  | zero => rfl
  | succ b =>
    simp [modifiers, ahead_cons ht, modifies, afterComments_cons hu', isPropertyName, hu, hnext, hstar]

/-- The type of a field behind its colon. -/
theorem takes_declaredType {colon : Token} {type : Written} (hcolon : colon.kind = .punctuation)
    (htext : colon.text = ":")
    (h : Takes (TypeReader.type (some .afterType) j) source ts rest type.Reads) :
    Takes (declaredType (j + 1)) source (colon :: ts) rest
      fun r => (∃ e, r.1 = some e ∧ type.Reads e) ∧ r.2 = [] := by
  intro last errors
  obtain ⟨e, last', he, hreads⟩ := h colon.stop errors
  have hcolon' := isComment_of_kind hcolon (by decide)
  refine ⟨(some e, []), last', ?_, ⟨e, rfl, hreads⟩, rfl⟩
  rw [List.cons_append]
  simp [declaredType, peek?_cons hcolon', htext, next_cons hcolon', attempt_of_some he]

/-- One field, without the comment in front of it. -/
theorem takes_member {name : String} {isOptional : Bool} {type : Written} (doc? : Option Doc)
    {n colon : Token} {marks : List Token} (hname : IsQuotable name)
    (hkind : n.kind = (property name).1) (htext : n.text = (property name).2)
    (hmarks : Spelled source marks (if isOptional then [sign "?"] else []))
    (hcolon : colon.kind = .punctuation) (hcolontext : colon.text = ":")
    (h : Takes (TypeReader.type (some .afterType) j) source ts rest type.Reads) :
    Takes (member doc? (j + 2)) source (n :: (marks ++ colon :: ts)) rest fun r =>
      ∃ e span, r = ([⟨name, isOptional, false, some e, doc?, span⟩], []) ∧ type.Reads e := by
  have hn₁ := propertyName_of_token hkind htext hname
  obtain ⟨hn₂, hn⟩ := isPropertyName_of_token hkind
  have hne : ∀ text, _ → _ → n.text ≠ text := fun _ => property_ne htext
  have hcolon' := isComment_of_kind hcolon (by decide)
  have hdeclared := takes_declaredType hcolon hcolontext h
  intro last errors
  cases isOptional with
  | false =>
    obtain rfl := hmarks.eq_nil
    obtain ⟨⟨type?, skipped⟩, last', hr, ⟨e, rfl, hreads⟩, rfl⟩ := hdeclared n.stop errors
    refine ⟨_, last', ?_, e, n.start.upTo last'.offset, rfl, hreads⟩
    have hmodifiers : modifiers (j + 1) ⟨source, n :: colon :: (ts ++ rest), last, errors⟩ = _ :=
      modifiers_cons (j + 1) hn (hne "*" (by decide) (by decide)) hcolon (by simp [hcolontext])
    rw [List.cons_append] at hr
    rw [List.nil_append, List.cons_append, List.cons_append]
    unfold member
    simp [ahead_cons hn, afterComments_cons hcolon', hcolontext, hne "(" (by decide) (by decide),
      hne "<" (by decide) (by decide), hne "-" (by decide) (by decide),
      hne "+" (by decide) (by decide), hne "[" (by decide) (by decide), hmodifiers, hn₁, hn₂,
      next_cons hn, accept_cons_of_ne hcolon', peekText_cons hcolon', hr]
  | true =>
    obtain ⟨q, marks', rfl, hq, hqtext, -, hmarks'⟩ := hmarks.uncons
    obtain rfl := hmarks'.eq_nil
    have hq' := isComment_of_kind hq (by decide)
    obtain ⟨⟨type?, skipped⟩, last', hr, ⟨e, rfl, hreads⟩, rfl⟩ := hdeclared q.stop errors
    refine ⟨_, last', ?_, e, n.start.upTo last'.offset, rfl, hreads⟩
    have hmodifiers : modifiers (j + 1) ⟨source, n :: q :: colon :: (ts ++ rest), last, errors⟩ = _ :=
      modifiers_cons (j + 1) hn (hne "*" (by decide) (by decide)) hq (by simp [hqtext])
    rw [List.cons_append] at hr
    simp only [List.cons_append, List.nil_append]
    unfold member
    simp [ahead_cons hn, afterComments_cons hq', hqtext, hne "(" (by decide) (by decide),
      hne "<" (by decide) (by decide), hne "-" (by decide) (by decide),
      hne "+" (by decide) (by decide), hne "[" (by decide) (by decide), hmodifiers, hn₁, hn₂,
      next_cons hn, accept_cons hq', peekText_cons hcolon', hcolontext, hr]

section Members

variable {last last' : Mark} {errors : List SyntaxError} {budget : Nat} {doc? : Option Doc}

theorem members_close (hu : u.isComment = false) (hclose : u.text = "\x7d") :
    members doc? (budget + 1) ⟨source, u :: rest, last, errors⟩ =
      some (([], []), ⟨source, u :: rest, last, errors⟩) := by
  simp [members, hu, hclose]

theorem members_semicolon (hu : u.isComment = false) (hsemi : u.text = ";") :
    members doc? (budget + 1) ⟨source, u :: rest, last, errors⟩ =
      members doc? budget ⟨source, rest, u.stop, errors⟩ := by
  simp [members, hu, hsemi]

theorem members_comment (hu : u.kind = .comment)
    (hdoc : "/**".toList.isPrefixOf u.text.toList = true) :
    members doc? (budget + 1) ⟨source, u :: rest, last, errors⟩ =
      members (some ⟨u.text, u.span⟩) budget ⟨source, rest, last, errors⟩ := by
  have hu' : u.isComment = true := by simp [isComment, hu]
  rw [members]
  simp only [hu', hdoc, if_true]

theorem members_member {fs gs : List Field} {c : Cursor} (ht : t.isComment = false)
    (hstart : t.text ∉ ["\x7d", ";", ","])
    (h : member doc? budget ⟨source, t :: ts, last, errors⟩ =
      some ((fs, []), ⟨source, u :: rest, last', errors⟩))
    (hu : u.isComment = false) (hend : u.text ∈ [";", "\x7d"])
    (hmore : members none budget ⟨source, u :: rest, last', errors⟩ = some ((gs, []), c)) :
    members doc? (budget + 1) ⟨source, t :: ts, last, errors⟩ = some ((fs ++ gs, []), c) := by
  have hseparated : separated ⟨source, u :: rest, last', errors⟩ = true := by
    simp only [List.mem_cons, List.not_mem_nil, or_false] at hend
    rcases hend with hend | hend <;> simp [separated, afterComments_cons hu, hend]
  simp only [List.mem_cons, List.not_mem_nil, or_false, not_or] at hstart
  simp [members, ht, hstart, h, hseparated, hmore]

end Members

/-! ## 8. Items of tuples -/

/-- An item of a tuple that is neither named nor optional. -/
theorem takes_tupleItem {P : TypeExpr → Prop} (ht : t.isComment = false) (hplain : StartsPlain t.text)
    (hsecond : t.kind = .name → ∃ u others, ts ++ rest = u :: others ∧ u.isComment = false ∧
      u.text ∉ [":", "?"])
    (hrest : ∃ v others, rest = v :: others ∧ v.isComment = false ∧ v.text ≠ "?")
    (h : Takes (type none j) source (t :: ts) rest P) :
    Takes (tupleItem (j + 1)) source (t :: ts) rest P := by
  intro last errors
  obtain ⟨e, last', he, hP⟩ := h last errors
  obtain ⟨v, beyond, rfl, hv, hoptional⟩ := hrest
  refine ⟨e, last', ?_, hP⟩
  simp only [StartsPlain, List.mem_cons, List.not_mem_nil, or_false, not_or] at hplain
  rw [List.cons_append] at he ⊢
  unfold tupleItem
  by_cases hname : t.kind = .name
  · obtain ⟨u, others, hsplit, hu, hnext⟩ := hsecond hname
    simp only [List.mem_cons, List.not_mem_nil, or_false, not_or] at hnext
    rw [hsplit] at he ⊢
    simp [ahead_cons ht, afterComments_cons hu, hnext, hplain, he, accept_cons_of_ne hv hoptional]
  · simp [ahead_cons ht, hname, hplain, he, accept_cons_of_ne hv hoptional]

end Step

/-! ## 9. All written types -/

section Main

variable {source : List Char}

/-- The front of a written type: no operator, and no name with a mark behind it. -/
theorem front_tokens {w : Written} (hw : w.Sound) {ts rest : List Token}
    (hts : Spelled source ts w.tokens) (hrest : Follows rest) :
    ∃ t ts', ts = t :: ts' ∧ t.isComment = false ∧ StartsPlain t.text ∧
      (t.kind = .name → ∃ u others, ts' ++ rest = u :: others ∧ u.isComment = false ∧
        u.text ∉ [":", "?"]) := by
  cases w with
  | word name =>
    obtain ⟨t, ts', rfl, hkind, htext, -, hts'⟩ := hts.uncons
    obtain rfl := hts'.eq_nil
    obtain ⟨u, others, rfl, hu, hstop⟩ := hrest
    refine ⟨t, [], rfl, isComment_of_kind hkind (by decide), ?_, fun _ => ⟨u, others, rfl, hu, ?_⟩⟩
    · have hall : ∀ name ∈ words, StartsPlain name := by
        unfold StartsPlain
        decide
      exact htext ▸ hall name hw
    · intro hmem
      simp only [List.mem_cons, List.not_mem_nil, or_false] at hmem hstop
      rcases hmem with h | h <;> simp [h] at hstop
  | text value =>
    obtain ⟨t, ts', rfl, hkind, htext, -, -⟩ := hts.uncons
    refine ⟨t, ts', rfl, isComment_of_kind hkind (by decide), ?_, by simp [hkind]⟩
    exact startsPlain_of_head (by rw [htext]; exact head_quote value) (by decide)
  | number isNegative digits =>
    cases isNegative with
    | true =>
      obtain ⟨t, ts', rfl, hkind, htext, -, -⟩ := hts.uncons
      refine ⟨t, ts', rfl, isComment_of_kind hkind (by decide), ?_, by simp [hkind]⟩
      rw [htext]
      unfold StartsPlain
      decide
    | false =>
      obtain ⟨t, ts', rfl, hkind, htext, -, -⟩ := hts.uncons
      refine ⟨t, ts', rfl, isComment_of_kind hkind (by decide), ?_, by simp [hkind]⟩
      obtain ⟨whole, fraction, exponent, heq, hne, hdigits, -⟩ := IsNumeral.parts hw
      obtain ⟨c, more, rfl⟩ := List.exists_cons_of_ne_nil hne
      have hdigit : c.isDigit = true := (List.all_eq_true.mp hdigits) c List.mem_cons_self
      refine startsPlain_of_head (c := c) (by rw [htext, heq]; rfl) ?_
      intro hmem
      have hall : ['|', '&', 'r', 'i', 'n', 'a', '(', '<', '>', ']', '.'].all (!Char.isDigit ·) = true := by
        decide
      have hother := List.all_eq_true.mp hall c hmem
      simp [hdigit] at hother
  | choice first second others =>
    obtain ⟨t, ts', rfl, hkind, htext, -, -⟩ := hts.uncons
    refine ⟨t, ts', rfl, isComment_of_kind hkind (by decide), ?_, by simp [hkind]⟩
    exact startsPlain_of_head (by rw [htext]; exact head_quote first) (by decide)
  | list items =>
    obtain ⟨t, ts', rfl, hkind, htext, -, hts'⟩ := hts.uncons
    obtain ⟨u, ts'', rfl, hukind, hutext, -, -⟩ := hts'.uncons
    refine ⟨t, u :: ts'', rfl, isComment_of_kind hkind (by decide), ?_,
      fun _ => ⟨u, ts'' ++ rest, rfl, isComment_of_kind hukind (by decide), by simp [hutext]⟩⟩
    rw [htext]
    unfold StartsPlain
    decide
  | tuple items =>
    obtain ⟨t, ts', rfl, hkind, htext, -, -⟩ := hts.uncons
    refine ⟨t, ts', rfl, isComment_of_kind hkind (by decide), ?_, by simp [hkind]⟩
    rw [htext]
    unfold StartsPlain
    decide
  | object isClosed fields =>
    obtain ⟨t, ts', rfl, hkind, htext, -, -⟩ := hts.uncons
    refine ⟨t, ts', rfl, isComment_of_kind hkind (by decide), ?_, by simp [hkind]⟩
    rw [htext]
    unfold StartsPlain
    decide

theorem follows_cons {u : Token} (others : List Token) (hkind : u.kind = .punctuation)
    (htext : u.text ∈ [";", ",", ">", "]", ")", "\x7d"]) : Follows (u :: others) :=
  ⟨u, others, rfl, isComment_of_kind hkind (by decide), htext⟩

mutual

/-- **The tokens of a written type are read as that type.** -/
theorem takes_type (ending : Option Ending) (w : Written) (hw : w.Sound) {ts rest : List Token}
    {budget : Nat} (hts : Spelled source ts w.tokens) (hrest : Follows rest)
    (hbudget : 16 * (ts.length + rest.length) ≤ budget) :
    Takes (type ending budget) source ts rest w.Reads := by
  obtain ⟨t, ts', rfl, ht, hplain, -⟩ := front_tokens hw hts hrest
  have hpos : 0 < rest.length := by
    obtain ⟨u, others, rfl, -⟩ := hrest
    simp
  simp only [List.length_cons] at hbudget
  cases w with
  | word name =>
    obtain ⟨j, rfl⟩ : ∃ j, budget = j + 7 := ⟨budget - 7, by omega⟩
    obtain ⟨_, _, heq, hkind, htext, hstands, hts'⟩ := hts.uncons
    obtain ⟨rfl, rfl⟩ := List.cons.inj heq
    obtain rfl := hts'.eq_nil
    apply takes_of_primary ending ht hplain hrest
    subst htext
    exact takes_word hkind hw hstands hrest
  | text value =>
    obtain ⟨j, rfl⟩ : ∃ j, budget = j + 5 := ⟨budget - 5, by omega⟩
    obtain ⟨_, _, heq, hkind, htext, -, hts'⟩ := hts.uncons
    obtain ⟨rfl, rfl⟩ := List.cons.inj heq
    obtain rfl := hts'.eq_nil
    exact takes_of_primary ending ht hplain hrest (takes_text hkind htext hw)
  | number isNegative digits =>
    obtain ⟨j, rfl⟩ : ∃ j, budget = j + 5 := ⟨budget - 5, by omega⟩
    apply takes_of_primary ending ht hplain hrest
    cases isNegative with
    | false =>
      obtain ⟨_, _, heq, hkind, htext, -, hts'⟩ := hts.uncons
      obtain ⟨rfl, rfl⟩ := List.cons.inj heq
      obtain rfl := hts'.eq_nil
      subst htext
      exact takes_number hkind
    | true =>
      obtain ⟨_, _, heq, hkind, htext, -, hts'⟩ := hts.uncons
      obtain ⟨rfl, rfl⟩ := List.cons.inj heq
      obtain ⟨u, ts'', rfl, hukind, hutext, -, hts''⟩ := hts'.uncons
      obtain rfl := hts''.eq_nil
      subst hutext
      exact takes_negative hkind htext hukind
  | choice first second others =>
    exact takes_choice ending hw hts hrest (by simpa using hbudget)
  | list items =>
    obtain ⟨j, rfl⟩ : ∃ j, budget = j + 8 := ⟨budget - 8, by omega⟩
    obtain ⟨_, _, heq, hkind, htext, hstands, hts₁⟩ := hts.uncons
    obtain ⟨rfl, rfl⟩ := List.cons.inj heq
    obtain ⟨u, ts₂, rfl, hukind, hutext, -, hts₂⟩ := hts₁.uncons
    obtain ⟨inner, closing, rfl, hinner, hclosing⟩ := hts₂.split
    obtain ⟨v, _, rfl, hvkind, hvtext, -, hnil⟩ := hclosing.uncons
    obtain rfl := hnil.eq_nil
    have hfollows : Follows (v :: rest) := follows_cons rest hvkind (by simp [hvtext])
    simp only [List.length_cons, List.length_append, List.length_nil] at hbudget
    obtain ⟨first, others, rfl, hfirst, hfirstPlain, -⟩ := front_tokens (w := items) hw hinner hfollows
    apply takes_of_primary ending ht hplain hrest
    refine takes_list hkind htext hstands (isComment_of_kind hukind (by decide)) hutext
      (isComment_of_kind hvkind (by decide)) hvtext
      ⟨first, others, rfl, hfirst, fun h => hfirstPlain (by simp [h])⟩ ?_
    exact takes_type none items hw hinner hfollows (by simp only [List.length_cons] at hbudget ⊢; omega)
  | tuple items =>
    obtain ⟨j, rfl⟩ : ∃ j, budget = j + 5 := ⟨budget - 5, by omega⟩
    obtain ⟨_, _, heq, hkind, htext, -, hts₁⟩ := hts.uncons
    obtain ⟨rfl, rfl⟩ := List.cons.inj heq
    obtain ⟨inner, closing, rfl, hinner, hclosing⟩ := hts₁.split
    obtain ⟨v, _, rfl, hvkind, hvtext, -, hnil⟩ := hclosing.uncons
    obtain rfl := hnil.eq_nil
    simp only [List.length_cons, List.length_append, List.length_nil] at hbudget
    apply takes_of_primary ending ht hplain hrest
    refine takes_tuple hkind htext (isComment_of_kind hvkind (by decide)) hvtext ?_
    exact takes_items items hw hinner hvkind hvtext (by simp only [List.length_cons]; omega)
  | object isClosed fields =>
    obtain ⟨j, rfl⟩ : ∃ j, budget = j + 5 := ⟨budget - 5, by omega⟩
    obtain ⟨_, _, heq, hkind, htext, -, hts₁⟩ := hts.uncons
    obtain ⟨rfl, rfl⟩ := List.cons.inj heq
    obtain ⟨inner, closing, rfl, hinner, hclosing⟩ := hts₁.split
    obtain ⟨v, _, rfl, hvkind, hvtext, -, hnil⟩ := hclosing.uncons
    obtain rfl := hnil.eq_nil
    simp only [List.length_cons, List.length_append, List.length_nil] at hbudget
    apply takes_of_primary ending ht hplain hrest
    refine takes_object hkind htext (isComment_of_kind hvkind (by decide)) hvtext ?_
    exact takes_members isClosed fields hw hinner hvkind hvtext (by simp only [List.length_cons]; omega)

/-- The items of a tuple, in front of its closing bracket. -/
theorem takes_items (items : List Written) (hitems : SoundItems items) {ts rest : List Token}
    {v : Token} {budget : Nat} (hts : Spelled source ts (itemTokens items))
    (hvkind : v.kind = .punctuation) (hvtext : v.text = "]")
    (hbudget : 16 * (ts.length + (v :: rest).length) + 8 ≤ budget) :
    Takes (tupleItems budget) source ts (v :: rest) (ReadsItems items) := by
  have hv := isComment_of_kind hvkind (by decide)
  simp only [List.length_cons] at hbudget
  obtain ⟨j, rfl⟩ : ∃ j, budget = j + 2 := ⟨budget - 2, by omega⟩
  intro last errors
  match items with
  | [] =>
    obtain rfl := hts.eq_nil
    refine ⟨[], last, ?_, rfl⟩
    simp [tupleItems, peekText_cons hv, hvtext]
  | item :: more =>
    obtain ⟨ts₁, ts₂, rfl, hts₁, hts₂⟩ := hts.split
    simp only [List.length_append] at hbudget
    have hfollows : Follows (ts₂ ++ v :: rest) := by
      match more with
      | [] =>
        obtain rfl := hts₂.eq_nil
        exact follows_cons rest hvkind (by simp [hvtext])
      | next :: others =>
        obtain ⟨comma, ts₃, rfl, hkind, htext, -, -⟩ := hts₂.uncons
        exact follows_cons _ hkind (by simp [htext])
    obtain ⟨t, ts', rfl, ht, hplain, hsecond⟩ := front_tokens hitems.1 hts₁ hfollows
    have hne : t.text ≠ "]" := fun h => hplain (by simp [h])
    have hbehind : ∃ u others, ts₂ ++ v :: rest = u :: others ∧ u.isComment = false ∧ u.text ≠ "?" := by
      obtain ⟨u, others, heq, hu, hstop⟩ := hfollows
      exact ⟨u, others, heq, hu, Follows.ne hstop "?" (by decide)⟩
    have htype : Takes (type none j) source (t :: ts') (ts₂ ++ v :: rest) item.Reads :=
      takes_type none item hitems.1 hts₁ hfollows (by
        simp only [List.length_cons, List.length_append] at hbudget ⊢
        omega)
    obtain ⟨e, last₁, he, hreads⟩ :=
      takes_tupleItem ht hplain hsecond hbehind htype last errors
    match more, hts₂ with
    | [], hts₂ =>
      obtain rfl := hts₂.eq_nil
      refine ⟨[e], last₁, ?_, e, [], rfl, hreads, rfl⟩
      simp only [List.cons_append, List.append_nil, List.nil_append] at he ⊢
      unfold tupleItems
      simp [peekText_cons ht, hne, he, accept_cons_of_ne hv, hvtext]
    | next :: others, hts₂ =>
      obtain ⟨comma, ts₃, rfl, hkind, htext, -, hts₃⟩ := hts₂.uncons
      have hcomma := isComment_of_kind hkind (by decide)
      simp only [List.length_cons] at hbudget
      have hothers : Takes (tupleItems (j + 1)) source ts₃ (v :: rest) _ :=
        takes_items (next :: others) hitems.2 hts₃ hvkind hvtext (by
          simp only [List.length_cons]
          omega)
      obtain ⟨es, last₂, hes, hmore⟩ := hothers comma.stop errors
      refine ⟨e :: es, last₂, ?_, e, es, rfl, hreads, hmore⟩
      simp only [List.cons_append, List.append_assoc] at he ⊢
      unfold tupleItems
      simp [peekText_cons ht, hne, he, accept_cons hcomma htext, hes]

/-- The fields of an object, in front of its closing brace. -/
theorem takes_members (isClosed : Bool) (fields : List WrittenField) (hfields : SoundFields fields)
    {ts rest : List Token} {v : Token} {budget : Nat}
    (hts : Spelled source ts (fieldTokens isClosed fields)) (hvkind : v.kind = .punctuation)
    (hvtext : v.text = "\x7d") (hbudget : 16 * (ts.length + (v :: rest).length) ≤ budget) :
    Takes (members none budget) source ts (v :: rest) fun r => ReadsFields fields r.1 ∧ r.2 = [] := by
  have hv := isComment_of_kind hvkind (by decide)
  simp only [List.length_cons] at hbudget
  intro last errors
  match fields with
  | [] =>
    obtain ⟨j, rfl⟩ : ∃ j, budget = j + 1 := ⟨budget - 1, by omega⟩
    obtain rfl := hts.eq_nil
    exact ⟨([], []), last, members_close hv hvtext, rfl, rfl⟩
  | ⟨comment?, name, isOptional, type⟩ :: more =>
    obtain ⟨hcomment, hname, htype, hmoreSound⟩ := hfields
    obtain ⟨comments, ts₁, rfl, hcomments, hts₁⟩ := hts.split
    obtain ⟨n, ts₂, rfl, hkind, htext, -, hts₂⟩ := hts₁.next
    obtain ⟨marks, ts₃, rfl, hmarks, hts₃⟩ := hts₂.split
    obtain ⟨colon, ts₄, rfl, hcolon, hcolontext, -, hts₄⟩ := hts₃.uncons
    obtain ⟨inner, ts₅, rfl, hinner, hts₅⟩ := hts₄.split
    obtain ⟨semis, ts₆, rfl, hsemis, hts₆⟩ := hts₅.split
    simp only [List.length_append, List.length_cons] at hbudget
    -- A field ends before its semicolon, or before the closing brace.
    have hend : ∃ u others, semis ++ (ts₆ ++ v :: rest) = u :: others ∧ u.kind = .punctuation ∧
        u.text ∈ [";", "\x7d"] := by
      split at hsemis
      · obtain ⟨s, _, rfl, hs, hstext, -, -⟩ := hsemis.uncons
        exact ⟨s, _, rfl, hs, by simp [hstext]⟩
      · rename_i hlast
        obtain rfl := hsemis.eq_nil
        have hmore : more = [] := by simpa using (by simpa using hlast : _ ∧ more.isEmpty).2
        subst hmore
        obtain rfl := hts₆.eq_nil
        exact ⟨v, rest, rfl, hvkind, by simp [hvtext]⟩
    obtain ⟨u, others, hsplit, hukind, hutext⟩ := hend
    have hu := isComment_of_kind hukind (by decide)
    have hfollows : Follows (semis ++ (ts₆ ++ v :: rest)) := by
      rw [hsplit]
      refine follows_cons others hukind ?_
      simp only [List.mem_cons, List.not_mem_nil, or_false] at hutext ⊢
      rcases hutext with h | h <;> simp [h]
    -- What stands behind the field is read as the other fields.
    have hothers : ∀ b, 16 * (semis.length + (ts₆.length + (rest.length + 1))) ≤ b →
        Takes (members none b) source (semis ++ ts₆) (v :: rest)
          fun r => ReadsFields more r.1 ∧ r.2 = [] := by
      intro b hb last errors
      obtain ⟨k, rfl⟩ : ∃ k, b = k + 1 := ⟨b - 1, by omega⟩
      split at hsemis
      · obtain ⟨s, _, rfl, hs, hstext, -, hnil⟩ := hsemis.uncons
        obtain rfl := hnil.eq_nil
        simp only [List.length_cons, List.length_nil] at hb
        rw [List.cons_append, List.nil_append, List.cons_append,
          members_semicolon (isComment_of_kind hs (by decide)) hstext]
        exact takes_members isClosed more hmoreSound hts₆ hvkind hvtext
          (by simp only [List.length_cons]; omega) s.stop errors
      · obtain rfl := hsemis.eq_nil
        exact takes_members isClosed more hmoreSound hts₆ hvkind hvtext
          (by simpa using hb) last errors
    have hn := (isPropertyName_of_token hkind).2
    have hstart : n.text ∉ ["\x7d", ";", ","] := by
      have hne : ∀ text, _ → _ → n.text ≠ text := fun _ => property_ne htext
      simp [hne "\x7d" (by decide) (by decide), hne ";" (by decide) (by decide),
        hne "," (by decide) (by decide)]
    -- The field itself, after a doc comment or without one.
    have hfield : ∀ (doc? : Option Doc) (b : Nat) (last : Mark),
        16 * (marks.length + (inner.length + (semis.length + ts₆.length) + 1) + 1 +
          (rest.length + 1)) ≤ b →
        ∃ e span gs last', members doc? b ⟨source, n :: (marks ++ colon :: (inner ++ (semis ++ ts₆))) ++
          v :: rest, last, errors⟩ =
            some ((⟨name, isOptional, false, some e, doc?, span⟩ :: gs, []),
              ⟨source, v :: rest, last', errors⟩) ∧ type.Reads e ∧ ReadsFields more gs := by
      intro doc? b last hb
      obtain ⟨j, rfl⟩ : ∃ j, b = j + 3 := ⟨b - 3, by omega⟩
      have htypeTakes : Takes (TypeReader.type (some .afterType) j) source inner _ type.Reads :=
        takes_type (some .afterType) type htype hinner hfollows (by
          simp only [List.length_append, List.length_cons]
          omega)
      obtain ⟨r, last₁, hr, e, span, rfl, hreads⟩ :=
        takes_member doc? hname hkind htext hmarks hcolon hcolontext htypeTakes last errors
      obtain ⟨⟨gs, skipped⟩, last₂, hgs, hmore, rfl⟩ := hothers (j + 2) (by omega) last₁ errors
      refine ⟨e, span, gs, last₂, ?_, hreads, hmore⟩
      rw [hsplit, List.cons_append] at hr
      rw [List.append_assoc, hsplit] at hgs
      have hwhole : members doc? (j + 3) _ = _ := members_member hn hstart hr hu hutext hgs
      simp only [List.cons_append, List.append_assoc, List.nil_append, hsplit] at hwhole ⊢
      exact hwhole
    cases comment? with
    | none =>
      obtain rfl := hcomments.eq_nil
      obtain ⟨e, span, gs, last', h, hreads, hmore⟩ := hfield none budget last (by
        simpa [Nat.add_assoc] using hbudget)
      exact ⟨_, last', h, ⟨e, none, span, gs, rfl, rfl, hreads, hmore⟩, rfl⟩
    | some comment =>
      obtain ⟨k, _, rfl, hk, hktext, -, hnil⟩ := hcomments.uncons
      obtain rfl := hnil.eq_nil
      simp only [List.length_cons, List.length_nil] at hbudget
      obtain ⟨b, rfl⟩ : ∃ b, budget = b + 1 := ⟨budget - 1, by omega⟩
      obtain ⟨e, span, gs, last', h, hreads, hmore⟩ :=
        hfield (some ⟨k.text, k.span⟩) b last (by omega)
      refine ⟨(⟨name, isOptional, false, some e, some ⟨k.text, k.span⟩, span⟩ :: gs, []), last', ?_,
        ⟨e, _, span, gs, rfl, by simp [hktext], hreads, hmore⟩, rfl⟩
      rw [List.cons_append, List.nil_append, List.cons_append,
        members_comment hk (by rw [hktext]; exact hcomment comment rfl)]
      exact h

end

end Main

end TypeReader

end ServiceGraph.Syntax
