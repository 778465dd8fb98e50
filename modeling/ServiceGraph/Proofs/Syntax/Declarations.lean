import Mathlib
import ServiceGraph.Emission.Names
import ServiceGraph.Proofs.Related
import ServiceGraph.Proofs.Syntax.Written
import ServiceGraph.Syntax.Reader.File

/-!
Declarations as they are written, and how they are read.

A written file consists of an import of types, of interfaces that extend a marker, and of stubs: functions without
bodies and a class that is the default export. All of it is read back in order (`SourceFile.read_written`), but for two
things: an import of types is no item, and a method that is called `constructor` is no member of its class.
-/

namespace ServiceGraph.Syntax

open Text Token Reader Written

/-! ## 1. Written declarations -/

/-- An interface that extends one marker. -/
structure WrittenInterface where
  /-- The comment in front, delimiters included. -/
  comment? : Option String
  name : String
  marker : String
  fields : List WrittenField

namespace WrittenInterface

def tokens (w : WrittenInterface) : List Signature :=
  (w.comment?.map (TokenKind.comment, ·)).toList ++ (.name, "interface") :: (.name, w.name) ::
    (.name, "extends") :: (.name, w.marker) :: sign "\x7b" :: (fieldTokens true w.fields ++ [sign "\x7d"])

/-- A declaration is the written interface, whatever its spans are. -/
structure Reads (w : WrittenInterface) (d : ShapeDecl) : Prop where
  name : d.name = w.name
  form : d.form = .interface
  heritage : ∃ span, d.heritage = [.reference span w.marker []]
  type : ∃ span fs, d.type = .object span fs [] ∧ ReadsFields w.fields fs
  doc : d.doc?.map (·.text) = w.comment?

structure Sound (w : WrittenInterface) : Prop where
  comment : ∀ comment ∈ w.comment?, "/**".toList.isPrefixOf comment.toList = true
  fields : SoundFields w.fields

end WrittenInterface

namespace Written

/-- Further names of a list. -/
def moreNames : List String → List Signature
  | [] => []
  | name :: rest => sign "," :: (.name, name) :: moreNames rest

/-- An import of types. -/
def importTokens (first : String) (others : List String) (source : String) : List Signature :=
  (.name, "import") :: (.name, "type") :: sign "\x7b" ::
    (((.name, first) :: moreNames others) ++ [sign "\x7d", (.name, "from"), quoted source, sign ";"])

/-- A parameter that may be left out. -/
def parameterTokens (name : String) : List Signature :=
  [(.name, name), sign "?", sign ":", (.name, "unknown")]

/-- The parameters of a stub, as they are counted. -/
def stubArity : Arity := ⟨0, 2, false⟩

/-- The parameters of a stub. -/
def parametersTokens : List Signature :=
  sign "(" :: (parameterTokens "args" ++ sign "," :: (parameterTokens "context" ++ [sign ")"]))

/-- The parameters and the result of a stub. -/
def signatureTokens : List Signature :=
  parametersTokens ++ sign ":" :: ([(.name, "unknown")] ++ [sign ";"])

/-- Methods are read as the members of a class; a constructor is none of them. -/
def ReadsMethods (names : List String) (members : List Member) : Prop :=
  members.map (fun m => (m.name, m.value)) =
    (names.filter (· != "constructor")).map (·, .function stubArity)

/-- A function that is only declared. -/
def functionTokens (name : String) : List Signature :=
  (.name, "export") :: (.name, "declare") :: (.name, "function") :: (.name, name) :: signatureTokens

/-- The methods of a class that is only declared. -/
def methodTokens : List String → List Signature
  | [] => []
  | name :: rest =>
    property name :: (parametersTokens ++ sign ":" :: [(.name, "unknown")]) ++
      sign ";" :: methodTokens rest

/-- A class that is only declared. -/
def classTokens (name : String) (methods : List String) : List Signature :=
  (.name, "declare") :: (.name, "class") :: (.name, name) :: sign "\x7b" ::
    (methodTokens methods ++ [sign "\x7d"])

/-- A name as the default export. -/
def defaultTokens (name : String) : List Signature :=
  [(.name, "export"), (.name, "default"), (.name, name), sign ";"]

theorem ReadsMethods.append {names more : List String} {members others : List Member}
    (h : ReadsMethods names members) (hmore : ReadsMethods more others) :
    ReadsMethods (names ++ more) (members ++ others) := by
  unfold ReadsMethods at h hmore ⊢
  rw [List.map_append, h, hmore, List.filter_append, List.map_append]

end Written

/-- A declaration of a written file that is read as an item. -/
inductive WrittenItem
  | interface (w : WrittenInterface)
  | function (name : String)
  /-- A class, by the names of its methods. -/
  | methods (name : String) (names : List String)
  | defaultExport (name : String)

/-- An item is the written one, whatever its spans are. -/
def WrittenItem.Reads : WrittenItem → Item → Prop
  | .interface w, item => ∃ d, item = .shape d ∧ w.Reads d
  | .function name, item => ∃ isExported span, item = .binding ⟨name, .function stubArity, isExported, span⟩
  | .methods name names, item => ∃ members isExported span,
      item = .binding ⟨name, .classBody members, isExported, span⟩ ∧ ReadsMethods names members
  | .defaultExport name, item => ∃ span, item = .defaultExport ⟨.alias name, span⟩

/-! ## 2. Interfaces -/

namespace FileReader

open TypeReader

variable {source : List Char} {t u v : Token} {ts rest : List Token} {budget : Nat}

theorem slice_of_standsIn (ht : t.StandsIn source) :
    String.ofList (sliceFrom t.start.offset t.stop.offset 0 source) = t.text := by
  rw [show sliceFrom _ _ 0 source = _ from ht, String.ofList_toList]

theorem takes_bases (hkind : t.kind = .name) (ht : t.StandsIn source) (hu : u.kind = .punctuation)
    (hopen : u.text = "\x7b") :
    Takes (bases (budget + 2)) source [t] (u :: rest)
      fun types => ∃ span, types = [.reference span t.text []] := by
  have ht' := isComment_of_kind hkind (by decide)
  have hu' := isComment_of_kind hu (by decide)
  intro last errors
  refine ⟨_, t.stop, ?_, t.start.upTo t.stop.offset, rfl⟩
  unfold bases reference
  simp [leadingComments_cons ht', expectKind_cons ht' hkind, dottedRest_cons _ hu',
    hopen, accept_cons_of_ne hu', slice_of_standsIn ht, peekText_cons hu']

theorem takes_interface (w : WrittenInterface) (hw : SoundFields w.fields) (doc? : Option Doc)
    (hdoc : doc?.map (·.text) = w.comment?)
    (hts : Spelled source ts ({ w with comment? := none } : WrittenInterface).tokens)
    (hbudget : 16 * (ts.length + rest.length) ≤ budget) :
    Takes (statement doc? budget) source ts rest fun items => ∃ d, items = [.shape d] ∧ w.Reads d := by
  obtain ⟨word, ts₁, rfl, hword, hwordtext, -, hts₁⟩ := hts.uncons
  obtain ⟨name, ts₂, rfl, hname, hnametext, -, hts₂⟩ := hts₁.uncons
  obtain ⟨ext, ts₃, rfl, hext, hexttext, -, hts₃⟩ := hts₂.uncons
  obtain ⟨marker, ts₄, rfl, hmarker, hmarkertext, hstands, hts₄⟩ := hts₃.uncons
  obtain ⟨opening, ts₅, rfl, hopening, hopentext, -, hts₅⟩ := hts₄.uncons
  obtain ⟨body, ts₆, rfl, hbody, hts₆⟩ := hts₅.split
  obtain ⟨closing, ts₇, rfl, hclosing, hclosetext, -, hts₇⟩ := hts₆.uncons
  obtain rfl := hts₇.eq_nil
  have hword' := isComment_of_kind hword (by decide)
  have hname' := isComment_of_kind hname (by decide)
  have hext' := isComment_of_kind hext (by decide)
  have hopening' := isComment_of_kind hopening (by decide)
  have hclosing' := isComment_of_kind hclosing (by decide)
  simp only [List.length_cons, List.length_append, List.length_nil] at hbudget
  obtain ⟨b, rfl⟩ : ∃ b, budget = b + 4 := ⟨budget - 4, by omega⟩
  intro last errors
  have hmarkerTakes : Takes (bases (b + 2)) source [marker] (opening :: (body ++ closing :: rest)) _ :=
    takes_bases hmarker hstands hopening hopentext
  have hbodyTakes : Takes (members none (b + 2)) source body (closing :: rest) _ :=
    takes_members true w.fields hw hbody hclosing hclosetext (by simp only [List.length_cons]; omega)
  obtain ⟨types, last₁, hbases, span, rfl⟩ := hmarkerTakes ext.stop errors
  obtain ⟨⟨fs, skipped⟩, last₂, hmembers, hreads, rfl⟩ := hbodyTakes opening.stop errors
  refine ⟨_, closing.stop, ?_, ⟨name.text, .interface, [.reference span marker.text []],
    .object (opening.start.upTo closing.stop.offset) fs [], doc?, false,
    word.start.upTo closing.stop.offset, name.span⟩,
    rfl, ⟨hnametext, rfl, ⟨span, by rw [hmarkertext]⟩,
      ⟨opening.start.upTo closing.stop.offset, fs, rfl, hreads⟩, hdoc⟩⟩
  simp only [List.cons_append, List.append_assoc, List.nil_append] at hbases hmembers ⊢
  unfold statement
  simp [ahead_cons hword', hwordtext, hword, startsDeclaration, namedDeclarationWords, declarationWords,
    afterComments_cons hname', hname, declaration, next_cons hword', interfaceTail,
    expectKind_cons hname' hname, skipAngles_cons hext', hexttext, accept_cons hext' hexttext, hbases,
    peek?_cons hopening', expect_cons hopening' hopentext, hmembers,
    closeWith_cons hclosing' hclosetext]

/-! ## 3. Stubs -/

section Stubs

variable {a b : Token} {j : Nat}

theorem takes_unknown (ending : Option Ending) (hts : Spelled source ts [(.name, "unknown")])
    (hrest : Follows rest) (hbudget : 16 * (ts.length + rest.length) ≤ budget) :
    Takes (TypeReader.type ending budget) source ts rest fun _ => True := by
  intro last errors
  have hword : (Written.word "unknown").Sound := by
    change "unknown" ∈ words
    decide
  obtain ⟨e, last', he, -⟩ :=
    takes_type ending (.word "unknown") hword hts hrest hbudget last errors
  exact ⟨e, last', he, trivial⟩

/-- A parameter with a question mark. -/
theorem takes_parameter {name : String} (hname : name ∈ ["args", "context"])
    (hts : Spelled source ts (parameterTokens name)) (hu : u.kind = .punctuation) (hstop : u.text ∈ [",", ")"])
    (hbudget : 16 * (ts.length + (u :: rest).length) ≤ budget) :
    Takes (ValueReader.parameter budget) source ts (u :: rest) (· = ValueReader.countOptional) := by
  obtain ⟨n, ts₁, rfl, hn, hntext, -, hts₁⟩ := hts.uncons
  obtain ⟨q, ts₂, rfl, hq, hqtext, -, hts₂⟩ := hts₁.uncons
  obtain ⟨colon, ts₃, rfl, hcolon, hcolontext, -, hts₃⟩ := hts₂.uncons
  have hn' := isComment_of_kind hn (by decide)
  have hq' := isComment_of_kind hq (by decide)
  have hcolon' := isComment_of_kind hcolon (by decide)
  have hu' := isComment_of_kind hu (by decide)
  simp only [List.length_cons] at hbudget
  obtain ⟨j, rfl⟩ : ∃ j, budget = j + 2 := ⟨budget - 2, by omega⟩
  simp only [List.mem_cons, List.not_mem_nil, or_false] at hname hstop
  have hfollows : Follows (u :: rest) := follows_cons rest hu (by rcases hstop with h | h <;> simp [h])
  have htype : Takes (TypeReader.type none (j + 1)) source ts₃ (u :: rest) fun _ => True :=
    takes_unknown none hts₃ hfollows (by simp only [List.length_cons]; omega)
  intro last errors
  obtain ⟨e, last', he, -⟩ := htype colon.stop errors
  refine ⟨ValueReader.countOptional, last', ?_, rfl⟩
  have hend : u.text ≠ "=" := by rcases hstop with h | h <;> simp [h]
  have hmodifiers : modifiers (j + 1) ⟨source, n :: q :: colon :: (ts₃ ++ u :: rest), last, errors⟩ = _ :=
    modifiers_cons (j + 1) hn' (by rcases hname with h | h <;> simp [hntext, h]) hq (by simp [hqtext])
  have hne : n.text ∉ ["@", "...", "\x7b", "["] := by rcases hname with h | h <;> simp [hntext, h]
  simp only [List.mem_cons, List.not_mem_nil, or_false, not_or] at hne
  unfold ValueReader.parameter ValueReader.decorators
  simp [hne, accept_cons_of_ne hn', hmodifiers, peek?_cons hn', hn, next_cons hn',
    accept_cons hq' hqtext, accept_cons hcolon' hcolontext, he, accept_cons_of_ne hu' hend]

/-- The parameters of a stub. -/
theorem takes_parameters (hts : Spelled source ts (sign "(" :: (parameterTokens "args" ++
    sign "," :: (parameterTokens "context" ++ [sign ")"]))))
    (hbudget : 16 * (ts.length + rest.length) ≤ budget) :
    Takes (ValueReader.parameters budget) source ts rest (· = stubArity) := by
  obtain ⟨opening, ts₁, rfl, hopening, hopentext, -, hts₁⟩ := hts.uncons
  obtain ⟨args, ts₂, rfl, hargs, hts₂⟩ := hts₁.split
  obtain ⟨comma, ts₃, rfl, hcomma, hcommatext, -, hts₃⟩ := hts₂.uncons
  obtain ⟨context, ts₄, rfl, hcontext, hts₄⟩ := hts₃.split
  obtain ⟨closing, ts₅, rfl, hclosing, hclosetext, -, hts₅⟩ := hts₄.uncons
  obtain rfl := hts₅.eq_nil
  have hopening' := isComment_of_kind hopening (by decide)
  have hcomma' := isComment_of_kind hcomma (by decide)
  have hclosing' := isComment_of_kind hclosing (by decide)
  simp only [List.length_cons, List.length_append, List.length_nil] at hbudget
  obtain ⟨j, rfl⟩ : ∃ j, budget = j + 3 := ⟨budget - 3, by omega⟩
  have hfirst : Takes (ValueReader.parameter (j + 1)) source args
      (comma :: (context ++ closing :: rest)) (· = ValueReader.countOptional) :=
    takes_parameter (by simp) hargs hcomma (by simp [hcommatext])
      (by simp only [List.length_cons, List.length_append]; omega)
  have hsecond : Takes (ValueReader.parameter j) source context (closing :: rest)
      (· = ValueReader.countOptional) :=
    takes_parameter (by simp) hcontext hclosing (by simp [hclosetext])
      (by simp only [List.length_cons]; omega)
  obtain ⟨a, ts₆, rfl, ha, hatext, -, -⟩ := hargs.uncons
  obtain ⟨c, ts₇, rfl, hc, hctext, -, -⟩ := hcontext.uncons
  intro last errors
  obtain ⟨_, last₁, hcount, rfl⟩ := hfirst opening.stop errors
  obtain ⟨_, last₂, hcount', rfl⟩ := hsecond comma.stop errors
  refine ⟨stubArity, closing.stop, ?_, rfl⟩
  simp only [List.cons_append, List.append_assoc, List.nil_append] at hcount hcount' ⊢
  unfold ValueReader.parameters ValueReader.parameterList ValueReader.parameterList
  simp [expect_cons hopening' hopentext, peekText_cons (isComment_of_kind ha (by decide)), hatext, hcount,
    accept_cons hcomma' hcommatext, peekText_cons (isComment_of_kind hc (by decide)), hctext, hcount',
    accept_cons_of_ne hclosing', hclosetext, closeWith_cons hclosing', ValueReader.countOptional, stubArity]

/-- The result of a stub. -/
theorem takes_result (ending : Option Ending) (hts : Spelled source ts [(.name, "unknown")])
    (hu : u.kind = .punctuation) (hstop : u.text = ";")
    (hbudget : 16 * (ts.length + (u :: rest).length) ≤ budget) :
    Takes (TypeReader.resultType ending (budget + 1)) source ts (u :: rest) fun _ => True := by
  have htype : Takes (TypeReader.type ending budget) source ts (u :: rest) fun _ => True :=
    takes_unknown ending hts (follows_cons rest hu (by simp [hstop])) hbudget
  obtain ⟨t, ts', rfl, ht, httext, -, hts'⟩ := hts.uncons
  obtain rfl := hts'.eq_nil
  have ht' := isComment_of_kind ht (by decide)
  have hu' := isComment_of_kind hu (by decide)
  intro last errors
  obtain ⟨e, last', he, -⟩ := htype last errors
  refine ⟨(), last', ?_, trivial⟩
  rw [List.cons_append, List.nil_append] at he ⊢
  unfold TypeReader.resultType
  simp [ahead_cons ht', httext, afterComments_cons hu', hu, hstop, he]

/-- A function without a body, behind its word. -/
theorem takes_functionTail {name : String} (isExported : Bool) (start : Mark)
    (hts : Spelled source ts ((.name, name) :: signatureTokens))
    (hbudget : 16 * (ts.length + rest.length) ≤ budget) :
    Takes (functionTail isExported start budget) source ts rest
      fun item => ∃ span, item = .binding ⟨name, .function stubArity, isExported, span⟩ := by
  obtain ⟨n, ts₁, rfl, hn, hntext, -, hts₁⟩ := hts.uncons
  obtain ⟨parameters, ts₂, rfl, hparameters, hts₂⟩ := hts₁.split
  obtain ⟨colon, ts₃, rfl, hcolon, hcolontext, -, hts₃⟩ := hts₂.uncons
  obtain ⟨result, ts₄, rfl, hresult, hts₄⟩ := hts₃.split
  obtain ⟨semicolon, ts₅, rfl, hsemicolon, hsemitext, -, hts₅⟩ := hts₄.uncons
  obtain rfl := hts₅.eq_nil
  have hn' := isComment_of_kind hn (by decide)
  have hcolon' := isComment_of_kind hcolon (by decide)
  have hsemicolon' := isComment_of_kind hsemicolon (by decide)
  simp only [List.length_cons, List.length_append, List.length_nil] at hbudget
  obtain ⟨b, rfl⟩ : ∃ b, budget = b + 1 := ⟨budget - 1, by omega⟩
  have hlist : Takes (ValueReader.parameters (b + 1)) source parameters
      (colon :: (result ++ semicolon :: rest)) (· = stubArity) :=
    takes_parameters hparameters (by simp only [List.length_cons, List.length_append]; omega)
  have hreturns : Takes (TypeReader.resultType (some .afterSignature) (b + 1)) source result
      (semicolon :: rest) fun _ => True :=
    takes_result _ hresult hsemicolon hsemitext (by simp only [List.length_cons]; omega)
  obtain ⟨opening, ts₆, rfl, hopening, hopentext, -, -⟩ := hparameters.uncons
  have hopening' := isComment_of_kind hopening (by decide)
  intro last errors
  obtain ⟨_, last₁, harity, rfl⟩ := hlist n.stop errors
  obtain ⟨_, last₂, hend, -⟩ := hreturns colon.stop errors
  refine ⟨_, semicolon.stop, ?_, start.upTo semicolon.stop.offset, by rw [← hntext]⟩
  simp only [List.cons_append, List.append_assoc, List.nil_append] at harity hend ⊢
  have hstar : n.text ≠ "*" := name_ne hn (by decide)
  obtain ⟨ends, hends⟩ := endsHere_apply (some .afterSignature) ⟨source, semicolon :: rest, last₂, errors⟩
  unfold functionTail
  simp [accept_cons_of_ne hn' hstar, skipAngles_cons hopening', hopentext, expectKind_cons hn' hn,
    harity, accept_cons hcolon' hcolontext, hend, hends, peekText_cons hsemicolon', hsemitext,
    endStatement_cons _ hsemicolon' hsemitext]

/-- A function that is only declared. -/
theorem takes_function {name : String} (hts : Spelled source ts (functionTokens name))
    (hbudget : 16 * (ts.length + rest.length) ≤ budget) :
    Takes (statement none budget) source ts rest
      fun items => ∃ span, items = [.binding ⟨name, .function stubArity, true, span⟩] := by
  obtain ⟨exp, ts₁, rfl, hexp, hexptext, -, hts₁⟩ := hts.uncons
  obtain ⟨declare, ts₂, rfl, hdeclare, hdeclaretext, -, hts₂⟩ := hts₁.uncons
  obtain ⟨word, ts₃, rfl, hword, hwordtext, -, hts₃⟩ := hts₂.uncons
  have hexp' := isComment_of_kind hexp (by decide)
  have hdeclare' := isComment_of_kind hdeclare (by decide)
  have hword' := isComment_of_kind hword (by decide)
  simp only [List.length_cons] at hbudget
  obtain ⟨b, rfl⟩ : ∃ b, budget = b + 3 := ⟨budget - 3, by omega⟩
  have htail : Takes (functionTail true word.start b) source ts₃ rest _ :=
    takes_functionTail true word.start hts₃ (by omega)
  intro last errors
  obtain ⟨_, last', h, span, rfl⟩ := htail word.stop errors
  refine ⟨_, last', ?_, span, rfl⟩
  simp only [List.cons_append]
  unfold statement
  simp [ahead_cons hexp', hexptext, hexp, afterComments_cons hdeclare', next_cons hexp', exportTail,
    ahead_cons hdeclare', hdeclaretext, decoratedDeclaration, peek?_cons hdeclare', declaration,
    next_cons hdeclare', accept_cons_of_ne hword', hwordtext, next_cons hword', h]

/-- The parameters and the result of a method without a body. -/
theorem takes_methodTail
    (hts : Spelled source ts (parametersTokens ++ sign ":" :: [(.name, "unknown")]))
    (hu : u.kind = .punctuation) (hsemi : u.text = ";")
    (hbudget : 16 * (ts.length + (u :: rest).length) + 1 ≤ budget) :
    Takes (ValueReader.classMethodTail budget) source ts (u :: rest) (· = stubArity) := by
  obtain ⟨parameters, ts₁, rfl, hparameters, hts₁⟩ := hts.split
  obtain ⟨colon, result, rfl, hcolon, hcolontext, -, hresult⟩ := hts₁.uncons
  have hcolon' := isComment_of_kind hcolon (by decide)
  have hu' := isComment_of_kind hu (by decide)
  simp only [List.length_cons, List.length_append] at hbudget
  obtain ⟨b, rfl⟩ : ∃ b, budget = b + 2 := ⟨budget - 2, by omega⟩
  have hlist : Takes (ValueReader.parameters (b + 1)) source parameters
      (colon :: (result ++ u :: rest)) (· = stubArity) :=
    takes_parameters hparameters (by simp only [List.length_cons, List.length_append]; omega)
  have hreturns : Takes (TypeReader.resultType (some .afterSignature) (b + 1)) source result
      (u :: rest) fun _ => True :=
    takes_result _ hresult hu hsemi (by simp only [List.length_cons]; omega)
  obtain ⟨opening, ts₂, rfl, hopening, hopentext, -, -⟩ := hparameters.uncons
  have hopening' := isComment_of_kind hopening (by decide)
  intro last errors
  obtain ⟨_, last₁, harity, rfl⟩ := hlist last errors
  obtain ⟨_, last₂, hend, -⟩ := hreturns colon.stop errors
  obtain ⟨ends, hends⟩ := endsHere_apply (some .afterSignature) ⟨source, u :: rest, last₂, errors⟩
  refine ⟨stubArity, last₂, ?_, rfl⟩
  simp only [List.cons_append, List.append_assoc] at harity hend ⊢
  unfold ValueReader.classMethodTail
  simp [skipAngles_cons hopening', hopentext, harity, accept_cons hcolon' hcolontext, hend,
    peekText_cons hu', hsemi, hends]

/-- A method without a body, up to the semicolon behind it. -/
theorem takes_classMember {name : String} (hname : IsQuotable name)
    (hts : Spelled source ts (property name :: (parametersTokens ++ sign ":" :: [(.name, "unknown")])))
    (hu : u.kind = .punctuation) (hsemi : u.text = ";")
    (hbudget : 16 * (ts.length + (u :: rest).length) ≤ budget + 8) :
    Takes (ValueReader.classMember budget) source ts (u :: rest) (ReadsMethods [name]) := by
  obtain ⟨n, ts₁, rfl, hkind, htext, -, hts₁⟩ := hts.next
  have hread := propertyName_of_token hkind htext hname
  obtain ⟨hproperty, hn⟩ := isPropertyName_of_token hkind
  simp only [List.length_cons] at hbudget
  obtain ⟨b, rfl⟩ : ∃ b, budget = b + 2 := ⟨budget - 2, by omega⟩
  have htail : Takes (ValueReader.classMethodTail (b + 1)) source ts₁ (u :: rest) (· = stubArity) :=
    takes_methodTail hts₁ hu hsemi (by simp only [List.length_cons]; omega)
  obtain ⟨opening, ts₂, rfl, hopening, hopentext, -, -⟩ := hts₁.uncons
  have hopening' := isComment_of_kind hopening (by decide)
  have hne : ∀ text, _ → _ → n.text ≠ text := fun _ => property_ne htext
  intro last errors
  obtain ⟨_, last', h, rfl⟩ := htail n.stop errors
  have hmodifiers : modifiers (b + 1) ⟨source, n :: opening :: (ts₂ ++ u :: rest), last, errors⟩ = _ :=
    modifiers_cons (b + 1) hn (hne "*" (by decide) (by decide)) hopening (by simp [hopentext])
  refine ⟨if name = "constructor" then []
    else [⟨name, .function stubArity, n.start.upTo last'.offset⟩], last', ?_, ?_⟩
  · rw [List.cons_append] at h ⊢
    unfold ValueReader.classMember ValueReader.decorators
    by_cases hconstructor : name = "constructor" <;>
      simp [hread, peek?_cons hn, accept_cons_of_ne hn (hne "@" (by decide) (by decide)), ahead_cons hn,
        afterComments_cons hopening', hopentext, hmodifiers, hne "[" (by decide) (by decide),
        ValueReader.memberName, hproperty, next_cons hn, accept_cons_of_ne hopening',
        peekText_cons hopening', h, hconstructor]
  · by_cases hconstructor : name = "constructor" <;> simp [ReadsMethods, hconstructor]

/-- The methods of a class, in front of its closing brace. -/
theorem takes_classMembers : ∀ (methods : List String) {ts rest : List Token} {v : Token} {budget : Nat},
    (∀ name ∈ methods, IsQuotable name) →
    Spelled source ts (methodTokens methods) → v.kind = .punctuation → v.text = "\x7d" →
    16 * (ts.length + (v :: rest).length) ≤ budget →
    Takes (ValueReader.classMembers budget) source ts (v :: rest) (ReadsMethods methods)
  | [], ts, rest, v, budget, _, hts, hv, hclose, hbudget => by
      obtain rfl := hts.eq_nil
      have hv' := isComment_of_kind hv (by decide)
      simp only [List.length_cons] at hbudget
      obtain ⟨b, rfl⟩ : ∃ b, budget = b + 1 := ⟨budget - 1, by omega⟩
      intro last errors
      refine ⟨[], last, ?_, rfl⟩
      simp [ValueReader.classMembers, peek?_cons hv', hclose]
  | name :: more, ts, rest, v, budget, hnames, hts, hv, hclose, hbudget => by
      obtain ⟨method, ts₁, rfl, hmethod, hts₁⟩ := hts.split
      obtain ⟨semicolon, ts₂, rfl, hsemicolon, hsemitext, -, hts₂⟩ := hts₁.uncons
      have hsemicolon' := isComment_of_kind hsemicolon (by decide)
      simp only [List.length_cons, List.length_append] at hbudget
      obtain ⟨b, rfl⟩ : ∃ b, budget = b + 2 := ⟨budget - 2, by omega⟩
      have hfirst : Takes (ValueReader.classMember (b + 1)) source method
          (semicolon :: (ts₂ ++ v :: rest)) (ReadsMethods [name]) :=
        takes_classMember (hnames name List.mem_cons_self) hmethod hsemicolon hsemitext
          (by simp only [List.length_cons, List.length_append]; omega)
      have hothers : Takes (ValueReader.classMembers b) source ts₂ (v :: rest) (ReadsMethods more) :=
        takes_classMembers more (fun other hother => hnames other (List.mem_cons_of_mem _ hother)) hts₂ hv
          hclose (by simp only [List.length_cons]; omega)
      obtain ⟨n, ts₃, rfl, hkind, htext, -, -⟩ := hmethod.next
      have hn := (isPropertyName_of_token hkind).2
      have hne : ∀ text, _ → _ → n.text ≠ text := fun _ => property_ne htext
      intro last errors
      obtain ⟨found, last₁, hfound, hread⟩ := hfirst last errors
      obtain ⟨others, last₂, hmore, hreads⟩ := hothers semicolon.stop errors
      refine ⟨found ++ others, last₂, ?_, hread.append hreads⟩
      simp only [List.cons_append, List.append_assoc] at hfound ⊢
      unfold ValueReader.classMembers
      simp [peek?_cons hn, hne "\x7d" (by decide) (by decide), hne ";" (by decide) (by decide),
        hne "," (by decide) (by decide), hfound]
      unfold ValueReader.classMembers
      simp [peek?_cons hsemicolon', hsemitext, next_cons hsemicolon', hmore]

theorem mayEnd_cons (ending : Ending) {last : Mark} {errors : List SyntaxError}
    (hu : u.isComment = false) :
    mayEnd ending ⟨source, u :: rest, last, errors⟩ = some ((), ⟨source, u :: rest, last, errors⟩) := by
  have htaken : (u :: rest).takeWhile (fun t => t.isComment && !t.lineBreak) = [] := by simp [hu]
  have hleft : (u :: rest).dropWhile (fun t => t.isComment && !t.lineBreak) = u :: rest := by simp [hu]
  unfold mayEnd
  split
  · rename_i c hc
    unfold implicitEnd? at hc
    simp only [htaken, hleft, List.getLast?_nil] at hc
    split at hc
    · split at hc
      · rw [← Option.some.inj hc]
      · cases hc
    · split at hc
      · rw [← Option.some.inj hc]
      · split at hc
        · cases hc
        · rw [← Option.some.inj hc]
  · rfl

/-- A class of methods without bodies, behind its word. -/
theorem takes_classDeclaration {name : String} {methods : List String} (isExported : Bool) (start : Mark)
    (hname : name ∉ ["extends", "implements"]) (hmethods : ∀ method ∈ methods, IsQuotable method)
    (hts : Spelled source ts ((.name, name) :: sign "\x7b" :: (methodTokens methods ++ [sign "\x7d"])))
    (hu : u.isComment = false) (hbudget : 16 * (ts.length + (u :: rest).length) ≤ budget) :
    Takes (classDeclaration isExported start budget) source ts (u :: rest) fun items =>
      ∃ members span, items = [.binding ⟨name, .classBody members, isExported, span⟩] ∧
        ReadsMethods methods members := by
  obtain ⟨n, ts₁, rfl, hn, hntext, -, hts₁⟩ := hts.uncons
  obtain ⟨opening, ts₂, rfl, hopening, hopentext, -, hts₂⟩ := hts₁.uncons
  obtain ⟨methodTs, ts₃, rfl, hspelled, hts₃⟩ := hts₂.split
  obtain ⟨closing, ts₄, rfl, hclosing, hclosetext, -, hts₄⟩ := hts₃.uncons
  obtain rfl := hts₄.eq_nil
  have hn' := isComment_of_kind hn (by decide)
  have hopening' := isComment_of_kind hopening (by decide)
  have hclosing' := isComment_of_kind hclosing (by decide)
  simp only [List.length_cons, List.length_append, List.length_nil] at hbudget
  obtain ⟨b, rfl⟩ : ∃ b, budget = b + 2 := ⟨budget - 2, by omega⟩
  have hbody : Takes (ValueReader.classMembers (b + 1)) source methodTs (closing :: u :: rest)
      (ReadsMethods methods) :=
    takes_classMembers methods hmethods hspelled hclosing hclosetext (by simp only [List.length_cons]; omega)
  simp only [List.mem_cons, List.not_mem_nil, or_false, not_or, ← hntext] at hname
  intro last errors
  obtain ⟨found, last', hfound, hreads⟩ := hbody opening.stop errors
  refine ⟨_, closing.stop, ?_, found, start.upTo closing.stop.offset, by rw [← hntext], hreads⟩
  simp only [List.cons_append, List.append_assoc, List.nil_append] at hfound ⊢
  unfold classDeclaration ValueReader.classTail ValueReader.classHeritage
  simp [peek?_cons hn', hn, hname, next_cons hn', skipAngles_cons hopening', hopentext,
    peek?_cons hopening', expect_cons hopening' hopentext, hfound,
    closeWith_cons hclosing' hclosetext, mayEnd_cons _ hu]

/-- A name as a value. It ends at a semicolon, or at a line that does not go on with it. -/
theorem takes_expression (hkind : t.kind = .name) (htext : t.text ∈ [Emission.handlerClass, "declare"])
    (hu : u.isComment = false) (hstop : u.kind = .punctuation ∧ u.text = ";" ∨ u.text = "class" ∧
      ∀ last errors, endsHere (some .afterValue) ⟨source, u :: rest, last, errors⟩ =
        some (true, ⟨source, u :: rest, last, errors⟩)) :
    Takes (ValueReader.expression (some .afterValue) (j + 4)) source [t] (u :: rest) (· = .alias t.text) := by
  have ht := isComment_of_kind hkind (by decide)
  simp only [List.mem_cons, List.not_mem_nil, or_false, Emission.handlerClass] at htext
  have hnext : u.text ∉ ["=>", "(", "<", "function"] := by
    rcases hstop with ⟨-, h⟩ | ⟨h, -⟩ <;> simp [h]
  simp only [List.mem_cons, List.not_mem_nil, or_false, not_or] at hnext
  intro last errors
  refine ⟨.alias t.text, t.stop, ?_, rfl⟩
  have hprimary : ValueReader.primary (some .afterValue) (j + 2) ⟨source, t :: u :: rest, last, errors⟩ =
      some (.alias t.text, ⟨source, u :: rest, t.stop, errors⟩) := by
    unfold ValueReader.primary
    rcases htext with htext | htext <;> simp [next_cons ht, hkind, htext, peekText_cons hu]
  have htrailers : ValueReader.trailers (some .afterValue) (.alias t.text) (j + 2)
      ⟨source, u :: rest, t.stop, errors⟩ = some (.alias t.text, ⟨source, u :: rest, t.stop, errors⟩) := by
    obtain ⟨opens, hopens⟩ : ∃ b, ValueReader.startsTypeArguments (j + 1)
        ⟨source, u :: rest, t.stop, errors⟩ = some (b, ⟨source, u :: rest, t.stop, errors⟩) := ⟨_, rfl⟩
    unfold ValueReader.trailers
    rcases hstop with ⟨hpunctuation, hsemi⟩ | ⟨-, hends⟩
    · obtain ⟨ends, hends⟩ :=
        endsHere_apply (some .afterValue) ⟨source, u :: rest, t.stop, errors⟩
      cases ends <;> cases opens <;>
        simp [peek?_cons hu, hends, hsemi, hpunctuation, hopens]
    · simp [peek?_cons hu, hends]
  have hoperators : ValueReader.operators (some .afterValue) (.alias t.text) (j + 3)
      ⟨source, u :: rest, t.stop, errors⟩ = some (.alias t.text, ⟨source, u :: rest, t.stop, errors⟩) := by
    unfold ValueReader.operators
    rcases hstop with ⟨hpunctuation, hsemi⟩ | ⟨-, hends⟩
    · obtain ⟨ends, hends⟩ :=
        endsHere_apply (some .afterValue) ⟨source, u :: rest, t.stop, errors⟩
      cases ends <;>
        simp [peek?_cons hu, hends, hsemi, hpunctuation, ValueReader.binaryOperators]
    · simp [peek?_cons hu, hends]
  have hoperand : ValueReader.operand (some .afterValue) (j + 3) ⟨source, t :: u :: rest, last, errors⟩ =
      some (.alias t.text, ⟨source, u :: rest, t.stop, errors⟩) := by
    unfold ValueReader.operand
    rcases htext with htext | htext <;> rw [htext] at hprimary htrailers ⊢ <;>
      simp [ahead_cons ht, htext, ValueReader.unaryOperators, hprimary, htrailers]
  -- The tests for arrow functions are made before it is known whether they matter.
  obtain ⟨arrow, harrow⟩ : ∃ b, ValueReader.startsArrow (j + 3) ⟨source, t :: u :: rest, last, errors⟩ =
      some (b, ⟨source, t :: u :: rest, last, errors⟩) := ⟨_, rfl⟩
  obtain ⟨arrow', harrow'⟩ : ∃ b, lookahead (do let _ ← next; ValueReader.startsArrow (j + 3))
      ⟨source, t :: u :: rest, last, errors⟩ = some (b, ⟨source, t :: u :: rest, last, errors⟩) := by
    simp [lookahead, next_cons ht, ValueReader.startsArrow]
  rw [List.cons_append, List.nil_append]
  unfold ValueReader.expression
  rcases htext with htext | htext <;> rw [htext] at hoperand hoperators ⊢ <;>
    simp [ahead_cons ht, hkind, afterComments_cons hu, hnext, htext, harrow, harrow', hoperand,
      hoperators]

/-- The class of stubs as the default export. -/
theorem takes_default (hts : Spelled source ts (defaultTokens Emission.handlerClass))
    (hbudget : 16 * (ts.length + rest.length) ≤ budget) :
    Takes (statement none budget) source ts rest
      fun items => ∃ span, items = [.defaultExport ⟨.alias Emission.handlerClass, span⟩] := by
  obtain ⟨exp, ts₁, rfl, hexp, hexptext, -, hts₁⟩ := hts.uncons
  obtain ⟨word, ts₂, rfl, hword, hwordtext, -, hts₂⟩ := hts₁.uncons
  obtain ⟨n, ts₃, rfl, hn, hntext, -, hts₃⟩ := hts₂.uncons
  obtain ⟨semicolon, ts₄, rfl, hsemicolon, hsemitext, -, hts₄⟩ := hts₃.uncons
  obtain rfl := hts₄.eq_nil
  have hexp' := isComment_of_kind hexp (by decide)
  have hword' := isComment_of_kind hword (by decide)
  have hn' := isComment_of_kind hn (by decide)
  have hsemicolon' := isComment_of_kind hsemicolon (by decide)
  simp only [List.length_cons] at hbudget
  obtain ⟨b, rfl⟩ : ∃ b, budget = b + 6 := ⟨budget - 6, by omega⟩
  have hvalue : Takes (ValueReader.expression (some .afterValue) (b + 5)) source [n] (semicolon :: rest)
      (· = .alias n.text) :=
    takes_expression hn (by simp [hntext]) hsemicolon' (.inl ⟨hsemicolon, hsemitext⟩)
  intro last errors
  obtain ⟨_, last', h, rfl⟩ := hvalue word.stop errors
  refine ⟨_, semicolon.stop, ?_, exp.start.upTo semicolon.stop.offset, by rw [← hntext]⟩
  simp only [List.cons_append, List.nil_append] at h ⊢
  unfold statement
  simp [ahead_cons hexp', hexptext, hexp, afterComments_cons hword', next_cons hexp', exportTail,
    ahead_cons hword', hwordtext, next_cons hword', defaultTail, lookahead, ValueReader.decorators,
    accept_cons_of_ne hn', hntext, ahead_cons hn', startsDefaultDeclaration, startsDeclaration,
    declarationWords, namedDeclarationWords, Emission.handlerClass, h,
    endStatement_cons _ hsemicolon' hsemitext]

end Stubs

/-! ## 4. Imports -/

theorem takes_specifiers : ∀ (first : String) (others : List String) {ts rest : List Token} {v : Token}
    {budget : Nat}, (∀ name ∈ first :: others, name ∉ ["type", "typeof"]) →
    Spelled source ts ((.name, first) :: moreNames others) → v.kind = .punctuation → v.text = "\x7d" →
    16 * (ts.length + (v :: rest).length) ≤ budget →
    Takes (importSpecifiers budget) source ts (v :: rest) fun _ => True
  | first, others, ts, rest, v, budget, hnames, hts, hv, hclose, hbudget => by
      obtain ⟨n, ts₁, rfl, hn, hntext, -, hts₁⟩ := hts.uncons
      have hn' := isComment_of_kind hn (by decide)
      have hv' := isComment_of_kind hv (by decide)
      have hbrace : n.text ≠ "\x7d" := name_ne hn (by decide)
      have htype := hnames first List.mem_cons_self
      simp only [← hntext, List.mem_cons, List.not_mem_nil, or_false, not_or] at htype
      simp only [List.length_cons] at hbudget
      obtain ⟨b, rfl⟩ : ∃ b, budget = b + 1 := ⟨budget - 1, by omega⟩
      intro last errors
      cases others with
      | nil =>
        obtain rfl := hts₁.eq_nil
        refine ⟨[fun value => .binding ⟨n.text, value, false, n.start.upTo n.stop.offset⟩], n.stop, ?_,
          trivial⟩
        rw [List.cons_append, List.nil_append]
        unfold importSpecifiers
        simp [ahead_cons hn', hbrace, htype, next_cons hn', accept_cons_of_ne hv', hclose, hn]
      | cons second more =>
        obtain ⟨comma, ts₂, rfl, hcomma, hcommatext, -, hts₂⟩ := hts₁.uncons
        have hcomma' := isComment_of_kind hcomma (by decide)
        simp only [List.length_cons] at hbudget
        have hothers : Takes (importSpecifiers b) source ts₂ (v :: rest) fun _ => True :=
          takes_specifiers second more (fun name hname => hnames name (List.mem_cons_of_mem _ hname))
            hts₂ hv hclose (by simp only [List.length_cons]; omega)
        obtain ⟨found, last', h, -⟩ := hothers comma.stop errors
        refine ⟨(fun value => .binding ⟨n.text, value, false, n.start.upTo n.stop.offset⟩) :: found,
          last', ?_, trivial⟩
        simp only [List.cons_append]
        unfold importSpecifiers
        simp [ahead_cons hn', hbrace, htype, next_cons hn', accept_cons_of_ne hcomma', hcommatext, hn,
          accept_cons hcomma', h]

/-- An import of types binds nothing. -/
theorem takes_import {first path : String} {others : List String}
    (hnames : ∀ name ∈ first :: others, name ∉ ["type", "typeof"])
    (hts : Spelled source ts (importTokens first others path))
    (hbudget : 16 * (ts.length + rest.length) ≤ budget) :
    Takes (statement none budget) source ts rest fun items => items = [] := by
  obtain ⟨word, ts₁, rfl, hword, hwordtext, -, hts₁⟩ := hts.uncons
  obtain ⟨mark, ts₂, rfl, hmark, hmarktext, -, hts₂⟩ := hts₁.uncons
  obtain ⟨opening, ts₃, rfl, hopening, hopentext, -, hts₃⟩ := hts₂.uncons
  obtain ⟨names, ts₄, rfl, hspelled, hts₄⟩ := hts₃.split
  obtain ⟨closing, ts₅, rfl, hclosing, hclosetext, -, hts₅⟩ := hts₄.uncons
  obtain ⟨origin, ts₆, rfl, horigin, horigintext, -, hts₆⟩ := hts₅.uncons
  obtain ⟨file, ts₇, rfl, hfile, -, -, hts₇⟩ := hts₆.uncons
  obtain ⟨semicolon, ts₈, rfl, hsemicolon, hsemitext, -, hts₈⟩ := hts₇.uncons
  obtain rfl := hts₈.eq_nil
  have hword' := isComment_of_kind hword (by decide)
  have hmark' := isComment_of_kind hmark (by decide)
  have hopening' := isComment_of_kind hopening (by decide)
  have hclosing' := isComment_of_kind hclosing (by decide)
  have horigin' := isComment_of_kind horigin (by decide)
  have hfile' := isComment_of_kind hfile (by decide)
  have hsemicolon' := isComment_of_kind hsemicolon (by decide)
  simp only [List.length_cons, List.length_append, List.length_nil] at hbudget
  obtain ⟨b, rfl⟩ : ∃ b, budget = b + 1 := ⟨budget - 1, by omega⟩
  have hlist : Takes (importSpecifiers b) source names
      (closing :: origin :: file :: semicolon :: rest) fun _ => True :=
    takes_specifiers first others hnames hspelled hclosing hclosetext
      (by simp only [List.length_cons]; omega)
  obtain ⟨n, ts₉, rfl, hn, -, -, -⟩ := hspelled.uncons
  have hn' := isComment_of_kind hn (by decide)
  have hequals : n.text ≠ "=" := name_ne hn (by decide)
  intro last errors
  obtain ⟨found, last', h, -⟩ := hlist opening.stop errors
  refine ⟨[], semicolon.stop, ?_, rfl⟩
  simp only [List.cons_append, List.append_assoc, List.nil_append] at h ⊢
  unfold statement
  simp [ahead_cons hword', hwordtext, hword, afterComments_cons hmark', hmarktext, next_cons hword',
    importTail, ahead_cons hmark', hmark, afterComments_cons hopening', hopentext, next_cons hmark',
    ahead_cons hopening', afterComments_cons hn', hequals, importClause, next_cons hopening', h,
    expect_cons hclosing' hclosetext, accept_cons_of_ne horigin', horigintext, expect_cons horigin',
    expectKind_cons hfile' hfile, importTail.attributes, peekText_cons hsemicolon', hsemitext,
    endStatement_cons _ hsemicolon' hsemitext]

/-! ## 5. Statements -/

/-- Statements of which just the given items are read, with nothing wrong, whatever follows. -/
def Declares (source : List Char) (budget : Nat) (ts rest : List Token) (ws : List WrittenItem) : Prop :=
  ∀ count last, ts.length < count → ∃ items count' last', count ≤ count' + ts.length ∧
    statements none budget count ⟨source, ts ++ rest, last, []⟩ =
      (items ++ (statements none budget count' ⟨source, rest, last', []⟩).1,
        (statements none budget count' ⟨source, rest, last', []⟩).2) ∧
    List.Forall₂ WrittenItem.Reads ws items

theorem Declares.append {ts' : List Token} {ws ws' : List WrittenItem}
    (h : Declares source budget ts (ts' ++ rest) ws) (h' : Declares source budget ts' rest ws') :
    Declares source budget (ts ++ ts') rest (ws ++ ws') := by
  intro count last hcount
  rw [List.length_append] at hcount
  obtain ⟨items, count₁, last₁, hcount₁, heq, hreads⟩ := h count last (by omega)
  obtain ⟨items', count₂, last₂, hcount₂, heq', hreads'⟩ := h' count₁ last₁ (by omega)
  refine ⟨items ++ items', count₂, last₂, by rw [List.length_append]; omega, ?_,
    List.rel_append hreads hreads'⟩
  rw [List.append_assoc, heq, heq', List.append_assoc]

theorem declares_nil : Declares source budget [] rest [] :=
  fun count last _ => ⟨[], count, last, Nat.le_refl _, rfl, .nil⟩

/-- A comment that is no doc comment is skipped. -/
theorem declares_comment (hkind : t.kind = .comment)
    (hdoc : "/**".toList.isPrefixOf t.text.toList = false) : Declares source budget [t] rest [] := by
  intro count last hcount
  obtain ⟨n, rfl⟩ : ∃ n, count = n + 1 := ⟨count - 1, by omega⟩
  have ht : t.isComment = true := by simp [isComment, hkind]
  refine ⟨[], n, last, Nat.le_refl _, ?_, .nil⟩
  rw [List.cons_append, List.nil_append, List.nil_append, statements]
  simp only [ht, hdoc, if_true, Bool.false_eq_true, if_false]

/-- One statement. -/
theorem declares_of_takes {P : List Item → Prop} {ws : List WrittenItem} (ht : t.isComment = false)
    (h : Takes (statement none budget) source (t :: ts) rest P)
    (hP : ∀ items, P items → List.Forall₂ WrittenItem.Reads ws items) :
    Declares source budget (t :: ts) rest ws := by
  intro count last hcount
  obtain ⟨n, rfl⟩ : ∃ n, count = n + 1 := ⟨count - 1, by omega⟩
  obtain ⟨items, last', heq, hitems⟩ := h last []
  refine ⟨items, n, last', by rw [List.length_cons]; omega, ?_, hP items hitems⟩
  rw [List.cons_append] at heq ⊢
  rw [statements]
  simp only [ht, heq, Bool.false_eq_true, if_false]

/-- An interface, with the comment in front of it. -/
theorem declares_interface (w : WrittenInterface) (hw : w.Sound) (hts : Spelled source ts w.tokens)
    (hbudget : 16 * (ts.length + rest.length) ≤ budget) : Declares source budget ts rest [.interface w] := by
  obtain ⟨comments, ts₁, rfl, hcomments, hts₁⟩ := hts.split
  obtain ⟨word, ts₂, rfl, hword, -, -, -⟩ := hts₁.uncons
  have hword' := isComment_of_kind hword (by decide)
  simp only [List.length_append, List.length_cons] at hbudget
  -- Behind the comment, `doc?` is what the comment is.
  have hdeclared : ∀ doc? : Option Doc, doc?.map (·.text) = w.comment? → ∀ n last, ∃ d last',
      statements doc? budget (n + 1) ⟨source, word :: ts₂ ++ rest, last, []⟩ =
        ([.shape d] ++ (statements none budget n ⟨source, rest, last', []⟩).1,
          (statements none budget n ⟨source, rest, last', []⟩).2) ∧ w.Reads d := by
    intro doc? hdoc n last
    have htakes : Takes (statement doc? budget) source (word :: ts₂) rest _ :=
      takes_interface w hw.fields doc? hdoc hts₁ (by simp only [List.length_cons]; omega)
    obtain ⟨_, last', heq, d, rfl, hreads⟩ := htakes last []
    refine ⟨d, last', ?_, hreads⟩
    rw [List.cons_append] at heq ⊢
    rw [statements]
    simp only [hword', heq, Bool.false_eq_true, if_false]
  intro count last hcount
  obtain ⟨n, rfl⟩ : ∃ n, count = n + 1 := ⟨count - 1, by omega⟩
  simp only [List.length_append, List.length_cons] at hcount
  cases hcomment : w.comment? with
  | none =>
    rw [hcomment] at hcomments
    obtain rfl := hcomments.eq_nil
    obtain ⟨d, last', heq, hreads⟩ := hdeclared none (by rw [hcomment]; rfl) n last
    exact ⟨[.shape d], n, last', by simp only [List.length_append, List.length_cons]; omega, heq,
      .cons ⟨d, rfl, hreads⟩ .nil⟩
  | some comment =>
    rw [hcomment] at hcomments
    obtain ⟨k, _, rfl, hkind, hktext, -, hnil⟩ := hcomments.uncons
    obtain rfl := hnil.eq_nil
    have hk : k.isComment = true := by simp [isComment, hkind]
    have hdoc : "/**".toList.isPrefixOf k.text.toList = true := by
      rw [hktext]
      exact hw.comment comment hcomment
    simp only [List.length_cons, List.length_nil] at hcount
    obtain ⟨m, rfl⟩ : ∃ m, n = m + 1 := ⟨n - 1, by omega⟩
    obtain ⟨d, last', heq, hreads⟩ :=
      hdeclared (some ⟨k.text, k.span⟩) (by rw [hcomment, Option.map_some, hktext]) m last
    refine ⟨[.shape d], m, last', by simp only [List.length_append, List.length_cons]; omega, ?_,
      .cons ⟨d, rfl, hreads⟩ .nil⟩
    rw [List.cons_append, List.nil_append, List.cons_append, statements]
    simp only [hk, hdoc, if_true]
    exact heq

/-- A word that is a statement, since the next one stands on a new line. -/
theorem takes_loneWord (ht : t.kind = .name) (htext : t.text = "declare") (hu : u.kind = .name)
    (hutext : u.text = "class") (hline : u.lineBreak = true) :
    Takes (statement none (j + 5)) source [t] (u :: rest) fun items => items = [] := by
  have ht' := isComment_of_kind ht (by decide)
  have hu' := isComment_of_kind hu (by decide)
  have hend : ∀ last errors, implicitEnd? .afterValue ⟨source, u :: rest, last, errors⟩ =
      some ⟨source, u :: rest, last, errors⟩ := by
    intro last errors
    simp [implicitEnd?, hu', hline, afterComments_cons hu', continues, hu, hutext]
  have hvalue : Takes (ValueReader.expression (some .afterValue) (j + 4)) source [t] (u :: rest)
      (· = .alias t.text) :=
    takes_expression ht (by simp [htext]) hu' (.inr ⟨hutext, fun last errors => by simp [endsHere, hend]⟩)
  intro last errors
  obtain ⟨value, last', h, -⟩ := hvalue last errors
  refine ⟨[], last', ?_, rfl⟩
  rw [List.cons_append, List.nil_append] at h ⊢
  unfold statement
  simp [ahead_cons ht', htext, ht, afterComments_cons hu', hu, hutext, hline, startsDeclaration,
    declarationWords, namedDeclarationWords, jumpWords, expressions, h, ValueReader.sequence,
    accept_cons_of_ne hu', endStatement, hend]

/-- The class of stubs, whether or not a line break stands behind its first word. -/
theorem declares_class {methods : List String} (hmethods : ∀ name ∈ methods, IsQuotable name)
    (hts : Spelled source ts (classTokens Emission.handlerClass methods)) (hu : u.isComment = false)
    (hbudget : 16 * (ts.length + (u :: rest).length) ≤ budget) :
    Declares source budget ts (u :: rest) [.methods Emission.handlerClass methods] := by
  obtain ⟨declare, ts₁, rfl, hdeclare, hdeclaretext, -, hts₁⟩ := hts.uncons
  obtain ⟨word, ts₂, rfl, hword, hwordtext, -, hts₂⟩ := hts₁.uncons
  have hdeclare' := isComment_of_kind hdeclare (by decide)
  have hword' := isComment_of_kind hword (by decide)
  simp only [List.length_cons] at hbudget
  obtain ⟨b, rfl⟩ : ∃ b, budget = b + 5 := ⟨budget - 5, by omega⟩
  have hclass : ∀ k, b + 2 ≤ k → Takes (classDeclaration false word.start k) source ts₂ (u :: rest)
      fun items => ∃ members span, items = [.binding ⟨_, .classBody members, false, span⟩] ∧
        ReadsMethods methods members := fun k hk =>
    takes_classDeclaration false word.start (by decide) hmethods hts₂ hu (by
      simp only [List.length_cons]
      omega)
  have hbinding : ∀ items : List Item, (∃ members span,
      items = [.binding ⟨Emission.handlerClass, .classBody members, false, span⟩] ∧ ReadsMethods methods members) →
      List.Forall₂ WrittenItem.Reads [.methods Emission.handlerClass methods] items := by
    rintro _ ⟨members, span, rfl, hreads⟩
    exact .cons ⟨members, false, span, rfl, hreads⟩ .nil
  obtain ⟨n, ts₃, rfl, hn, -, -, -⟩ := hts₂.uncons
  have hn' := isComment_of_kind hn (by decide)
  cases hline : word.lineBreak with
  | false =>
    refine declares_of_takes hdeclare' ?_ hbinding
    intro last errors
    obtain ⟨items, last', h, hitems⟩ := hclass (b + 2) (Nat.le_refl _) word.stop errors
    refine ⟨items, last', ?_, hitems⟩
    simp only [List.cons_append] at h ⊢
    unfold statement
    simp [ahead_cons hdeclare', hdeclaretext, hdeclare, afterComments_cons hword', hword, hwordtext, hline,
      startsDeclaration, declarationWords, namedDeclarationWords, declaration, next_cons hdeclare',
      accept_cons_of_ne hword', next_cons hword', h]
  | true =>
    have hlone : Declares source (b + 5) [declare] (word :: n :: ts₃ ++ u :: rest) [] :=
      declares_of_takes hdeclare' (takes_loneWord hdeclare hdeclaretext hword hwordtext hline)
        fun items hitems => by rw [hitems]; exact .nil
    refine hlone.append ?_
    refine declares_of_takes hword' ?_ hbinding
    intro last errors
    obtain ⟨items, last', h, hitems⟩ := hclass (b + 3) (by omega) word.stop errors
    refine ⟨items, last', ?_, hitems⟩
    simp only [List.cons_append] at h ⊢
    unfold statement
    simp [ahead_cons hword', hwordtext, hword, startsDeclaration, declarationWords, declaration,
      next_cons hword', h]

/-- Pieces of a file one after the other. -/
theorem declares_flatMap {α : Type} {tokensOf : α → List Signature} {w : α → List WrittenItem} :
    ∀ {as : List α} {ts rest : List Token},
      (∀ a ∈ as, ∀ {ts rest : List Token}, Spelled source ts (tokensOf a) →
        16 * (ts.length + rest.length) ≤ budget → Declares source budget ts rest (w a)) →
      Spelled source ts (as.flatMap tokensOf) → 16 * (ts.length + rest.length) ≤ budget →
      Declares source budget ts rest (as.flatMap w)
  | [], ts, rest, _, hts, _ => by
      obtain rfl := hts.eq_nil
      exact declares_nil
  | a :: as, ts, rest, h, hts, hbudget => by
      rw [List.flatMap_cons] at hts
      obtain ⟨ts₁, ts₂, rfl, hts₁, hts₂⟩ := hts.split
      simp only [List.length_append] at hbudget
      rw [List.flatMap_cons]
      exact (h a List.mem_cons_self hts₁ (by simp only [List.length_append]; omega)).append
        (declares_flatMap (fun a ha => h a (List.mem_cons_of_mem _ ha)) hts₂ (by omega))

theorem declares_function {name : String} (hts : Spelled source ts (functionTokens name))
    (hbudget : 16 * (ts.length + rest.length) ≤ budget) :
    Declares source budget ts rest [.function name] := by
  have htakes := takes_function hts hbudget
  obtain ⟨t, ts', rfl, hkind, -, -, -⟩ := hts.uncons
  refine declares_of_takes (isComment_of_kind hkind (by decide)) htakes ?_
  rintro _ ⟨span, rfl⟩
  exact .cons ⟨true, span, rfl⟩ .nil

theorem declares_default (hts : Spelled source ts (defaultTokens Emission.handlerClass))
    (hbudget : 16 * (ts.length + rest.length) ≤ budget) :
    Declares source budget ts rest [.defaultExport Emission.handlerClass] := by
  have htakes := takes_default hts hbudget
  obtain ⟨t, ts', rfl, hkind, -, -, -⟩ := hts.uncons
  refine declares_of_takes (isComment_of_kind hkind (by decide)) htakes ?_
  rintro _ ⟨span, rfl⟩
  exact .cons ⟨span, rfl⟩ .nil

theorem declares_import {first path : String} {others : List String}
    (hnames : ∀ name ∈ first :: others, name ∉ ["type", "typeof"])
    (hts : Spelled source ts (importTokens first others path))
    (hbudget : 16 * (ts.length + rest.length) ≤ budget) : Declares source budget ts rest [] := by
  have htakes := takes_import hnames hts hbudget
  obtain ⟨t, ts', rfl, hkind, -, -, -⟩ := hts.uncons
  refine declares_of_takes (isComment_of_kind hkind (by decide)) htakes ?_
  rintro _ rfl
  exact .nil

end FileReader

/-! ## 6. Files -/

structure WrittenFile where
  /-- A line comment. -/
  heading : String
  imports : List String
  /-- Where the imported names come from. -/
  path : String
  interfaces : List WrittenInterface
  functions : List String
  /-- The methods of the default export. -/
  methods : List String

namespace WrittenFile

def importTokens (f : WrittenFile) : List Signature :=
  match f.imports with
  | [] => []
  | first :: others => Written.importTokens first others f.path

def stubTokens (f : WrittenFile) : List Signature :=
  f.functions.flatMap functionTokens ++
    (if f.methods.isEmpty then []
      else classTokens Emission.handlerClass f.methods ++ defaultTokens Emission.handlerClass)

def tokens (f : WrittenFile) : List Signature :=
  [(.comment, f.heading)] ++ (f.importTokens ++
    (f.interfaces.flatMap WrittenInterface.tokens ++ f.stubTokens))

/-- What is read of the file. -/
def items (f : WrittenFile) : List WrittenItem :=
  f.interfaces.map .interface ++ (f.functions.map .function ++
    if f.methods.isEmpty then []
    else [.methods Emission.handlerClass f.methods, .defaultExport Emission.handlerClass])

structure Sound (f : WrittenFile) : Prop where
  heading : "/**".toList.isPrefixOf f.heading.toList = false
  imports : ∀ name ∈ f.imports, name ∉ ["type", "typeof"]
  interfaces : ∀ w ∈ f.interfaces, w.Sound
  methods : ∀ name ∈ f.methods, IsQuotable name

end WrittenFile

namespace SourceFile

section Items

variable {f : WrittenFile} {file : SourceFile}

/-- The items of a written file: interfaces, functions, and perhaps a class with the default export. -/
theorem exists_items_of_reads (h : List.Forall₂ WrittenItem.Reads f.items file.items) :
    ∃ (shapes : List ShapeDecl) (functions : List Binding) (last : List Item),
      file.items = shapes.map .shape ++ (functions.map .binding ++ last) ∧
      List.Forall₂ WrittenInterface.Reads f.interfaces shapes ∧
      functions.map (fun b => (b.name, b.value)) = f.functions.map (·, Value.function stubArity) ∧
      List.Forall₂ WrittenItem.Reads (if f.methods.isEmpty then []
        else [.methods Emission.handlerClass f.methods, .defaultExport Emission.handlerClass]) last := by
  obtain ⟨front, back, hitems, hfront, hback⟩ := exists_append_of_forall₂ h
  obtain ⟨middle, last, rfl, hmiddle, hlast⟩ := exists_append_of_forall₂ hback
  rw [List.forall₂_map_left_iff] at hfront hmiddle
  obtain ⟨shapes, rfl, hshapes⟩ := exists_map_of_forall₂ (g := Item.shape) (Q := WrittenInterface.Reads)
    (fun _ _ hreads => hreads) hfront
  obtain ⟨functions, rfl, hfunctions⟩ := exists_map_of_forall₂ (g := Item.binding)
    (Q := fun name b => (b.name, b.value) = (name, .function stubArity))
    (by rintro name _ ⟨isExported, span, rfl⟩; exact ⟨_, rfl, rfl⟩) hmiddle
  exact ⟨shapes, functions, last, hitems, hshapes, map_eq_of_forall₂ (fun _ _ heq => heq) hfunctions, hlast⟩

variable (h : List.Forall₂ WrittenItem.Reads f.items file.items)

include h

/-- The shapes of a written file are its interfaces. -/
theorem shapes_of_reads : List.Forall₂ WrittenInterface.Reads f.interfaces file.shapes := by
  obtain ⟨shapes, functions, last, hitems, hshapes, -, hlast⟩ := exists_items_of_reads h
  unfold SourceFile.shapes
  rw [hitems]
  split at hlast
  · cases hlast
    simpa using hshapes
  · obtain _ | ⟨⟨members, isExported, span, rfl, -⟩, hlast⟩ := hlast
    obtain _ | ⟨⟨exported, rfl⟩, hlast⟩ := hlast
    cases hlast
    simpa using hshapes

/-- The bindings of a written file are its functions, and the class of its methods if there are any; that class is the
default export. -/
theorem stubs_of_reads : ∃ members, ReadsMethods f.methods members ∧
    file.bindings.map (fun b => (b.name, b.value)) = f.functions.map (·, .function stubArity) ++
      (if f.methods.isEmpty then [] else [(Emission.handlerClass, .classBody members)]) ∧
    file.defaultExport?.map (·.value) =
      if f.methods.isEmpty then none else some (.alias Emission.handlerClass) := by
  obtain ⟨shapes, functions, last, hitems, -, hfunctions, hlast⟩ := exists_items_of_reads h
  have hdefault : file.defaultExport? = (SourceFile.mk last []).defaultExport? := by
    unfold defaultExport?
    rw [hitems, List.findSome?_append, List.findSome?_append, List.findSome?_eq_none_iff.mpr (by simp),
      List.findSome?_eq_none_iff.mpr (by simp), Option.none_or, Option.none_or]
  rw [hdefault]
  unfold bindings defaultExport?
  rw [hitems]
  split at hlast
  · rename_i hempty
    cases hlast
    refine ⟨[], by simp [ReadsMethods, List.isEmpty_iff.mp hempty], ?_, ?_⟩ <;> simp [hempty, hfunctions]
  · rename_i hsome
    obtain _ | ⟨⟨members, isExported, span, rfl, hmembers⟩, hlast⟩ := hlast
    obtain _ | ⟨⟨exported, rfl⟩, hlast⟩ := hlast
    cases hlast
    refine ⟨members, hmembers, ?_, ?_⟩ <;> simp [hsome, hfunctions]

end Items

end SourceFile

open FileReader in
/-- **A written file is read back**: its interfaces, functions, methods and default export in order and nothing else,
and nothing is found wrong with the file. -/
theorem SourceFile.read_written {f : WrittenFile} (hf : f.Sound) {text : String}
    (h : (scan text.toList).map signature = f.tokens) :
    List.Forall₂ WrittenItem.Reads f.items (SourceFile.read text).items ∧ (SourceFile.read text).errors = [] := by
  have hts : Spelled text.toList (scan text.toList) f.tokens := ⟨h, fun t ht => slice_of_mem_scan ht⟩
  unfold SourceFile.read
  dsimp only
  generalize hscan : scan text.toList = ts at hts
  generalize hbudget : budgetFor ts = budget
  have hbound : 16 * ts.length ≤ budget := by
    rw [← hbudget, budgetFor]
    omega
  have hdeclares : Declares text.toList budget ts [] f.items := by
    obtain ⟨ts₁, ts₂, rfl, hheading, hts₂⟩ := hts.split
    obtain ⟨ts₃, ts₄, rfl, himports, hts₄⟩ := hts₂.split
    obtain ⟨ts₅, ts₆, rfl, hinterfaces, hstubs⟩ := hts₄.split
    obtain ⟨ts₇, ts₈, rfl, hfunctions, hclass⟩ := hstubs.split
    simp only [List.length_append] at hbound
    have h₁ : Declares text.toList budget ts₁ (ts₃ ++ (ts₅ ++ (ts₇ ++ ts₈)) ++ []) [] := by
      obtain ⟨t, _, rfl, hkind, htext, -, hnil⟩ := hheading.uncons
      obtain rfl := hnil.eq_nil
      exact declares_comment hkind (by rw [htext]; exact hf.heading)
    have h₃ : Declares text.toList budget ts₃ (ts₅ ++ (ts₇ ++ ts₈) ++ []) [] := by
      unfold WrittenFile.importTokens at himports
      have hnames := hf.imports
      split at himports
      · obtain rfl := himports.eq_nil
        exact declares_nil
      · rename_i first others heq
        rw [heq] at hnames
        exact declares_import hnames himports (by simp only [List.length_append, List.length_nil]; omega)
    have h₅ : Declares text.toList budget ts₅ (ts₇ ++ ts₈ ++ []) (f.interfaces.map .interface) := by
      rw [List.map_eq_flatMap]
      exact declares_flatMap (fun w hw _ _ hts hle => declares_interface w (hf.interfaces w hw) hts hle)
        hinterfaces (by simp only [List.length_append, List.length_nil]; omega)
    have h₇ : Declares text.toList budget ts₇ (ts₈ ++ []) (f.functions.map .function) := by
      rw [List.map_eq_flatMap]
      exact declares_flatMap (fun _ _ _ _ hts hle => declares_function hts hle) hfunctions
        (by simp only [List.length_append, List.length_nil]; omega)
    have h₈ : Declares text.toList budget ts₈ [] (if f.methods.isEmpty then []
        else [.methods Emission.handlerClass f.methods, .defaultExport Emission.handlerClass]) := by
      split at hclass
      · rename_i hempty
        obtain rfl := hclass.eq_nil
        rw [if_pos hempty]
        exact declares_nil
      · rename_i hsome
        obtain ⟨ts₉, ts₁₀, rfl, hmembers, hdefault⟩ := hclass.split
        simp only [List.length_append] at hbound
        have h₁₀ : Declares text.toList budget ts₁₀ [] [.defaultExport Emission.handlerClass] :=
          declares_default hdefault (by simp only [List.length_nil]; omega)
        obtain ⟨u, ts', rfl, hkind, -, -, -⟩ := hdefault.uncons
        have h₉ : Declares text.toList budget ts₉ (u :: ts' ++ []) [.methods Emission.handlerClass f.methods] := by
          rw [List.append_nil]
          exact declares_class hf.methods hmembers (isComment_of_kind hkind (by decide)) (by omega)
        rw [if_neg hsome]
        exact h₉.append h₁₀
    exact h₁.append (h₃.append (h₅.append (h₇.append h₈)))
  obtain ⟨items, count', last', -, heq, hreads⟩ := hdeclares (ts.length + 1) .origin (by omega)
  rw [List.append_nil] at heq
  have hrest : ∀ n, statements none budget n ⟨text.toList, [], last', []⟩ = ([], []) := by
    intro n
    cases n <;> rfl
  rw [heq, hrest, List.append_nil]
  exact ⟨hreads, rfl⟩

end ServiceGraph.Syntax
