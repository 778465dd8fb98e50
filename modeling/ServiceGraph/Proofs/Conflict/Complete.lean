import ServiceGraph.Proofs.Annotation.Values
import ServiceGraph.Proofs.Conflict
import ServiceGraph.Proofs.Repeats

/-!
Every conflict is reported once, and nothing else is.

`Complete` lists what is to be reported about a graph, its findings and its outcomes; what is reported is
sorted by its codes, and for each code it is said which diagnostics there are, in order. A loop that remembers what it
has seen reports the repetitions of a list, or its first entries, whatever the list repeats
(`duplicatesAfter_eq`, `filter_membersAfter`). `all_complete` puts the checks together.
-/

namespace ServiceGraph.Conflict

/-! ## 1. What there is to report -/

/-- The five lists of names, each with what its names are called. -/
def nameLists (g : LocatedGraph) : List (String × List (String × Span)) :=
  [("operation name", named Operation.name "name" g.operations),
   ("prompt name", named Prompt.name "name" g.prompts),
   ("resource name", named Resource.name "name" g.resources),
   ("resource uri", named Resource.uri "uri" g.resources),
   ("capability group name", named Group.name "name" g.groups)]

/-- The report of an entry that repeats a name, with the line of the first entry of the name. -/
def repeatedName (what : String) (all : List (String × Span)) (e : String × Span) : Diagnostic :=
  let name := e.1
  let line := ((all.lookup name).map (·.line)).getD 0
  ⟨.duplicateName, e.2, s!"duplicate {what} `{name}` (first declared on line {line})"⟩

/-- How the report of a repeated name begins. -/
def lead (what : String) : List Char := ("duplicate " ++ what ++ " `").toList

/-- Whether a name is reported as repeated in one of the lists. -/
def isRepeated (what : String) (d : Diagnostic) : Bool :=
  d.code == .duplicateName && (lead what).isPrefixOf d.message.toList

def isContradictory (o : Located Operation) : Bool :=
  o.value.flags.readOnly && o.value.flags.destructive

def contradictoryFlags (o : Located Operation) : Diagnostic :=
  ⟨.conflictingFlags, o.site.field "readOnly",
    s!"operation `{o.value.name}` cannot be both readOnly and destructive"⟩

/-- Whether an entry names none of the known operations. -/
def isStranger (known : List String) (e : String × Span) : Bool := !known.contains e.1

/-- The first entries of a group's names that are no operations. -/
def strangers (known : List String) (g : Located Group) : List (String × Span) :=
  (firsts Prod.fst (entries g)).filter (isStranger known)

def stranger (group : String) (e : String × Span) : Diagnostic :=
  let name := e.1
  ⟨.unknownGroupMember, e.2, s!"group `{group}` references unknown operation `{name}`"⟩

def repeatedMember (group : String) (e : String × Span) : Diagnostic :=
  let name := e.1
  ⟨.duplicateGroupMember, e.2, s!"`{name}` is listed more than once in group `{group}`"⟩

/-- A prompt with its template, if it has one that is not empty. -/
def withTemplate? (p : Located Prompt) : Option (Located Prompt × String) :=
  match p.value.content with
  | .template text => if text.isEmpty then none else some (p, text)
  | .dynamic => none

def templates (g : LocatedGraph) : List (Located Prompt × String) := g.prompts.filterMap withTemplate?

/-- The placeholders that are no arguments. -/
def undeclared (p : Located Prompt) (text : String) : List String :=
  (Template.placeholders text).filter fun u => !p.value.arguments.any (·.name == u)

/-- The required arguments that are no placeholders. -/
def unused (p : Located Prompt) (text : String) : List SchemaField :=
  p.value.arguments.filter fun a => a.isRequired && !(Template.placeholders text).contains a.name

def undeclaredPlaceholder (p : Located Prompt) (u : String) : Diagnostic :=
  let name := p.value.name
  ⟨.undeclaredPlaceholder, p.site.field "template",
    s!"template of prompt `{name}` uses `\x7b\x7b{u}\x7d\x7d` but declares no argument `{u}`"⟩

def unusedArgument (p : Located Prompt) (a : SchemaField) : Diagnostic :=
  let name := p.value.name
  ⟨.unusedArgument, p.site.field "args",
    s!"required argument `{a.name}` of prompt `{name}` is never used by its template"⟩

/-- The codes of what is wrong with a graph itself. -/
def graphCodes : List Code :=
  [.duplicateName, .conflictingFlags, .unknownGroupMember, .duplicateGroupMember, .undeclaredPlaceholder,
   .unusedArgument]

/-- **Every conflict is reported once, and nothing else.** -/
structure Complete (g : LocatedGraph) (findings : List Finding) (outcomes : List Outcome)
    (ds : List Diagnostic) : Prop where
  /-- Of each list of names every entry that repeats a name. -/
  names : ds.filter (·.code == .duplicateName) =
    (nameLists g).flatMap fun l => (repeats Prod.fst l.2).map (repeatedName l.1 l.2)
  /-- For each list there are as many reports as entries less different names. -/
  nameCounts : ∀ l ∈ nameLists g,
    ds.countP (isRepeated l.1) = l.2.length - (l.2.map Prod.fst).toFinset.card
  /-- Every operation that is both read-only and destructive. -/
  flags : ds.filter (·.code == .conflictingFlags) = (g.operations.filter isContradictory).map contradictoryFlags
  /-- In each group the first entry of every name that is no operation. -/
  strangers : ds.filter (·.code == .unknownGroupMember) = g.groups.flatMap fun group =>
    (strangers (g.operations.map (·.value.name)) group).map (stranger group.value.name)
  /-- These are the different names that the group lists and that are no operations, each once. -/
  strangerNames : ∀ group ∈ g.groups,
    let names := (Conflict.strangers (g.operations.map (·.value.name)) group).map Prod.fst
    names.Nodup ∧ ∀ name, name ∈ names ↔
      name ∈ group.value.operations ∧ ∀ o ∈ g.operations, o.value.name ≠ name
  /-- In each group every entry that repeats an earlier one. -/
  members : ds.filter (·.code == .duplicateGroupMember) = g.groups.flatMap fun group =>
    (repeats Prod.fst (entries group)).map (repeatedMember group.value.name)
  /-- In each template every placeholder that is no argument. -/
  placeholders : ds.filter (·.code == .undeclaredPlaceholder) = (templates g).flatMap fun t =>
    (undeclared t.1 t.2).map (undeclaredPlaceholder t.1)
  /-- These are different, and so are the arguments that are not used, if all arguments of the prompt are. -/
  placeholderNames : ∀ t ∈ templates g, (undeclared t.1 t.2).Nodup ∧
    ((t.1.value.arguments.map (·.name)).Nodup → ((unused t.1 t.2).map (·.name)).Nodup)
  /-- For each template every required argument that is no placeholder. -/
  arguments : ds.filter (·.code == .unusedArgument) = (templates g).flatMap fun t =>
    (unused t.1 t.2).map (unusedArgument t.1)
  /-- Everything else is about a finding, or an outcome that is not bound or ignores its parameters. -/
  others : ds.filter (fun d => !graphCodes.contains d.code) =
    findings.map ofFinding ++ outcomes.filterMap ofOutcome?
  outcomes : ∀ o ∈ outcomes, ofOutcome? o = none ↔ ∃ handler, o.resolution = .bound handler none

/-! ## 2. The loops -/

section

variable {what group : String} {known : List String}

/-- The loop over names reports the entries that repeat one. -/
theorem duplicatesAfter_eq : ∀ (entries front : List (String × Span)) (seen : List (String × Nat)),
    (∀ name, seen.lookup name = (front.lookup name).map (·.line)) →
      duplicatesAfter seen what entries =
        (repeatsAfter Prod.fst front entries).map (repeatedName what (front ++ entries))
  | [], _, _, _ => rfl
  | (name, span) :: rest, front, seen, hseen => by
      have hsplit : front ++ (name, span) :: rest = (front ++ [(name, span)]) ++ rest := by simp
      have hother : ∀ n, n ≠ name → (n == name) = false := fun _ hn => beq_false_of_ne hn
      cases hfirst : front.lookup name with
      | some first =>
        -- The name is in front: it is reported, and nothing new is remembered.
        have hlist : name ∈ front.map Prod.fst := by
          obtain ⟨before, behind, rfl, -⟩ := List.lookup_eq_some_iff.mp hfirst
          simp
        have hnext : ∀ n, seen.lookup n = ((front ++ [(name, span)]).lookup n).map (·.line) := by
          intro n
          rw [hseen, List.lookup_append]
          by_cases hn : n = name
          · rw [hn, hfirst]
            rfl
          · simp [List.lookup_cons, hother n hn]
        have hreport : repeatedName what (front ++ (name, span) :: rest) (name, span) =
            ⟨.duplicateName, span, s!"duplicate {what} `{name}` (first declared on line {first.line})"⟩ := by
          simp only [repeatedName, List.lookup_append, hfirst]
          rfl
        rw [repeatsAfter_cons_of_mem hlist, List.map_cons, hreport, hsplit,
          ← duplicatesAfter_eq rest _ seen hnext, duplicatesAfter, hseen, hfirst]
        rfl
      | none =>
        have hlist : name ∉ front.map Prod.fst := by
          intro hmem
          obtain ⟨e, he, rfl⟩ := List.mem_map.mp hmem
          simpa using List.lookup_eq_none_iff.mp hfirst e he
        have hnext : ∀ n, ((name, span.line) :: seen).lookup n =
            ((front ++ [(name, span)]).lookup n).map (·.line) := by
          intro n
          rw [List.lookup_cons, hseen, List.lookup_append, List.lookup_cons]
          by_cases hn : n = name
          · rw [hn, hfirst]
            simp
          · simp [hother n hn]
        rw [repeatsAfter_cons_of_not_mem hlist, hsplit, ← duplicatesAfter_eq rest _ _ hnext, duplicatesAfter,
          hseen, hfirst]
        rfl

/-- The loop over a group's entries reports those that repeat a name, and the first ones that are no operations. -/
theorem filter_membersAfter : ∀ (entries front : List (String × Span)) (seen : List String),
    (∀ name, name ∈ seen ↔ name ∈ front.map Prod.fst) →
      (membersAfter known seen group entries).filter (·.code == .duplicateGroupMember) =
          (repeatsAfter Prod.fst front entries).map (repeatedMember group) ∧
        (membersAfter known seen group entries).filter (·.code == .unknownGroupMember) =
          ((firstsAfter Prod.fst front entries).filter (isStranger known)).map (stranger group)
  | [], _, _, _ => ⟨rfl, rfl⟩
  | (name, span) :: rest, front, seen, hseen => by
      have hold : name ∈ seen → ∀ n, n ∈ seen ↔ n ∈ (front ++ [(name, span)]).map Prod.fst := by
        intro hmem n
        rw [List.map_append, List.mem_append, ← hseen]
        simp only [List.map_cons, List.map_nil, List.mem_singleton]
        exact ⟨.inl, fun h => h.elim id fun heq => heq ▸ hmem⟩
      have hnew : ∀ n, n ∈ name :: seen ↔ n ∈ (front ++ [(name, span)]).map Prod.fst := by
        intro n
        rw [List.map_append, List.mem_append, ← hseen, List.mem_cons]
        simp only [List.map_cons, List.map_nil, List.mem_singleton]
        exact Or.comm
      rw [membersAfter]
      by_cases hlisted : name ∈ seen
      · obtain ⟨hrepeated, hunknown⟩ := filter_membersAfter rest _ seen (hold hlisted)
        have hfront := (hseen name).mp hlisted
        rw [if_pos (List.contains_iff_mem.mpr hlisted), repeatsAfter_cons_of_mem hfront,
          firstsAfter_cons_of_mem hfront]
        constructor
        · rw [List.filter_cons_of_pos rfl, hrepeated]
          rfl
        · rw [List.filter_cons_of_neg (by simp), hunknown]
      · obtain ⟨hrepeated, hunknown⟩ := filter_membersAfter rest _ (name :: seen) hnew
        have hfront : name ∉ front.map Prod.fst := fun hmem => hlisted ((hseen name).mpr hmem)
        rw [if_neg fun hmem => hlisted (List.contains_iff_mem.mp hmem), repeatsAfter_cons_of_not_mem hfront,
          firstsAfter_cons_of_not_mem hfront]
        by_cases hknown : known.contains name = true
        · have hskip : ¬ isStranger known (name, span) = true := by simp only [isStranger, hknown]; decide
          rw [if_pos hknown, hrepeated, hunknown, List.filter_cons_of_neg hskip]
          exact ⟨rfl, rfl⟩
        · have hkeep : isStranger known (name, span) = true := by
            rw [Bool.not_eq_true] at hknown
            simp only [isStranger, hknown, Bool.not_false]
          rw [if_neg hknown]
          refine ⟨?_, ?_⟩
          · rw [List.filter_cons_of_neg (by simp), hrepeated]
          · rw [List.filter_cons_of_pos rfl, List.filter_cons_of_pos hkeep, hunknown]
            rfl

end

/-! ## 3. Names -/

theorem duplicates_eq (g : LocatedGraph) : duplicates g =
    (nameLists g).flatMap fun l => (repeats Prod.fst l.2).map (repeatedName l.1 l.2) := by
  have hloop : ∀ (what : String) (entries : List (String × Span)),
      duplicatesAfter [] what entries = (repeats Prod.fst entries).map (repeatedName what entries) :=
    fun what entries => duplicatesAfter_eq entries [] [] fun _ => rfl
  simp only [duplicates, nameLists, List.flatMap_cons, List.flatMap_nil, hloop, List.append_assoc, List.append_nil]

/-- What the names of the five lists are called. -/
def kinds : List String :=
  ["operation name", "prompt name", "resource name", "resource uri", "capability group name"]

theorem lead_not_isPrefix : ∀ a ∈ kinds, ∀ b ∈ kinds, a ≠ b → ¬ lead a <+: lead b := by decide

/-- The report of a repeated name tells the list that it stands in. -/
theorem isRepeated_repeatedName {what other : String} (hwhat : what ∈ kinds) (hother : other ∈ kinds)
    (all : List (String × Span)) (e : String × Span) :
    isRepeated what (repeatedName other all e) = decide (what = other) := by
  obtain ⟨rest, hrest⟩ : ∃ rest, (repeatedName other all e).message.toList = lead other ++ rest := by
    let line := ((all.lookup e.1).map (·.line)).getD 0
    refine ⟨(s!"{e.1}` (first declared on line {line})").toList, ?_⟩
    rw [lead, ← String.toList_append]
    show ("duplicate " ++ other ++ " `" ++ e.1 ++ "` (first declared on line " ++ toString line ++ ")").toList =
      ("duplicate " ++ other ++ " `" ++ (e.1 ++ "` (first declared on line " ++ toString line ++ ")")).toList
    simp only [String.append_assoc]
  have hcode : (repeatedName other all e).code = .duplicateName := rfl
  rw [isRepeated, hcode, beq_self_eq_true, Bool.true_and, hrest, Bool.eq_iff_iff, List.isPrefixOf_iff_prefix,
    decide_eq_true_iff]
  constructor
  · intro h
    by_contra hne
    rcases List.prefix_or_prefix_of_prefix h (List.prefix_append (lead other) rest) with hle | hle
    · exact lead_not_isPrefix what hwhat other hother hne hle
    · exact lead_not_isPrefix other hother what hwhat (Ne.symm hne) hle
  · rintro rfl
    exact List.prefix_append _ _

/-- The reports of a list are all the reports of its kind. -/
theorem countP_isRepeated {what other : String} (hwhat : what ∈ kinds) (hother : other ∈ kinds)
    (entries : List (String × Span)) :
    ((repeats Prod.fst entries).map (repeatedName other entries)).countP (isRepeated what) =
      if what = other then entries.length - (entries.map Prod.fst).toFinset.card else 0 := by
  rw [List.countP_map]
  split
  · rename_i heq
    rw [← length_repeats, List.countP_eq_length]
    intro e _
    rw [Function.comp_apply, isRepeated_repeatedName hwhat hother, decide_eq_true heq]
  · rename_i hne
    rw [List.countP_eq_zero]
    intro e _
    simp [isRepeated_repeatedName hwhat hother, hne]

/-- For each list there are as many reports as entries less different names. -/
theorem countP_duplicates (g : LocatedGraph) : ∀ l ∈ nameLists g,
    (duplicates g).countP (isRepeated l.1) = l.2.length - (l.2.map Prod.fst).toFinset.card := by
  intro l hl
  have hmem : ∀ kind ∈ kinds, ∀ other ∈ kinds, ∀ entries : List (String × Span),
      ((repeats Prod.fst entries).map (repeatedName other entries)).countP (isRepeated kind) =
        if kind = other then entries.length - (entries.map Prod.fst).toFinset.card else 0 :=
    fun kind hkind other hother entries => countP_isRepeated hkind hother entries
  simp only [kinds, List.forall_mem_cons, List.not_mem_nil, false_implies, implies_true, and_true] at hmem
  simp only [nameLists, List.mem_cons, List.not_mem_nil, or_false] at hl
  rw [duplicates_eq]
  simp only [nameLists, List.flatMap_cons, List.flatMap_nil, List.countP_append, List.countP_nil]
  rcases hl with rfl | rfl | rfl | rfl | rfl <;> simp [hmem]

/-! ## 4. Codes -/

/-- A list of diagnostics with codes among the given ones. -/
def OnlyCodes (codes : List Code) (ds : List Diagnostic) : Prop := ∀ d ∈ ds, d.code ∈ codes

section

variable {ds : List Diagnostic} {codes : List Code} {code : Code} {g : LocatedGraph}

theorem OnlyCodes.filter_eq_nil (h : OnlyCodes codes ds) (hcode : code ∉ codes) :
    ds.filter (·.code == code) = [] := by
  rw [List.filter_eq_nil_iff]
  intro d hd heq
  exact hcode (beq_iff_eq.mp heq ▸ h d hd)

theorem OnlyCodes.filter_others (h : OnlyCodes codes ds) (hsub : codes ⊆ graphCodes) :
    ds.filter (fun d => !graphCodes.contains d.code) = [] := by
  rw [List.filter_eq_nil_iff]
  intro d hd
  simp [hsub (h d hd)]

/-- Reports of one sort have one code. -/
theorem filter_reports {α : Type} (report : α → Diagnostic) {own : Code} (h : ∀ x, (report x).code = own)
    (xs : List α) (code : Code) :
    (xs.map report).filter (·.code == code) = if own = code then xs.map report else [] := by
  split
  · rename_i heq
    rw [List.filter_eq_self]
    intro d hd
    obtain ⟨x, -, rfl⟩ := List.mem_map.mp hd
    exact beq_iff_eq.mpr ((h x).trans heq)
  · rename_i hne
    rw [List.filter_eq_nil_iff]
    intro d hd heq
    obtain ⟨x, -, rfl⟩ := List.mem_map.mp hd
    exact hne ((h x).symm.trans (beq_iff_eq.mp heq))

theorem onlyCodes_duplicates : OnlyCodes [.duplicateName] (duplicates g) := by
  intro d hd
  rw [duplicates_eq] at hd
  obtain ⟨l, -, hd⟩ := List.mem_flatMap.mp hd
  obtain ⟨e, -, rfl⟩ := List.mem_map.mp hd
  exact List.mem_singleton.mpr rfl

theorem flatMap_flags (os : List (Located Operation)) :
    os.flatMap flags = (os.filter isContradictory).map contradictoryFlags := by
  induction os with
  | nil => rfl
  | cons o os ih =>
    rw [List.flatMap_cons, ih, flags, List.filter_cons]
    unfold isContradictory
    split <;> rfl

theorem onlyCodes_flags : OnlyCodes [.conflictingFlags] (g.operations.flatMap flags) := by
  intro d hd
  rw [flatMap_flags] at hd
  obtain ⟨o, -, rfl⟩ := List.mem_map.mp hd
  exact List.mem_singleton.mpr rfl

theorem onlyCodes_membersAfter {known : List String} {group : String} :
    ∀ (entries : List (String × Span)) (seen : List String),
      OnlyCodes [.unknownGroupMember, .duplicateGroupMember] (membersAfter known seen group entries)
  | [], _, _, hd => absurd hd List.not_mem_nil
  | (name, span) :: rest, seen, d, hd => by
      rw [membersAfter] at hd
      split at hd
      · rcases List.mem_cons.mp hd with rfl | hd
        · simp
        · exact onlyCodes_membersAfter rest seen d hd
      · split at hd
        · exact onlyCodes_membersAfter rest _ d hd
        · rcases List.mem_cons.mp hd with rfl | hd
          · simp
          · exact onlyCodes_membersAfter rest _ d hd

theorem onlyCodes_members (known : List String) :
    OnlyCodes [.unknownGroupMember, .duplicateGroupMember] (g.groups.flatMap (members known)) := by
  intro d hd
  obtain ⟨group, -, hd⟩ := List.mem_flatMap.mp hd
  exact onlyCodes_membersAfter _ _ d hd

/-- What is reported about templates, in the order of the prompts. -/
theorem flatMap_template (ps : List (Located Prompt)) : ps.flatMap template =
    (ps.filterMap withTemplate?).flatMap fun t =>
      (undeclared t.1 t.2).map (undeclaredPlaceholder t.1) ++ (unused t.1 t.2).map (unusedArgument t.1) := by
  have htemplate : ∀ p : Located Prompt, template p = ((withTemplate? p).map fun t =>
      (undeclared t.1 t.2).map (undeclaredPlaceholder t.1) ++
        (unused t.1 t.2).map (unusedArgument t.1)).getD [] := by
    intro p
    unfold template withTemplate?
    cases p.value.content with
    | dynamic => rfl
    | template text =>
      dsimp only
      split <;> rfl
  induction ps with
  | nil => rfl
  | cons p ps ih =>
    rw [List.flatMap_cons, ih, htemplate, List.filterMap_cons]
    cases withTemplate? p <;> rfl

theorem onlyCodes_templates :
    OnlyCodes [.undeclaredPlaceholder, .unusedArgument] (g.prompts.flatMap template) := by
  intro d hd
  rw [flatMap_template] at hd
  obtain ⟨t, -, hd⟩ := List.mem_flatMap.mp hd
  rcases List.mem_append.mp hd with hd | hd
  · obtain ⟨u, -, rfl⟩ := List.mem_map.mp hd
    simp [undeclaredPlaceholder]
  · obtain ⟨a, -, rfl⟩ := List.mem_map.mp hd
    simp [unusedArgument]

theorem code_ofFinding (f : Finding) : (ofFinding f).code ∉ graphCodes := by
  obtain ⟨kind, span, subject⟩ := f
  cases kind <;> simp [ofFinding, graphCodes]

theorem code_ofOutcome? {o : Outcome} {d : Diagnostic} (h : ofOutcome? o = some d) : d.code ∉ graphCodes := by
  obtain ⟨kind, name, span, resolution⟩ := o
  cases resolution with
  | bound handler ignoring =>
    cases ignoring <;> cases h
    simp [graphCodes]
  | missing tried | ambiguous candidates | notCallable c what | tooManyParameters c required =>
    cases h
    simp [graphCodes]

theorem ofOutcome?_eq_none_iff {o : Outcome} :
    ofOutcome? o = none ↔ ∃ handler, o.resolution = .bound handler none := by
  obtain ⟨kind, name, span, resolution⟩ := o
  cases resolution with
  | bound handler ignoring => cases ignoring <;> simp [ofOutcome?]
  | missing tried | ambiguous candidates | notCallable c what | tooManyParameters c required => simp [ofOutcome?]

/-- What is reported beside the checks of the graph has other codes. -/
theorem code_of_beside {findings : List Finding} {outcomes : List Outcome} {d : Diagnostic}
    (h : d ∈ findings.map ofFinding ++ outcomes.filterMap ofOutcome?) : d.code ∉ graphCodes := by
  rcases List.mem_append.mp h with h | h
  · obtain ⟨f, -, rfl⟩ := List.mem_map.mp h
    exact code_ofFinding f
  · obtain ⟨o, -, ho⟩ := List.mem_filterMap.mp h
    exact code_ofOutcome? ho

end

/-! ## 5. All of it -/

section

variable {g : LocatedGraph}

/-- Two sorts of reports about groups. -/
theorem filter_groups (known : List String) :
    ((g.groups.flatMap (members known)).filter (·.code == .duplicateGroupMember) =
        g.groups.flatMap fun group => (repeats Prod.fst (entries group)).map (repeatedMember group.value.name)) ∧
      (g.groups.flatMap (members known)).filter (·.code == .unknownGroupMember) =
        g.groups.flatMap fun group => (strangers known group).map (stranger group.value.name) := by
  have hloop : ∀ group : Located Group, _ := fun group =>
    @filter_membersAfter group.value.name known (entries group) [] [] (by simp)
  rw [List.filter_flatMap, List.filter_flatMap]
  exact ⟨List.flatMap_congr fun group _ => (hloop group).1, List.flatMap_congr fun group _ => (hloop group).2⟩

/-- Two sorts of reports about templates. -/
theorem filter_templates :
    ((g.prompts.flatMap template).filter (·.code == .undeclaredPlaceholder) = (templates g).flatMap fun t =>
        (undeclared t.1 t.2).map (undeclaredPlaceholder t.1)) ∧
      (g.prompts.flatMap template).filter (·.code == .unusedArgument) = (templates g).flatMap fun t =>
        (unused t.1 t.2).map (unusedArgument t.1) := by
  rw [flatMap_template, List.filter_flatMap, List.filter_flatMap]
  refine ⟨List.flatMap_congr fun t _ => ?_, List.flatMap_congr fun t _ => ?_⟩
  · rw [List.filter_append, filter_reports (undeclaredPlaceholder t.1) (fun _ => rfl),
      filter_reports (unusedArgument t.1) (fun _ => rfl), if_pos rfl, if_neg (by decide), List.append_nil]
  · rw [List.filter_append, filter_reports (undeclaredPlaceholder t.1) (fun _ => rfl),
      filter_reports (unusedArgument t.1) (fun _ => rfl), if_neg (by decide), if_pos rfl, List.nil_append]

theorem isStranger_iff {known : List String} {e : String × Span} : isStranger known e = true ↔ e.1 ∉ known := by
  simp [isStranger]

/-- The entries of a group that are no operations have different names, and all of them. -/
theorem names_strangers (group : Located Group) :
    ((strangers (g.operations.map (·.value.name)) group).map Prod.fst).Nodup ∧
      ∀ name, name ∈ (strangers (g.operations.map (·.value.name)) group).map Prod.fst ↔
        name ∈ group.value.operations ∧ ∀ o ∈ g.operations, o.value.name ≠ name := by
  refine ⟨(List.filter_sublist.map Prod.fst).nodup (nodup_firsts _), fun name => ?_⟩
  have hfirst : name ∈ (firsts Prod.fst (entries group)).map Prod.fst ↔ name ∈ (entries group).map Prod.fst :=
    mem_firsts (entries group)
  rw [map_fst_entries] at hfirst
  rw [← hfirst]
  simp only [strangers, List.mem_map, List.mem_filter, isStranger_iff]
  constructor
  · rintro ⟨e, ⟨he, hknown⟩, rfl⟩
    exact ⟨⟨e, he, rfl⟩, fun o ho heq => hknown ⟨o, ho, heq⟩⟩
  · rintro ⟨⟨e, he, rfl⟩, hknown⟩
    exact ⟨e, ⟨he, fun ⟨o, ho, heq⟩ => hknown o ho heq⟩, rfl⟩

/-- The diagnostics with a code of the graph's own checks are what these checks report. -/
theorem filter_all {findings : List Finding} {outcomes : List Outcome} {code : Code} (h : code ∈ graphCodes) :
    (all g findings outcomes).filter (·.code == code) =
      (duplicates g).filter (·.code == code) ++ (g.operations.flatMap flags).filter (·.code == code) ++
        (g.groups.flatMap (members (g.operations.map (·.value.name)))).filter (·.code == code) ++
        (g.prompts.flatMap template).filter (·.code == code) := by
  have hbeside : (findings.map ofFinding ++ outcomes.filterMap ofOutcome?).filter (·.code == code) = [] := by
    rw [List.filter_eq_nil_iff]
    intro d hd heq
    exact code_of_beside hd (beq_iff_eq.mp heq ▸ h)
  rw [all, List.append_assoc, List.filter_append, hbeside, List.append_nil, List.filter_append,
    List.filter_append, List.filter_append]

theorem filter_duplicateName (findings : List Finding) (outcomes : List Outcome) :
    (all g findings outcomes).filter (·.code == .duplicateName) = duplicates g := by
  rw [filter_all (by decide), onlyCodes_flags.filter_eq_nil (by decide),
    (onlyCodes_members _).filter_eq_nil (by decide), onlyCodes_templates.filter_eq_nil (by decide),
    List.append_nil, List.append_nil, List.append_nil, List.filter_eq_self]
  intro d hd
  exact beq_iff_eq.mpr (List.mem_singleton.mp (onlyCodes_duplicates d hd))

end

/-- **What is reported about a graph is every conflict, once, and nothing else.** -/
theorem all_complete (g : LocatedGraph) (findings : List Finding) (outcomes : List Outcome) :
    Complete g findings outcomes (all g findings outcomes) where
  names := (filter_duplicateName findings outcomes).trans (duplicates_eq g)
  nameCounts l hl := by
    have hcode : (fun d => isRepeated l.1 d && d.code == .duplicateName) = isRepeated l.1 := by
      funext d
      unfold isRepeated
      cases d.code == .duplicateName <;> simp
    rw [← countP_duplicates g l hl, ← filter_duplicateName findings outcomes,
      List.countP_filter, hcode]
  flags := by
    rw [filter_all (by decide), onlyCodes_duplicates.filter_eq_nil (by decide),
      (onlyCodes_members _).filter_eq_nil (by decide), onlyCodes_templates.filter_eq_nil (by decide),
      List.nil_append, List.append_nil, List.append_nil, flatMap_flags,
      filter_reports contradictoryFlags (fun _ => rfl), if_pos rfl]
  strangers := by
    rw [filter_all (by decide), onlyCodes_duplicates.filter_eq_nil (by decide),
      onlyCodes_flags.filter_eq_nil (by decide), onlyCodes_templates.filter_eq_nil (by decide),
      List.nil_append, List.nil_append, List.append_nil, (filter_groups _).2]
  strangerNames group _ := names_strangers group
  members := by
    rw [filter_all (by decide), onlyCodes_duplicates.filter_eq_nil (by decide),
      onlyCodes_flags.filter_eq_nil (by decide), onlyCodes_templates.filter_eq_nil (by decide),
      List.nil_append, List.nil_append, List.append_nil, (filter_groups _).1]
  placeholders := by
    rw [filter_all (by decide), onlyCodes_duplicates.filter_eq_nil (by decide),
      onlyCodes_flags.filter_eq_nil (by decide), (onlyCodes_members _).filter_eq_nil (by decide),
      List.nil_append, List.nil_append, List.nil_append, filter_templates.1]
  placeholderNames t _ := by
    refine ⟨List.Nodup.filter _ ?_, fun hnodup => (List.filter_sublist.map _).nodup hnodup⟩
    exact (Naming.nodup_distinct _).map fun _ _ heq => String.ofList_injective heq
  arguments := by
    rw [filter_all (by decide), onlyCodes_duplicates.filter_eq_nil (by decide),
      onlyCodes_flags.filter_eq_nil (by decide), (onlyCodes_members _).filter_eq_nil (by decide),
      List.nil_append, List.nil_append, List.nil_append, filter_templates.2]
  others := by
    have hbeside : (findings.map ofFinding ++ outcomes.filterMap ofOutcome?).filter
        (fun d => !graphCodes.contains d.code) = findings.map ofFinding ++ outcomes.filterMap ofOutcome? := by
      rw [List.filter_eq_self]
      intro d hd
      simp [code_of_beside hd]
    rw [all, List.append_assoc, List.filter_append, hbeside, List.filter_append, List.filter_append,
      List.filter_append, onlyCodes_duplicates.filter_others (by decide),
      onlyCodes_flags.filter_others (by decide), (onlyCodes_members _).filter_others (by decide),
      onlyCodes_templates.filter_others (by decide)]
    rfl
  outcomes _ _ := ofOutcome?_eq_none_iff

end ServiceGraph.Conflict
