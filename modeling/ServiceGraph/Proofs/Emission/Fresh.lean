import ServiceGraph.Proofs.Emission.Files

/-!
The choice of names for interfaces.

What is tried for a stem is the stem itself and then the stem with a number, without end. The search stops all the same,
at the first of them that is not taken (`Emission.isFirstFree_freshName`), since only so many names are taken. Each name
is taken once it is chosen, so the interfaces of a graph have names of their own, and none that the file imports or
declares otherwise (`Emission.namesOf_distinct`), however much alike the names of the descriptors are.
-/

namespace ServiceGraph.Emission

variable {taken : List String} {stem name : String}

/-! ## 1. The search for one name -/

/-- What is tried as a name, one after the other: the stem, and then the stem with each number from 2 on. -/
def candidate (stem : String) : Nat → String
  | 0 => stem
  | n + 1 => stem ++ toString (n + 2)

/-- A name that is not taken, where everything that is tried before it is. -/
structure IsFirstFree (taken : List String) (stem name : String) : Prop where
  free : name ∉ taken
  first : ∃ n ≤ taken.length + 1, name = candidate stem n ∧ ∀ i < n, candidate stem i ∈ taken

/-- Numbers are tried in order, and each one that is passed over is taken. -/
theorem exists_numbered (stem : String) (taken : List String) (tries number : Nat) :
    ∃ k ≤ tries, numbered stem taken tries number = stem ++ toString (number + k) ∧
      ∀ i < k, stem ++ toString (number + i) ∈ taken := by
  fun_induction numbered stem taken tries number with
  | case1 number => exact ⟨0, le_rfl, rfl, fun i hi => absurd hi (Nat.not_lt_zero i)⟩
  | case2 tries number name htaken ih =>
    obtain ⟨k, hk, heq, hpassed⟩ := ih
    refine ⟨k + 1, Nat.succ_le_succ hk, ?_, fun i hi => ?_⟩
    · rw [heq, Nat.add_right_comm, Nat.add_assoc]
    · cases i with
      | zero => exact List.contains_iff_mem.mp htaken
      | succ i =>
        have hnext := hpassed i (Nat.lt_of_succ_lt_succ hi)
        rwa [Nat.add_right_comm, Nat.add_assoc] at hnext
  | case3 tries number name hfree =>
    exact ⟨0, Nat.zero_le _, rfl, fun i hi => absurd hi (Nat.not_lt_zero i)⟩

/-- **The search ends, at the first name that is free.** -/
theorem isFirstFree_freshName (taken : List String) (stem : String) :
    IsFirstFree taken stem (freshName stem taken) where
  free := freshName_not_mem stem taken
  first := by
    unfold freshName
    split
    · rename_i htaken
      -- The stem itself is passed over first, so each number is one further on.
      obtain ⟨k, hk, heq, hpassed⟩ := exists_numbered stem taken taken.length 2
      refine ⟨k + 1, Nat.succ_le_succ hk, ?_, fun i hi => ?_⟩
      · rw [heq, Nat.add_comm 2 k, candidate]
      · cases i with
        | zero => exact List.contains_iff_mem.mp htaken
        | succ i =>
          rw [candidate, Nat.add_comm i 2]
          exact hpassed i (Nat.lt_of_succ_lt_succ hi)
    · exact ⟨0, Nat.zero_le _, rfl, fun i hi => absurd hi (Nat.not_lt_zero i)⟩

/-! ## 2. One name after the other -/

/-- Names chosen in order for stems: each is the first free one, and is taken from then on. -/
inductive Chosen : List String → List String → List String → Prop
  | nil {taken : List String} : Chosen taken [] []
  | cons {taken stems names : List String} {stem name : String} :
      IsFirstFree taken stem name → Chosen (name :: taken) stems names →
        Chosen taken (stem :: stems) (name :: names)

theorem chosen_interfaceNames (taken stems : List String) : Chosen taken stems (interfaceNames taken stems) := by
  fun_induction interfaceNames taken stems with
  | case1 => exact .nil
  | case2 taken stem rest name ih => exact .cons (isFirstFree_freshName taken stem) ih

/-! ## 3. First letters -/

/-- A text whose first character is a letter of ASCII. -/
def StartsWithLetter (s : String) : Prop := ∃ first ∈ s.toList.head?, first.isAlpha = true

theorem StartsWithLetter.append {s : String} (h : StartsWithLetter s) (t : String) : StartsWithLetter (s ++ t) := by
  obtain ⟨first, hfirst, halpha⟩ := h
  refine ⟨first, ?_, halpha⟩
  rw [String.toList_append, List.head?_append, Option.mem_def.mp hfirst]
  rfl

theorem startsWithLetter_baseName (name : String) : StartsWithLetter (baseName name) := by
  unfold baseName
  dsimp only
  split
  · rename_i h
    obtain ⟨first, hfirst, halpha⟩ := (Option.any_eq_true _ _).mp h
    exact ⟨first, hfirst, halpha⟩
  · exact StartsWithLetter.append ⟨'X', rfl, rfl⟩ _

theorem startsWithLetter_of_mem_interfaces {g : Graph} : ∀ i ∈ interfaces g, StartsWithLetter i.stem := by
  have hall : ∀ {α : Type} (f : α → Interface), (∀ a, StartsWithLetter (f a).stem) →
      ∀ as : List α, ∀ i ∈ as.map f, StartsWithLetter i.stem := by
    intro α f hf as i hi
    obtain ⟨a, -, rfl⟩ := List.mem_map.mp hi
    exact hf a
  have hoperation := hall operation fun o => (startsWithLetter_baseName o.name).append _
  have hprompt := hall prompt fun p => (startsWithLetter_baseName p.name).append _
  have hresource := hall resource fun r => (startsWithLetter_baseName r.name).append _
  have hgroup := hall group fun x => (startsWithLetter_baseName x.name).append _
  intro i hi
  simp only [interfaces, List.mem_append] at hi
  rcases hi with (((hi | hi) | hi) | hi) | hi
  · obtain ⟨s, -, rfl⟩ := Option.map_eq_some_iff.mp (Option.mem_toList.mp hi)
    exact (startsWithLetter_baseName s.name).append _
  · exact hoperation _ i hi
  · exact hprompt _ i hi
  · exact hresource _ i hi
  · exact hgroup _ i hi

/-- A number behind a stem leaves the stem's first letter where it is. -/
theorem IsFirstFree.startsWithLetter (h : IsFirstFree taken stem name) (hstem : StartsWithLetter stem) :
    StartsWithLetter name := by
  obtain ⟨n, -, rfl, -⟩ := h.first
  cases n with
  | zero => exact hstem
  | succ n => exact hstem.append _

theorem Chosen.startsWithLetter {stems names : List String} (h : Chosen taken stems names)
    (hstems : ∀ stem ∈ stems, StartsWithLetter stem) : ∀ name ∈ names, StartsWithLetter name := by
  induction h with
  | nil => simp
  | cons hfirst hrest ih =>
    rw [List.forall_mem_cons] at hstems ⊢
    exact ⟨hfirst.startsWithLetter hstems.1, ih hstems.2⟩

/-! ## 4. The interfaces of a graph -/

/-- **The names of emitted interfaces never collide.** For every descriptor the search for a free name ends, and the
names under which the interfaces of a graph are written are different from each other, from all markers, from the type
of whole numbers and from the class of the handlers; each starts with a letter of ASCII. -/
theorem namesOf_distinct (g : Graph) :
    Chosen reservedNames ((interfaces g).map (·.stem)) (namesOf g) ∧
      (∀ markerModule, ∃ heading, file g markerModule =
        heading ++ String.join (List.zipWith interfaceText (namesOf g) (interfaces g)) ++ stubs g) ∧
      (namesOf g).Nodup ∧
      ∀ name ∈ namesOf g, (∀ kind : ShapeKind, name ∉ kind.markers) ∧ name ≠ "Integer" ∧ name ≠ handlerClass ∧
        StartsWithLetter name := by
  have hchosen : Chosen reservedNames ((interfaces g).map (·.stem)) (namesOf g) := chosen_interfaceNames _ _
  have hstems : ∀ stem ∈ (interfaces g).map (·.stem), StartsWithLetter stem :=
    List.forall_mem_map.mpr startsWithLetter_of_mem_interfaces
  refine ⟨hchosen, fun _ => ⟨_, rfl⟩, nodup_interfaceNames _ _, fun name hname => ?_⟩
  have hfree : name ∉ reservedNames := not_taken_of_mem_interfaceNames _ _ name hname
  have hmarkers : ∀ kind : ShapeKind, kind.markers ⊆ reservedNames := by
    intro kind
    cases kind <;> decide
  refine ⟨fun kind hmem => hfree (hmarkers kind hmem), ?_, ?_, hchosen.startsWithLetter hstems name hname⟩
  · rintro rfl
    exact hfree (by decide)
  · rintro rfl
    exact hfree (by decide)

/-- A tool whose name begins with no letter, and two groups whose names differ in case only and, with the suffix, give
the name of a marker. -/
def Sample.alike : Graph where
  service? := none
  operations := [⟨"-1", none, .object [], none, default, none⟩]
  prompts := []
  resources := []
  groups := [⟨"tool", none, ["-1"]⟩, ⟨"TOOL", none, []⟩]

theorem Sample.alike_named :
    namesOf alike = ["X1Tool", "ToolGroup2", "ToolGroup3"] ∧ (namesOf alike).Nodup ∧
      "ToolGroup2" ∉ ShapeKind.group.markers ∧ StartsWithLetter "X1Tool" := by
  have hnames : namesOf alike = ["X1Tool", "ToolGroup2", "ToolGroup3"] := by decide
  obtain ⟨-, -, hnodup, hall⟩ := namesOf_distinct alike
  rw [hnames] at hnodup hall
  exact ⟨hnames, hnames ▸ hnodup, (hall "ToolGroup2" (by simp)).1 .group, (hall "X1Tool" (by simp)).2.2.2⟩

end ServiceGraph.Emission
