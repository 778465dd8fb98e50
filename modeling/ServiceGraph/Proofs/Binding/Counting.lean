import ServiceGraph.Proofs.Binding.Lookup
import ServiceGraph.Proofs.Graph.Consistent

/-!
Binding counts implementations, not spellings.

The places where a name may be implemented are listed without following anything (`Scope.places`): for every
spelling the first top-level binding of that name and then the first member of the default export. Two
places are the same implementation if aliases lead from both to one top-level name, however many there are on
the way, or if they are one member with a value of its own (`Place.Same`). If no chain of aliases is longer
than binding follows, what a name is resolved to depends on these two notions only
(`Scope.resolution_counted`).

Following a limited number of steps is related to the unlimited chain first (`Scope.follow_of_endsAt`). Then
each place is found as one implementation (`Scope.lookup_eq_places`), two of which have one identity exactly
if the places are the same (`Place.identity_eq_iff`).
-/

namespace ServiceGraph

open Syntax

/-! ## 1. Chains of aliases -/

/-- The name that a value stands for. -/
def Syntax.Value.alias? : Value → Option String
  | .alias name => some name
  | _ => none

namespace Scope

variable {bindings : List Binding} {name last : String} {n : Nat}

/-- The name to which a top-level name leads in one step. -/
def next? (bindings : List Binding) (name : String) : Option String :=
  (binding? bindings name).bind (·.value.alias?)

/-- The value of a top-level name. -/
def value? (bindings : List Binding) (name : String) : Option Value :=
  (binding? bindings name).map (·.value)

/-- Following aliases from a name ends after so many steps, at a name that is bound to something else or not
bound at all. -/
inductive EndsAt (bindings : List Binding) : Nat → String → String → Prop
  | here {name : String} : next? bindings name = none → EndsAt bindings 0 name name
  | step {n : Nat} {name next last : String} : next? bindings name = some next →
      EndsAt bindings n next last → EndsAt bindings (n + 1) name last

/-- A chain has one end, after one number of steps. -/
theorem EndsAt.unique : ∀ {n m : Nat} {name last other : String},
    EndsAt bindings n name last → EndsAt bindings m name other → n = m ∧ last = other
  | _, _, _, _, _, .here _, .here _ => ⟨rfl, rfl⟩
  | _, _, _, _, _, .here hnone, .step hnext _ => by simp [hnone] at hnext
  | _, _, _, _, _, .step hnext _, .here hnone => by simp [hnone] at hnext
  | _, _, _, _, _, .step hnext h, .step hnext' h' => by
      cases hnext.symm.trans hnext'
      obtain ⟨hcount, hlast⟩ := h.unique h'
      exact ⟨congrArg (· + 1) hcount, hlast⟩

/-- At the end of a chain stands no alias. -/
theorem EndsAt.next?_last (h : EndsAt bindings n name last) : next? bindings last = none := by
  induction h with
  | here hnone => exact hnone
  | step _ _ ih => exact ih

/-- A name in a chain that ends is not bound to itself. -/
theorem EndsAt.next_ne {next : String} (h : EndsAt bindings n name last)
    (hnext : next? bindings name = some next) : next ≠ name := by
  rintro rfl
  cases h with
  | here hnone => simp [hnone] at hnext
  | step hnext' h' =>
    cases hnext.symm.trans hnext'
    have hcount := (h'.unique (.step hnext h')).1
    omega

/-- A step goes on to the next name, unless a name is bound to itself. -/
theorem follow_succ (steps : Nat) (name : String) :
    follow bindings (steps + 1) name =
      match next? bindings name with
      | none => (name, value? bindings name)
      | some next =>
        if next = name then (name, value? bindings name) else follow bindings steps next := by
  rw [follow, next?, value?]
  cases hb : binding? bindings name with
  | none => rfl
  | some b =>
    obtain ⟨bound, value, isExported, span⟩ := b
    cases value <;> rfl

/-- Enough steps lead to the end of a chain, and to the value there. -/
theorem follow_of_endsAt {steps : Nat} (h : EndsAt bindings n name last) (hn : n < steps) :
    follow bindings steps name = (last, value? bindings last) := by
  induction h generalizing steps with
  | here hnone =>
    obtain ⟨steps, rfl⟩ : ∃ k, steps = k + 1 := ⟨steps - 1, by omega⟩
    rw [follow_succ, hnone]
  | step hnext h ih =>
    obtain ⟨steps, rfl⟩ : ∃ k, steps = k + 1 := ⟨steps - 1, by omega⟩
    have hne := (EndsAt.step hnext h).next_ne hnext
    rw [follow_succ, hnext]
    dsimp only
    rw [if_neg hne]
    exact ih (by omega)

end Scope

/-- Every chain of aliases that starts at a top-level binding ends before binding stops to follow it. -/
def Syntax.SourceFile.AliasesEnd (f : SourceFile) : Prop :=
  ∀ b ∈ f.bindings, ∃ n < Scope.longestChain, ∃ last, Scope.EndsAt f.bindings n b.name last

namespace Scope

variable {f : SourceFile}

/-- So every name leads to an end: one that is not bound is its own end. -/
theorem exists_endsAt (h : f.AliasesEnd) (name : String) :
    ∃ n < longestChain, ∃ last, EndsAt f.bindings n name last := by
  cases hb : binding? f.bindings name with
  | none => exact ⟨0, by decide, name, .here (by simp [next?, hb])⟩
  | some b =>
    obtain rfl : b.name = name := by simpa using List.find?_some hb
    exact h b (List.mem_of_find?_eq_some hb)

theorem resolve_of_endsAt {name last : String} {n : Nat} (h : EndsAt f.bindings n name last)
    (hn : n < longestChain) :
    resolve f.bindings name = (.topLevel last, value? f.bindings last) := by
  rw [resolve, follow_of_endsAt h hn]

/-! ## 2. Members of the default export -/

/-- The members that the default export offers. It is an object or a class, or a name that leads to one. -/
inductive Offers (f : SourceFile) : List Member → Prop
  | nothing : f.defaultExport? = none → Offers f []
  | value {d : DefaultExport} : f.defaultExport? = some d → d.value.alias? = none →
      Offers f (membersOf d.value)
  | named {d : DefaultExport} {n : Nat} {name last : String} : f.defaultExport? = some d →
      d.value.alias? = some name → EndsAt f.bindings n name last →
      Offers f (((value? f.bindings last).map membersOf).getD [])

theorem offers_ofFile (h : f.AliasesEnd) : Offers f (ofFile f).members := by
  simp only [ofFile, defaultMembers]
  cases hd : f.defaultExport? with
  | none => exact .nothing hd
  | some d =>
    dsimp only
    cases hv : d.value with
    | «alias» name =>
      obtain ⟨n, hn, last, hends⟩ := exists_endsAt h name
      dsimp only
      rw [resolve_of_endsAt hends hn]
      exact .named hd (by rw [hv]; rfl) hends
    | function _ | classBody _ | object _ | imported _ | literal | unknown =>
      have hown : Offers f (membersOf d.value) := .value hd (by rw [hv]; rfl)
      rw [hv] at hown
      exact hown

end Scope

/-! ## 3. Places -/

/-- Where a name is written that may implement a descriptor. -/
inductive Place
  | topLevel (b : Binding)
  | member (m : Member)

namespace Place

/-- How a place is listed. -/
def candidate : Place → Candidate
  | .topLevel b => ⟨b.name, b.span⟩
  | .member m => ⟨"default." ++ m.name, m.span⟩

/-- The name from which aliases are followed; a member with a value of its own has none. -/
def origin? : Place → Option String
  | .topLevel b => some b.name
  | .member m => m.value.alias?

/-- Aliases lead from a place to a top-level name. -/
def LeadsTo (bindings : List Binding) (p : Place) (last : String) : Prop :=
  ∃ origin n, p.origin? = some origin ∧ Scope.EndsAt bindings n origin last

/-- Two places are one implementation. -/
def Same (bindings : List Binding) (p q : Place) : Prop :=
  (∃ last, p.LeadsTo bindings last ∧ q.LeadsTo bindings last) ∨
    ∃ m : Member, m.value.alias? = none ∧ p = .member m ∧ q = .member m

/-- What is implemented at a place: the value of the name to which aliases lead, none if it is not bound in
the file, or the member's own value. -/
inductive Denotes (bindings : List Binding) : Place → Option Value → Prop
  | name {p : Place} {last : String} : p.LeadsTo bindings last →
      Denotes bindings p (Scope.value? bindings last)
  | own {m : Member} : m.value.alias? = none → Denotes bindings (.member m) (some m.value)

end Place

namespace Scope

/-- The places of one spelling: of several declarations the first one counts. -/
def placesOf (s : Scope) (spelling : String) : List Place :=
  ((s.bindings.find? (·.name == spelling)).map Place.topLevel).toList ++
    ((s.members.find? (·.name == spelling)).map Place.member).toList

/-- The places of a name, in the order of its spellings. -/
def places (s : Scope) (name : String) : List Place := (Naming.variants name).flatMap s.placesOf

/-- A place that is found under some spelling. -/
def Has (s : Scope) : Place → Prop
  | .topLevel b => s.bindings.find? (·.name == b.name) = some b
  | .member m => s.members.find? (·.name == m.name) = some m

variable {f : SourceFile} {s : Scope} {p q : Place}

theorem has_of_mem_places {name : String} (hp : p ∈ s.places name) : s.Has p := by
  obtain ⟨spelling, -, hp⟩ := List.mem_flatMap.mp hp
  rcases List.mem_append.mp hp with hp | hp
  · obtain ⟨b, hb, rfl⟩ := Option.map_eq_some_iff.mp (Option.mem_toList.mp hp)
    obtain rfl : b.name = spelling := by simpa using List.find?_some hb
    exact hb
  · obtain ⟨m, hm, rfl⟩ := Option.map_eq_some_iff.mp (Option.mem_toList.mp hp)
    obtain rfl : m.name = spelling := by simpa using List.find?_some hm
    exact hm

/-- What a place is found as. -/
def implementation (s : Scope) : Place → Implementation
  | .topLevel b =>
    let (identity, value?) := resolve s.bindings b.name
    ⟨Place.candidate (.topLevel b), identity, value?⟩
  | .member m =>
    let (identity, value?) := match m.value with
      | .alias target => resolve s.bindings target
      | value => (.member m.name, some value)
    ⟨Place.candidate (.member m), identity, value?⟩

@[simp] theorem candidate_implementation (s : Scope) (p : Place) :
    (s.implementation p).candidate = p.candidate := by
  cases p <;> rfl

/-- Looking a spelling up finds its places. -/
theorem lookup_eq_places (s : Scope) (spelling : String) :
    s.lookup spelling = (s.placesOf spelling).map s.implementation := by
  have htop : s.topLevel? spelling =
      ((s.bindings.find? (·.name == spelling)).map Place.topLevel).map s.implementation := by
    unfold topLevel? binding?
    cases hb : s.bindings.find? (·.name == spelling) with
    | none => rfl
    | some b =>
      obtain rfl : b.name = spelling := by simpa using List.find?_some hb
      rfl
  have hmember : s.member? spelling =
      ((s.members.find? (·.name == spelling)).map Place.member).map s.implementation := by
    unfold member?
    cases s.members.find? (·.name == spelling) <;> rfl
  rw [lookup, placesOf, htop, hmember, List.map_append, Option.toList_map, Option.toList_map (f := s.implementation)]

end Scope

/-! ## 4. Identities -/

namespace Place

variable {f : SourceFile} {p q : Place} {last : String}

theorem LeadsTo.unique {bindings : List Binding} {other : String} (h : p.LeadsTo bindings last)
    (h' : p.LeadsTo bindings other) : last = other := by
  obtain ⟨origin, n, horigin, hends⟩ := h
  obtain ⟨origin', m, horigin', hends'⟩ := h'
  cases horigin.symm.trans horigin'
  exact (hends.unique hends').2

/-- A place either leads to a name or is a member with a value of its own. -/
theorem leadsTo_or_own (h : f.AliasesEnd) (p : Place) :
    (∃ last, p.LeadsTo f.bindings last) ∨ ∃ m : Member, m.value.alias? = none ∧ p = .member m := by
  cases horigin : p.origin? with
  | some origin =>
    obtain ⟨n, -, last, hends⟩ := Scope.exists_endsAt h origin
    exact .inl ⟨last, origin, n, horigin, hends⟩
  | none =>
    cases p with
    | topLevel b => cases horigin
    | member m => exact .inr ⟨m, horigin, rfl⟩

/-- Where aliases lead is what a place is told apart by, and what it is implemented with. -/
theorem implementation_of_leadsTo (h : f.AliasesEnd) (hp : p.LeadsTo f.bindings last) :
    (Scope.ofFile f).implementation p =
      ⟨p.candidate, .topLevel last, Scope.value? f.bindings last⟩ := by
  obtain ⟨origin, n, horigin, hends⟩ := hp
  obtain ⟨m, hm, other, hends'⟩ := Scope.exists_endsAt h origin
  obtain ⟨rfl, rfl⟩ := hends.unique hends'
  have hresolve := Scope.resolve_of_endsAt hends hm
  cases p with
  | topLevel b =>
    cases horigin
    simp only [Scope.implementation, Scope.ofFile, hresolve]
  | member m =>
    obtain ⟨name, value, span⟩ := m
    cases value with
    | «alias» target =>
      obtain rfl : target = origin := by simpa [origin?, Value.alias?] using horigin
      simp only [Scope.implementation, Scope.ofFile, hresolve]
    | function _ | classBody _ | object _ | imported _ | literal | unknown => cases horigin

theorem implementation_of_own {s : Scope} {m : Member} (hm : m.value.alias? = none) :
    s.implementation (.member m) = ⟨candidate (.member m), .member m.name, some m.value⟩ := by
  obtain ⟨name, value, span⟩ := m
  cases value <;> first | rfl | cases hm

/-- Places have one identity exactly if they are the same. -/
theorem identity_eq_iff (h : f.AliasesEnd) (hp : (Scope.ofFile f).Has p) (hq : (Scope.ofFile f).Has q) :
    ((Scope.ofFile f).implementation p).identity = ((Scope.ofFile f).implementation q).identity ↔
      p.Same f.bindings q := by
  rcases leadsTo_or_own h p with ⟨last, hlast⟩ | ⟨m, hm, rfl⟩
  · rw [implementation_of_leadsTo h hlast]
    rcases leadsTo_or_own h q with ⟨other, hother⟩ | ⟨k, hk, rfl⟩
    · rw [implementation_of_leadsTo h hother]
      constructor
      · intro heq
        cases heq
        exact .inl ⟨last, hlast, hother⟩
      · rintro (⟨common, hpc, hqc⟩ | ⟨k, hk, rfl, rfl⟩)
        · rw [hlast.unique hpc, hother.unique hqc]
        · rw [hlast.unique hother]
    · rw [implementation_of_own hk]
      constructor
      · intro heq
        cases heq
      · rintro (⟨common, -, origin, n, horigin, -⟩ | ⟨k', hk', rfl, -⟩)
        · rw [origin?, hk] at horigin
          cases horigin
        · obtain ⟨origin, n, horigin, -⟩ := hlast
          rw [origin?, hk'] at horigin
          cases horigin
  · rw [implementation_of_own hm]
    rcases leadsTo_or_own h q with ⟨other, hother⟩ | ⟨k, hk, rfl⟩
    · rw [implementation_of_leadsTo h hother]
      constructor
      · intro heq
        cases heq
      · rintro (⟨common, ⟨origin, n, horigin, -⟩, -⟩ | ⟨k', hk', -, rfl⟩)
        · rw [origin?, hm] at horigin
          cases horigin
        · obtain ⟨origin, n, horigin, -⟩ := hother
          rw [origin?, hk'] at horigin
          cases horigin
    · rw [implementation_of_own hk]
      constructor
      · intro heq
        have hname : m.name = k.name := by simpa using heq
        -- of members with one name only the first is found
        have hsame : some m = some k := by
          rw [← hp, ← hq, hname]
        cases hsame
        exact .inr ⟨m, hm, rfl, rfl⟩
      · rintro (⟨common, ⟨origin, n, horigin, -⟩, -⟩ | ⟨k', -, hp', hq'⟩)
        · rw [origin?, hm] at horigin
          cases horigin
        · cases hp'
          cases hq'
          rfl

/-- What a place denotes is what it is found with. -/
theorem Denotes.value_eq {value : Option Value} (h : f.AliasesEnd) (hp : p.Denotes f.bindings value) :
    ((Scope.ofFile f).implementation p).value? = value := by
  cases hp with
  | name hlast => rw [implementation_of_leadsTo h hlast]
  | own hm => rw [implementation_of_own hm]

/-- So no place denotes an alias. -/
theorem Denotes.not_alias {bindings : List Binding} {value? : Option Value}
    (h : p.Denotes bindings value?) : ∀ value ∈ value?, value.alias? = none := by
  cases h with
  | @name _ last hlast =>
    obtain ⟨origin, n, -, hends⟩ := hlast
    have hnone := hends.next?_last
    intro value hvalue
    obtain ⟨b, hb, rfl⟩ := Option.map_eq_some_iff.mp hvalue
    simpa [Scope.next?, hb] using hnone
  | own hm =>
    rintro _ ⟨⟩
    exact hm

theorem exists_denotes (h : f.AliasesEnd) (p : Place) : ∃ value, p.Denotes f.bindings value := by
  rcases leadsTo_or_own h p with ⟨last, hlast⟩ | ⟨m, hm, rfl⟩
  · exact ⟨_, .name hlast⟩
  · exact ⟨_, .own hm⟩

end Place

/-! ## 5. The first of each implementation -/

/-- The places, behind others, that are not the same as an earlier one. -/
inductive FirstOfEach (Same : Place → Place → Prop) : List Place → List Place → List Place → Prop
  | nil {earlier : List Place} : FirstOfEach Same earlier [] []
  | first {earlier rest kept : List Place} {p : Place} : (∀ q ∈ earlier, ¬ Same q p) →
      FirstOfEach Same (earlier ++ [p]) rest kept → FirstOfEach Same earlier (p :: rest) (p :: kept)
  | again {earlier rest kept : List Place} {p q : Place} : q ∈ earlier → Same q p →
      FirstOfEach Same (earlier ++ [p]) rest kept → FirstOfEach Same earlier (p :: rest) kept

namespace Resolution

variable {s : Scope} {Same : Place → Place → Prop}

/-- What differs from all that was kept differs from all that came before. -/
theorem foldl_firstOfEach : ∀ (rest earlier kept : List Place),
    (∀ p ∈ rest, ∀ q ∈ earlier ++ rest,
      (s.implementation q).identity = (s.implementation p).identity ↔ Same q p) →
    (∀ q ∈ earlier, ∃ k ∈ kept, (s.implementation k).identity = (s.implementation q).identity) →
    kept ⊆ earlier →
    ∃ found, FirstOfEach Same earlier rest found ∧
      (rest.map s.implementation).foldl
        (fun kept i => if kept.any (·.identity == i.identity) then kept else kept ++ [i])
        (kept.map s.implementation) = (kept ++ found).map s.implementation
  | [], _, kept, _, _, _ => ⟨[], .nil, by simp⟩
  | p :: rest, earlier, kept, hsame, hkept, hsub => by
      have hlater : ∀ r ∈ rest, ∀ q ∈ (earlier ++ [p]) ++ rest,
          (s.implementation q).identity = (s.implementation r).identity ↔ Same q r := by
        intro r hr q hq
        exact hsame r (List.mem_cons_of_mem _ hr) q (by simpa using hq)
      rw [List.map_cons, List.foldl_cons]
      split
      · rename_i hany
        simp only [List.any_map, List.any_eq_true, Function.comp_apply, beq_iff_eq] at hany
        obtain ⟨k, hk, heq⟩ := hany
        have hk' : k ∈ earlier := hsub hk
        have hagain : Same k p :=
          (hsame p List.mem_cons_self k (List.mem_append_left _ hk')).mp heq
        obtain ⟨found, hfound, hfold⟩ := foldl_firstOfEach rest (earlier ++ [p]) kept hlater
          (fun q hq => by
            rcases List.mem_append.mp hq with hq | hq
            · exact hkept q hq
            · exact ⟨k, hk, List.mem_singleton.mp hq ▸ heq⟩)
          (fun q hq => List.mem_append_left _ (hsub hq))
        exact ⟨found, .again hk' hagain hfound, hfold⟩
      · rename_i hnone
        simp only [List.any_map, List.any_eq_true, Function.comp_apply, beq_iff_eq, not_exists,
          not_and] at hnone
        have hfresh : ∀ q ∈ earlier, ¬ Same q p := by
          intro q hq hqp
          obtain ⟨k, hk, heq⟩ := hkept q hq
          exact hnone k hk (heq.trans
            ((hsame p List.mem_cons_self q (List.mem_append_left _ hq)).mpr hqp))
        obtain ⟨found, hfound, hfold⟩ := foldl_firstOfEach rest (earlier ++ [p]) (kept ++ [p]) hlater
          (fun q hq => by
            rcases List.mem_append.mp hq with hq | hq
            · obtain ⟨k, hk, heq⟩ := hkept q hq
              exact ⟨k, List.mem_append_left _ hk, heq⟩
            · exact ⟨p, by simp, by rw [List.mem_singleton.mp hq]⟩)
          (fun q hq => by
            rcases List.mem_append.mp hq with hq | hq
            · exact List.mem_append_left _ (hsub hq)
            · exact List.mem_append_right _ hq)
        refine ⟨p :: found, .first hfresh hfound, ?_⟩
        rw [List.map_append, List.map_singleton] at hfold
        rw [hfold, List.append_assoc]
        rfl

/-- The implementations that are kept are those of the places that come first. -/
theorem exists_firstOfEach {all : List Place}
    (hsame : ∀ p ∈ all, ∀ q ∈ all,
      (s.implementation q).identity = (s.implementation p).identity ↔ Same q p) :
    ∃ found, FirstOfEach Same [] all found ∧
      differing (all.map s.implementation) = found.map s.implementation :=
  foldl_firstOfEach all [] [] hsame (by simp) (by simp)

end Resolution

/-- If all are the same as one that came before, none is kept. -/
theorem FirstOfEach.eq_nil_iff {Same : Place → Place → Prop} {earlier rest kept : List Place}
    (htrans : ∀ p q r, Same p q → Same q r → Same p r)
    (h : FirstOfEach Same earlier rest kept) :
    kept = [] ↔ ∀ p ∈ rest, ∃ q ∈ earlier, Same q p := by
  induction h with
  | nil => simp
  | first hfresh h ih =>
    refine ⟨by simp, fun hall => ?_⟩
    obtain ⟨q, hq, hqp⟩ := hall _ List.mem_cons_self
    exact absurd hqp (hfresh q hq)
  | @again earlier rest kept p q hq hqp h ih =>
    rw [ih]
    constructor
    · intro hall r hr
      rcases List.mem_cons.mp hr with rfl | hr
      · exact ⟨q, hq, hqp⟩
      · obtain ⟨k, hk, hkr⟩ := hall r hr
        rcases List.mem_append.mp hk with hk | hk
        · exact ⟨k, hk, hkr⟩
        · obtain rfl := List.mem_singleton.mp hk
          exact ⟨q, hq, htrans _ _ _ hqp hkr⟩
    · intro hall r hr
      obtain ⟨k, hk, hkr⟩ := hall r (List.mem_cons_of_mem _ hr)
      exact ⟨k, List.mem_append_left _ hk, hkr⟩

namespace Place

variable {f : SourceFile} {p q r : Place}

theorem Same.trans {bindings : List Binding} (h : p.Same bindings q) (h' : q.Same bindings r) :
    p.Same bindings r := by
  rcases h with ⟨last, hp, hq⟩ | ⟨m, hm, rfl, rfl⟩
  · rcases h' with ⟨other, hq', hr⟩ | ⟨m, -, rfl, rfl⟩
    · obtain rfl := hq.unique hq'
      exact .inl ⟨_, hp, hr⟩
    · exact .inl ⟨last, hp, hq⟩
  · exact h'

theorem Same.symm {bindings : List Binding} (h : p.Same bindings q) : q.Same bindings p := by
  rcases h with ⟨last, hp, hq⟩ | ⟨m, hm, rfl, rfl⟩
  · exact .inl ⟨last, hq, hp⟩
  · exact .inr ⟨m, hm, rfl, rfl⟩

theorem same_self (h : f.AliasesEnd) (p : Place) : p.Same f.bindings p := by
  rcases leadsTo_or_own h p with ⟨last, hlast⟩ | ⟨m, hm, rfl⟩
  · exact .inl ⟨last, hlast, hlast⟩
  · exact .inr ⟨m, hm, rfl, rfl⟩

end Place

/-- Of some places the first one is kept, and it alone exactly if all are the same. -/
theorem FirstOfEach.exists_first {bindings : List Binding} {all found : List Place}
    (h : FirstOfEach (Place.Same bindings) [] all found) :
    (all = [] ∧ found = []) ∨ ∃ first rest kept, all = first :: rest ∧ found = first :: kept ∧
      (kept = [] ↔ ∀ p ∈ rest, first.Same bindings p) := by
  cases h with
  | nil => exact .inl ⟨rfl, rfl⟩
  | @first _ rest kept first _ hrest =>
    have htrans : ∀ p q r : Place, p.Same bindings q → q.Same bindings r → p.Same bindings r :=
      fun _ _ _ => Place.Same.trans
    refine .inr ⟨first, rest, kept, rfl, rfl, ?_⟩
    simpa using hrest.eq_nil_iff htrans
  | again hq _ _ => cases hq

/-! ## 6. Resolutions -/

/-- What a single implementation is resolved to, by its value. What is imported, computed or not in the file
cannot be told, and is bound. -/
inductive Resolution.Judges (c : Candidate) : Option Value → Resolution → Prop
  | classBody {members : List Member} : Judges c (some (.classBody members)) (.notCallable c .classBody)
  | object {members : List Member} : Judges c (some (.object members)) (.notCallable c .object)
  | literal : Judges c (some .literal) (.notCallable c .literal)
  | tooMany {arity : Arity} : 2 < arity.required →
      Judges c (some (.function arity)) (.tooManyParameters c arity.required)
  | function {arity : Arity} {ignoring? : Option Candidate} : ¬ 2 < arity.required →
      Judges c (some (.function arity)) (.bound ⟨c.label⟩ ignoring?)
  | imported {source : String} : Judges c (some (.imported source)) (.bound ⟨c.label⟩ none)
  | unknown : Judges c (some .unknown) (.bound ⟨c.label⟩ none)
  | outside : Judges c none (.bound ⟨c.label⟩ none)

/-- A resolution that the implementations among the places of a name decide. -/
structure Resolution.Counts (bindings : List Binding) (places : List Place) (r : Resolution) :
    Prop where
  missing : (∃ spellings, r = .missing spellings) ↔ places = []
  ambiguous : (∃ candidates, r = .ambiguous candidates) ↔
    ∃ p ∈ places, ∃ q ∈ places, ¬ p.Same bindings q
  /-- Of each implementation the first place is listed, and none of them is preferred. -/
  listed : ∀ candidates, r = .ambiguous candidates → r.handler? = none ∧
    ∃ found, FirstOfEach (Place.Same bindings) [] places found ∧
      candidates = found.map Place.candidate
  single : ∀ first rest, places = first :: rest → (∀ p ∈ rest, first.Same bindings p) →
    ∃ value?, first.Denotes bindings value? ∧ Resolution.Judges first.candidate value? r

namespace Resolution

variable {f : SourceFile}

theorem judges_ofImplementation {i : Implementation} (takesParameters : Bool)
    (h : ∀ value, i.value? = some value → value.alias? = none) :
    Judges i.candidate i.value? (ofImplementation i takesParameters) := by
  obtain ⟨c, identity, value?⟩ := i
  unfold ofImplementation
  cases value? with
  | none => exact .outside
  | some value =>
    cases value with
    | function arity =>
      dsimp only
      split
      · rename_i hmany
        exact .tooMany hmany
      · rename_i hfew
        exact .function hfew
    | classBody _ => exact .classBody
    | object _ => exact .object
    | literal => exact .literal
    | imported _ => exact .imported
    | unknown => exact .unknown
    | «alias» _ => cases h _ rfl

/-- Whoever judges an implementation says neither that there is none nor that there are several. -/
theorem Judges.isSingle {c : Candidate} {value? : Option Value} {r : Resolution}
    (h : Judges c value? r) :
    (¬ ∃ spellings, r = .missing spellings) ∧ ¬ ∃ candidates, r = .ambiguous candidates := by
  cases h <;> simp

/-- The implementations of a name decide what it is resolved to. -/
theorem counts_ofName (h : f.AliasesEnd) (name : String) (takesParameters : Bool) :
    Counts f.bindings ((Scope.ofFile f).places name)
      (ofName (Scope.ofFile f) name takesParameters) := by
  have hlookup : (Naming.variants name).flatMap (Scope.ofFile f).lookup =
      ((Scope.ofFile f).places name).map (Scope.ofFile f).implementation := by
    rw [Scope.places, List.map_flatMap]
    exact List.flatMap_congr fun spelling _ => Scope.lookup_eq_places _ spelling
  obtain ⟨found, hfound, hdiffering⟩ := exists_firstOfEach (s := Scope.ofFile f) fun p hp q hq =>
    Place.identity_eq_iff h (Scope.has_of_mem_places hq) (Scope.has_of_mem_places hp)
  rw [ofName, hlookup, hdiffering]
  rcases hfound.exists_first with ⟨hall, rfl⟩ | ⟨first, rest, kept, hall, rfl, hkept⟩
  · rw [hall]
    refine ⟨by simp, by simp, fun candidates hr => ?_, fun first rest heq => ?_⟩
    · cases hr
    · cases heq
  · rw [hall] at hfound ⊢
    cases kept with
    | nil =>
      -- all places are one implementation
      have hsame := hkept.mp rfl
      obtain ⟨value?, hdenotes⟩ := Place.exists_denotes h first
      have hvalue := hdenotes.value_eq h
      have hjudges := judges_ofImplementation (i := (Scope.ofFile f).implementation first)
        takesParameters fun value hv => hdenotes.not_alias value (hvalue ▸ hv)
      rw [Scope.candidate_implementation, hvalue] at hjudges
      obtain ⟨hmissing, hambiguous⟩ := hjudges.isSingle
      refine ⟨iff_of_false hmissing (by simp), iff_of_false hambiguous ?_, ?_, ?_⟩
      · rintro ⟨p, hp, q, hq, hdiffer⟩
        have hfirst : ∀ r ∈ first :: rest, first.Same f.bindings r := by
          intro r hr
          rcases List.mem_cons.mp hr with rfl | hr
          · exact Place.same_self h r
          · exact hsame r hr
        exact hdiffer ((hfirst p hp).symm.trans (hfirst q hq))
      · exact fun candidates hr => absurd ⟨candidates, hr⟩ hambiguous
      · rintro _ _ ⟨⟩ -
        exact ⟨value?, hdenotes, hjudges⟩
    | cons second others =>
      have hdiffer : ¬ ∀ p ∈ rest, first.Same f.bindings p := fun hsame => by
        cases hkept.mpr hsame
      refine ⟨by simp, iff_of_true ⟨_, rfl⟩ ?_, fun candidates hr => ⟨by rw [hr]; rfl, _, hfound, ?_⟩, ?_⟩
      · simp only [not_forall] at hdiffer
        obtain ⟨p, hp, hne⟩ := hdiffer
        exact ⟨first, List.mem_cons_self, p, List.mem_cons_of_mem _ hp, hne⟩
      · cases hr
        simp
      · rintro _ _ ⟨⟩ hsame
        exact absurd hsame hdiffer

end Resolution

/-! ## 7. After binding -/

namespace Scope

/-- A descriptor has the handler of an outcome under its name, if that one is bound. -/
def HandledBy (outcomes : List Outcome) (kind : ShapeKind) (name : String)
    (handler? : Option Handler) : Prop :=
  ∃ o ∈ outcomes, o.kind = kind ∧ o.name = name ∧ handler? = o.resolution.handler? ∧
    (handler?.isSome ↔ o.isBound = true)

/-- The descriptors that need an implementation have the handlers of their outcomes. -/
structure Handled (g : LocatedGraph) (outcomes : List Outcome) : Prop where
  operations : ∀ l ∈ g.operations,
    HandledBy outcomes .operation l.value.name l.value.handler?
  prompts : ∀ l ∈ g.prompts, l.value.isDynamic = true →
    HandledBy outcomes .prompt l.value.name l.value.handler?
  resources : ∀ l ∈ g.resources, l.value.isDynamic = true →
    HandledBy outcomes .resource l.value.name l.value.handler?

theorem handled_bind (s : Scope) (g : LocatedGraph) : Handled (s.bind g).1 (s.bind g).2 where
  operations l hl := by
    obtain ⟨l₀, hl₀, rfl⟩ := mem_operations_bind hl
    exact ⟨_, mem_outcomes_of_operation _ hl₀, rfl, rfl, rfl, Iff.rfl⟩
  prompts l hl hd := by
    obtain ⟨l₀, hl₀, rfl⟩ := mem_prompts_bind hl
    have hmem := fun o => mem_outcomes_of_prompt s hl₀ (o := o)
    unfold bindPrompt at hd hmem ⊢
    split at hd
    · rename_i hdynamic
      rw [if_pos hdynamic] at hmem ⊢
      exact ⟨_, hmem _ rfl, rfl, rfl, rfl, Iff.rfl⟩
    · rename_i hstatic
      exact absurd hd hstatic
  resources l hl hd := by
    obtain ⟨l₀, hl₀, rfl⟩ := mem_resources_bind hl
    have hmem := fun o => mem_outcomes_of_resource s hl₀ (o := o)
    unfold bindResource at hd hmem ⊢
    split at hd
    · rename_i hdynamic
      rw [if_pos hdynamic] at hmem ⊢
      exact ⟨_, hmem _ rfl, rfl, rfl, rfl, Iff.rfl⟩
    · rename_i hstatic
      exact absurd hd hstatic

/-- An outcome holds what its name is resolved to. -/
theorem exists_ofName_of_mem_outcomes {s : Scope} {g : LocatedGraph} {o : Outcome}
    (ho : o ∈ (s.bind g).2) :
    ∃ takesParameters, o.resolution = Resolution.ofName s o.name takesParameters := by
  rcases List.mem_append.mp ho with ho | ho
  · rcases List.mem_append.mp ho with ho | ho
    · simp only [List.mem_map] at ho
      obtain ⟨_, ⟨l, -, rfl⟩, rfl⟩ := ho
      exact ⟨_, rfl⟩
    · simp only [List.mem_filterMap, List.mem_map] at ho
      obtain ⟨_, ⟨l, -, rfl⟩, ho⟩ := ho
      unfold bindPrompt at ho
      split at ho
      · cases ho
        exact ⟨_, rfl⟩
      · cases ho
  · simp only [List.mem_filterMap, List.mem_map] at ho
    obtain ⟨_, ⟨l, -, rfl⟩, ho⟩ := ho
    unfold bindResource at ho
    split at ho
    · cases ho
      exact ⟨_, rfl⟩
    · cases ho

variable {f : SourceFile}

/-- **Binding counts implementations, not spellings.** If every chain of aliases ends before binding stops to
follow it, a name is resolved by its places in the top level and in what the default export offers: to nothing
if there are none, to an ambiguity of the first places if two of them are different implementations, and
else by what the one implementation is. The outcomes of binding are such resolutions, and a descriptor
has a handler exactly if its outcome is bound. -/
theorem resolution_counted (h : f.AliasesEnd) :
    Offers f (ofFile f).members ∧ (ofFile f).bindings = f.bindings ∧
    (∀ name takesParameters, Resolution.Counts f.bindings ((ofFile f).places name)
      (Resolution.ofName (ofFile f) name takesParameters)) ∧
    ∀ g : LocatedGraph,
      (∀ o ∈ ((ofFile f).bind g).2,
        Resolution.Counts f.bindings ((ofFile f).places o.name) o.resolution) ∧
      Handled ((ofFile f).bind g).1 ((ofFile f).bind g).2 := by
  refine ⟨offers_ofFile h, rfl, Resolution.counts_ofName h, fun g => ⟨fun o ho => ?_, handled_bind _ g⟩⟩
  obtain ⟨takesParameters, hresolution⟩ := exists_ofName_of_mem_outcomes ho
  rw [hresolution]
  exact Resolution.counts_ofName h o.name takesParameters

end Scope

/-! ## One implementation under three spellings -/

namespace Sample

def add : Binding := ⟨"add", .function ⟨1, 1, false⟩, false, .origin⟩

def addAgain : Binding := ⟨"Add", .alias "add", false, .origin⟩

def calculator : Binding :=
  ⟨"calculator", .object [⟨"add", .alias "Add", .origin⟩, ⟨"ADD", .unknown, .origin⟩], false, .origin⟩

/-- The default export is an object by another name. It offers the function under its second name, and
something else in capitals. -/
def calculating : SourceFile :=
  ⟨[.binding addAgain, .binding add, .binding calculator,
    .defaultExport ⟨.alias "calculator", .origin⟩], []⟩

theorem calculating_aliasesEnd : calculating.AliasesEnd := by
  intro b hb
  have hb' : b = addAgain ∨ b = add ∨ b = calculator := by
    simpa [calculating, SourceFile.bindings] using hb
  rcases hb' with rfl | rfl | rfl
  · exact ⟨1, by decide, "add", .step rfl (.here rfl)⟩
  · exact ⟨0, by decide, "add", .here rfl⟩
  · exact ⟨0, by decide, "calculator", .here rfl⟩

theorem calculating_counted :
    calculating.AliasesEnd ∧
    (Scope.ofFile calculating).places "add" = [.topLevel add, .member ⟨"add", .alias "Add", .origin⟩,
      .topLevel addAgain, .member ⟨"ADD", .unknown, .origin⟩] ∧
    Resolution.ofName (Scope.ofFile calculating) "add" true =
      .ambiguous [⟨"add", .origin⟩, ⟨"default.ADD", .origin⟩] ∧
    Resolution.Counts calculating.bindings ((Scope.ofFile calculating).places "add")
      (Resolution.ofName (Scope.ofFile calculating) "add" true) :=
  ⟨calculating_aliasesEnd, by cbv, by cbv,
    (Scope.resolution_counted calculating_aliasesEnd).2.2.1 "add" true⟩

end Sample

end ServiceGraph
