import ServiceGraph.Emission.File
import ServiceGraph.Proofs.Annotation.Values
import ServiceGraph.Proofs.Binding.Lookup
import ServiceGraph.Syntax.Token

/-!
Stubs and how they are bound.

For every handler of a graph a stub is written. A stub does not know under which other names its original was
to be found, nor that two names meant the same: it is an implementation of its own, and so is
the class that holds the members of the default export. So a name is bound to the stub of its handler
exactly if no other stub, and not that class, is found under one of the name's spellings
(`Resolution.handler?_ofName_stubs_iff`).
-/

namespace ServiceGraph

open Syntax Emission

/-! ## 1. Handlers by name -/

namespace Handler

/-- The name under which a handler is found: that of the binding or of the member. -/
def localName (h : Handler) : String := h.defaultMemberName?.getD h.symbol

/-- What a stub for the handler refers to. -/
def identity (h : Handler) : Identity :=
  match h.defaultMemberName? with
  | some name => .member name
  | none => .topLevel h.symbol

theorem defaultMemberName?_defaultMember (name : String) :
    (defaultMember name).defaultMemberName? = some name := by
  simp [defaultMember, defaultMemberName?, Text.stripLead?]

theorem eq_defaultMember {h : Handler} {name : String} (hname : h.defaultMemberName? = some name) :
    h = defaultMember name := by
  obtain ⟨symbol⟩ := h
  simp only [defaultMemberName?, Text.stripLead?, Option.map_eq_some_iff] at hname
  obtain ⟨rest, hrest, rfl⟩ := hname
  split at hrest
  · rename_i hprefix
    obtain ⟨behind, hsymbol⟩ := List.isPrefixOf_iff_prefix.mp hprefix
    have hdrop : symbol.toList.drop "default.".toList.length = behind := by
      rw [← hsymbol, List.drop_left]
    rw [hdrop] at hrest
    cases hrest
    refine congrArg Handler.mk (String.toList_inj.mp ?_)
    simp [← hsymbol]
  · cases hrest

/-- A name has no dot, so no binding is taken for a member of the default export. -/
theorem defaultMemberName?_of_isName {name : String} (h : Token.isName name.toList = true) :
    (topLevel name).defaultMemberName? = none := by
  cases hmember : (topLevel name).defaultMemberName? with
  | none => rfl
  | some member =>
    obtain rfl : name = "default." ++ member := congrArg Handler.symbol (eq_defaultMember hmember)
    simp [Token.isName, Token.isNamePart] at h

@[simp] theorem localName_defaultMember (name : String) : (defaultMember name).localName = name := by
  simp [localName, defaultMemberName?_defaultMember]

@[simp] theorem identity_defaultMember (name : String) : (defaultMember name).identity = .member name := by
  simp [identity, defaultMemberName?_defaultMember]

/-- A handler is told apart by what its stub refers to. -/
theorem identity_inj {h k : Handler} (heq : h.identity = k.identity) : h = k := by
  unfold identity at heq
  cases hh : h.defaultMemberName? with
  | some name =>
    cases hk : k.defaultMemberName? with
    | some other =>
      rw [hh, hk] at heq
      cases heq
      exact (eq_defaultMember hh).trans (eq_defaultMember hk).symm
    | none => simp [hh, hk] at heq
  | none =>
    cases hk : k.defaultMemberName? with
    | some other => simp [hh, hk] at heq
    | none =>
      rw [hh, hk] at heq
      obtain ⟨symbol⟩ := h
      obtain ⟨other⟩ := k
      cases heq
      rfl

end Handler

/-! ## 2. Stubs -/

namespace Emission

/-- The handlers that are written as functions of the top level. -/
def topLevelNames (all : List Handler) : List String :=
  (all.filter (·.defaultMemberName?.isNone)).map (·.symbol)

/-- The handlers that are written as methods of the default export. -/
def memberNames (all : List Handler) : List String := all.filterMap (·.defaultMemberName?)

theorem mem_topLevelNames {all : List Handler} {name : String} :
    name ∈ topLevelNames all ↔ ∃ h ∈ all, h.defaultMemberName? = none ∧ h.symbol = name := by
  simp [topLevelNames, and_assoc]

theorem mem_memberNames {all : List Handler} {name : String} :
    name ∈ memberNames all ↔ Handler.defaultMember name ∈ all := by
  refine List.mem_filterMap.trans ⟨?_, fun h => ⟨_, h, Handler.defaultMemberName?_defaultMember name⟩⟩
  rintro ⟨h, hh, hname⟩
  exact Handler.eq_defaultMember hname ▸ hh

/-- What a stub is: a function of two parameters that may be left out. -/
def stub : Value := .function ⟨0, 2, false⟩

/-- A file declares the stubs of handlers: functions, and a class with the given methods, which is the default
export, if there are any. -/
structure DeclaresStubs (all : List Handler) (methods : List Member) (f : SourceFile) : Prop where
  members : methods.map (fun m => (m.name, m.value)) = (memberNames all).map (·, stub)
  bindings : f.bindings.map (fun b => (b.name, b.value)) = (topLevelNames all).map (·, stub) ++
    if methods.isEmpty then [] else [(handlerClass, .classBody methods)]
  defaultExport : f.defaultExport?.map (·.value) =
    if methods.isEmpty then none else some (.alias handlerClass)
  /-- No function takes the place of the class. -/
  free : methods ≠ [] → handlerClass ∉ topLevelNames all

end Emission

namespace Scope

open Emission

variable {all : List Handler} {methods : List Member} {f : SourceFile}

theorem binding?_of_mem {name : String} {value : Value}
    (hmem : (name, value) ∈ f.bindings.map fun b => (b.name, b.value)) :
    ∃ b, binding? f.bindings name = some b := by
  obtain ⟨b, hb, heq⟩ := List.mem_map.mp hmem
  simp only [Prod.mk.injEq] at heq
  exact Option.isSome_iff_exists.mp (List.find?_isSome.mpr ⟨b, hb, by simp [heq.1]⟩)

/-- A name that is bound to no other one refers to itself. -/
theorem resolve_of_binding? {bindings : List Binding} {name : String} {b : Binding}
    (hb : binding? bindings name = some b) (hvalue : ∀ next, b.value ≠ .alias next) :
    resolve bindings name = (.topLevel name, some b.value) := by
  have hfollow : follow bindings longestChain name = (name, some b.value) := by
    rw [longestChain, follow, hb]
    dsimp only
    split
    · rename_i next halias
      exact absurd halias (hvalue next)
    · rfl
  simp only [resolve, hfollow]

/-- A binding that leads to no other name is an implementation of its own. -/
theorem topLevel?_of_binding? {s : Scope} {name : String} {b : Binding}
    (hb : binding? s.bindings name = some b) (hvalue : ∀ next, b.value ≠ .alias next) :
    s.topLevel? name = some ⟨⟨name, b.span⟩, .topLevel name, some b.value⟩ := by
  simp only [topLevel?, hb, resolve_of_binding? hb hvalue]
  rfl

theorem member?_of_find? {s : Scope} {name : String} {m : Member}
    (hm : s.members.find? (·.name == name) = some m) (hvalue : ∀ next, m.value ≠ .alias next) :
    s.member? name =
      some ⟨⟨(Handler.defaultMember name).symbol, m.span⟩, .member name, some m.value⟩ := by
  have hname : m.name = name := by simpa using List.find?_some hm
  simp only [member?, hm, Option.map_some, hname]

section

variable (h : DeclaresStubs all methods f)

include h

theorem exists_stub_of_binding? {name : String} {b : Binding}
    (hb : binding? f.bindings name = some b) :
    b.name = name ∧ (name ∈ topLevelNames all ∧ b.value = stub ∨
      methods ≠ [] ∧ name = handlerClass ∧ b.value = .classBody methods) := by
  have hname : b.name = name := by simpa using List.find?_some hb
  have hmem : (b.name, b.value) ∈ f.bindings.map fun b => (b.name, b.value) :=
    List.mem_map_of_mem (List.mem_of_find?_eq_some hb)
  rw [h.bindings] at hmem
  refine ⟨hname, ?_⟩
  rcases List.mem_append.mp hmem with hmem | hmem
  · obtain ⟨other, hother, heq⟩ := List.mem_map.mp hmem
    simp only [Prod.mk.injEq] at heq
    exact .inl ⟨hname ▸ heq.1 ▸ hother, heq.2.symm⟩
  · split at hmem
    · cases hmem
    · rename_i hne
      simp only [List.mem_singleton, Prod.mk.injEq] at hmem
      exact .inr ⟨by simpa using hne, hname ▸ hmem.1, hmem.2⟩

/-- The class is found under its name. -/
theorem binding?_handlerClass (hne : methods ≠ []) :
    ∃ b, binding? f.bindings handlerClass = some b ∧ b.value = .classBody methods := by
  have hmem : (handlerClass, Value.classBody methods) ∈ f.bindings.map fun b => (b.name, b.value) := by
    rw [h.bindings]
    simp [hne]
  obtain ⟨b, hb⟩ := binding?_of_mem hmem
  refine ⟨b, hb, ?_⟩
  rcases (exists_stub_of_binding? h hb).2 with ⟨hfree, -⟩ | ⟨-, -, hvalue⟩
  · exact absurd hfree (h.free hne)
  · exact hvalue

/-- The members of the default export are the methods. -/
theorem members_of_stubs : (ofFile f).members = methods := by
  have hdefault := h.defaultExport
  by_cases hne : methods = []
  · subst hne
    have hnone : f.defaultExport? = none := by simpa using hdefault
    simp [ofFile, defaultMembers, hnone]
  · obtain ⟨b, hb, hvalue⟩ := binding?_handlerClass h hne
    have hresolve := resolve_of_binding? hb (by simp [hvalue])
    simp only [List.isEmpty_iff, hne, if_false, Option.map_eq_some_iff] at hdefault
    obtain ⟨d, hd, halias⟩ := hdefault
    simp [ofFile, defaultMembers, hd, halias, hresolve, hvalue, membersOf]

/-- Every method is a stub. -/
theorem stub_of_mem_methods {m : Member} (hm : m ∈ methods) :
    m.name ∈ memberNames all ∧ m.value = stub := by
  have hmem : (m.name, m.value) ∈ methods.map fun m => (m.name, m.value) := List.mem_map_of_mem hm
  rw [h.members] at hmem
  obtain ⟨name, hname, heq⟩ := List.mem_map.mp hmem
  simp only [Prod.mk.injEq] at heq
  exact ⟨heq.1 ▸ hname, heq.2.symm⟩

/-- What is found under a name is the stub of a handler of that name, or the class. -/
theorem stub_of_mem_lookup {name : String} {i : Implementation} (hi : i ∈ (ofFile f).lookup name) :
    (∃ k ∈ all, k.localName = name ∧ i.candidate.label = k.symbol ∧ i.identity = k.identity ∧
      i.value? = some stub) ∨
    (methods ≠ [] ∧ name = handlerClass ∧ i.identity = .topLevel name ∧
      i.value? = some (.classBody methods)) := by
  rcases List.mem_append.mp hi with hi | hi
  · obtain ⟨b, hb, -⟩ := Option.map_eq_some_iff.mp (Option.mem_toList.mp hi)
    rcases (exists_stub_of_binding? h hb).2 with ⟨hname, hvalue⟩ | ⟨hne, hname, hvalue⟩
    · obtain ⟨k, hk, hnone, rfl⟩ := mem_topLevelNames.mp hname
      rw [topLevel?_of_binding? hb (by simp [hvalue, stub]), Option.mem_toList] at hi
      cases hi
      exact .inl ⟨k, hk, by simp [Handler.localName, hnone], rfl, by simp [Handler.identity, hnone],
        congrArg some hvalue⟩
    · rw [topLevel?_of_binding? hb (by simp [hvalue]), Option.mem_toList] at hi
      cases hi
      exact .inr ⟨hne, hname, rfl, congrArg some hvalue⟩
  · obtain ⟨m, hm, -⟩ := Option.map_eq_some_iff.mp (Option.mem_toList.mp hi)
    obtain ⟨hmem, hvalue⟩ :=
      stub_of_mem_methods h (members_of_stubs h ▸ List.mem_of_find?_eq_some hm)
    have hname : m.name = name := by simpa using List.find?_some hm
    rw [member?_of_find? hm (by simp [hvalue, stub]), Option.mem_toList] at hi
    cases hi
    exact .inl ⟨.defaultMember name, mem_memberNames.mp (hname ▸ hmem), by simp, rfl, by simp,
      congrArg some hvalue⟩

/-- The stub of a handler is found under its name. -/
theorem exists_stub_of_mem {k : Handler} (hk : k ∈ all) :
    ∃ i ∈ (ofFile f).lookup k.localName, i.identity = k.identity := by
  cases hmember : k.defaultMemberName? with
  | none =>
    have hname : k.localName = k.symbol := by simp [Handler.localName, hmember]
    have hmem : k.symbol ∈ topLevelNames all := mem_topLevelNames.mpr ⟨k, hk, hmember, rfl⟩
    have hstub : (k.symbol, stub) ∈ f.bindings.map fun b => (b.name, b.value) := by
      rw [h.bindings]
      exact List.mem_append_left _ (List.mem_map_of_mem hmem)
    obtain ⟨b, hb⟩ := binding?_of_mem hstub
    have hvalue : b.value = stub := by
      rcases (exists_stub_of_binding? h hb).2 with ⟨-, hvalue⟩ | ⟨hne, hclass, -⟩
      · exact hvalue
      · exact absurd (hclass ▸ hmem) (h.free hne)
    have hfound := topLevel?_of_binding? (s := ofFile f) hb (by simp [hvalue, stub])
    exact ⟨_, List.mem_append_left _ (Option.mem_toList.mpr (hname ▸ hfound)),
      by simp [hname, Handler.identity, hmember]⟩
  | some name =>
    obtain rfl := Handler.eq_defaultMember hmember
    have hmem : (name, stub) ∈ methods.map fun m => (m.name, m.value) := by
      rw [h.members]
      exact List.mem_map_of_mem (mem_memberNames.mpr hk)
    obtain ⟨m, hm, heq⟩ := List.mem_map.mp hmem
    simp only [Prod.mk.injEq] at heq
    obtain ⟨found, hfound⟩ : ∃ found, (ofFile f).members.find? (·.name == name) = some found :=
      Option.isSome_iff_exists.mp
        (List.find?_isSome.mpr ⟨m, members_of_stubs h ▸ hm, by simp [heq.1]⟩)
    have hvalue : found.value = stub :=
      (stub_of_mem_methods h (members_of_stubs h ▸ List.mem_of_find?_eq_some hfound)).2
    have hmember := member?_of_find? hfound (by simp [hvalue, stub])
    rw [Handler.localName_defaultMember]
    exact ⟨_, List.mem_append_right _ (Option.mem_toList.mpr hmember), by simp⟩

/-- So is the class under its own. -/
theorem exists_class (hne : methods ≠ []) :
    ∃ i ∈ (ofFile f).lookup handlerClass, i.identity = .topLevel handlerClass := by
  obtain ⟨b, hb, hvalue⟩ := binding?_handlerClass h hne
  have hfound := topLevel?_of_binding? (s := ofFile f) hb (by simp [hvalue])
  exact ⟨_, List.mem_append_left _ (Option.mem_toList.mpr hfound), rfl⟩

end

end Scope

/-! ## 3. One name -/

namespace Resolution

open Emission

/-- Nothing but the stub of a handler is found under the spellings of a name. -/
structure Unrivalled (all : List Handler) (name : String) (h : Handler) : Prop where
  stubs : ∀ k ∈ all, k.localName ∈ Naming.variants name → k = h
  handlerClass : handlerClass ∈ Naming.variants name → memberNames all = []

variable {all : List Handler} {methods : List Member} {f : SourceFile}

theorem handler?_ofImplementation_stub {i : Implementation} (hi : i.value? = some stub)
    (takesParameters : Bool) :
    (ofImplementation i takesParameters).handler? = some ⟨i.candidate.label⟩ := by
  simp [ofImplementation, hi, stub, mostParameters, handler?]

theorem eq_of_handler?_ofImplementation {i : Implementation} {takesParameters : Bool} {h : Handler}
    (hbound : (ofImplementation i takesParameters).handler? = some h) : h = ⟨i.candidate.label⟩ := by
  unfold ofImplementation at hbound
  dsimp only at hbound
  split at hbound
  · split at hbound
    · cases hbound
    · exact (Option.some.inj hbound).symm
  · cases hbound
  · cases hbound
  · cases hbound
  · exact (Option.some.inj hbound).symm

/-- **A name is bound to the stub of its handler exactly if nothing else is found under its spellings.** -/
theorem handler?_ofName_stubs_iff (hf : DeclaresStubs all methods f) {name : String} {h : Handler}
    (hmem : h ∈ all) (hname : h.localName ∈ Naming.variants name) (takesParameters : Bool) :
    (ofName (Scope.ofFile f) name takesParameters).handler? = some h ↔ Unrivalled all name h := by
  obtain ⟨own, hown, hidentity⟩ := Scope.exists_stub_of_mem hf hmem
  have hfound : own ∈ (Naming.variants name).flatMap (Scope.ofFile f).lookup :=
    List.mem_flatMap.mpr ⟨_, hname, hown⟩
  unfold ofName
  dsimp only
  constructor
  · intro hbound
    split at hbound
    · cases hbound
    · rename_i single hsingle
      have honly : ∀ i ∈ (Naming.variants name).flatMap (Scope.ofFile f).lookup,
          i.identity = single.identity := by
        intro i hi
        obtain ⟨k, hk, hsame⟩ := exists_mem_differing hi
        rw [hsingle, List.mem_singleton] at hk
        exact hk ▸ hsame.symm
      have hsame : single.identity = h.identity := (honly own hfound).symm.trans hidentity
      refine ⟨fun k hk hspelled => ?_, fun hspelled => ?_⟩
      · obtain ⟨i, hi, hk'⟩ := Scope.exists_stub_of_mem hf hk
        have hi' := honly i (List.mem_flatMap.mpr ⟨_, hspelled, hi⟩)
        exact Handler.identity_inj (hk'.symm.trans (hi'.trans hsame))
      · -- the class cannot be what the name is bound to
        by_contra hnone
        have hmethods : methods ≠ [] := by
          rintro rfl
          exact hnone (by simpa using hf.members.symm)
        obtain ⟨i, hi, hclass⟩ := Scope.exists_class hf hmethods
        have hi' := honly i (List.mem_flatMap.mpr ⟨_, hspelled, hi⟩)
        have hh : h.identity = .topLevel handlerClass := hsame.symm.trans (hi'.symm.trans hclass)
        refine hf.free hmethods (mem_topLevelNames.mpr ⟨h, hmem, ?_⟩)
        unfold Handler.identity at hh
        split at hh
        · cases hh
        · rename_i hmember
          exact ⟨hmember, by simpa using hh⟩
    · cases hbound
  · intro hrivals
    have hall : ∀ i ∈ (Naming.variants name).flatMap (Scope.ofFile f).lookup,
        i.candidate.label = h.symbol ∧ i.identity = h.identity ∧ i.value? = some stub := by
      intro i hi
      obtain ⟨spelling, hspelling, hi⟩ := List.mem_flatMap.mp hi
      rcases Scope.stub_of_mem_lookup hf hi with ⟨k, hk, rfl, hlabel, hk', hvalue⟩ | ⟨hne, rfl, -⟩
      · obtain rfl := hrivals.stubs k hk hspelling
        exact ⟨hlabel, hk', hvalue⟩
      · have hmembers := hf.members
        rw [hrivals.handlerClass hspelling, List.map_nil, List.map_eq_nil_iff] at hmembers
        exact absurd hmembers hne
    cases hlist : (Naming.variants name).flatMap (Scope.ofFile f).lookup with
    | nil => simp [hlist] at hfound
    | cons first rest =>
      rw [hlist] at hall
      obtain ⟨hlabel, hfirst, hvalue⟩ := hall first List.mem_cons_self
      rw [differing_of_same fun k hk =>
        (hall k (List.mem_cons_of_mem _ hk)).2.1.trans hfirst.symm]
      exact (handler?_ofImplementation_stub hvalue _).trans (by rw [hlabel])

end Resolution

end ServiceGraph
