import ServiceGraph.Proofs.Emission.RoundTrip

/-!
A graph that is written is bound again, to the stubs that are written with it.

Everything that needs a handler has the same one as before exactly if no stub gets in the way of another one, and no
handler is a member that is called `constructor` (`Analysis.bindings_file_iff`): the default export is written as a
class, and in a class a method of that name is no member. What else was found under the names of the text does not
matter, nor do the types of the parameters.
-/

namespace ServiceGraph

open Syntax Written Emission

/-! ## 1. What is bound -/

/-- The names of what needs a handler do not depend on the handlers. -/
theorem Graph.names_bindings_essence (g : Graph) : g.essence.bindings.map Prod.fst = g.bindings.map Prod.fst := by
  have hprompt : ∀ p : Prompt, p.essence.isDynamic = p.isDynamic := fun _ => rfl
  have hresource : ∀ r : Resource, r.essence.isDynamic = r.isDynamic := fun _ => rfl
  simp only [bindings, essence, List.map_append, List.map_map, List.filter_map, Function.comp_def, hprompt, hresource]
  rfl

/-! ## 2. What is read of the stubs -/

namespace Emission

variable {g : Graph}

/-- The file of a graph declares the stubs of its handlers, unless one would be a constructor or have the name of the
class. -/
theorem exists_declaresStubs (h : g.Writable) (markerModule : String)
    (hconstructor : "constructor" ∉ memberNames (handlers g))
    (hfree : memberNames (handlers g) ≠ [] → handlerClass ∉ topLevelNames (handlers g)) :
    ∃ methods, DeclaresStubs (handlers g) methods (SourceFile.read (file g markerModule)) := by
  obtain ⟨methods, hmethods, hbindings, hdefault⟩ := SourceFile.stubs_of_reads (reads_items h markerModule)
  have hmembers : methods.map (fun m => (m.name, m.value)) = (memberNames (handlers g)).map (·, stub) := by
    have hall : (memberNames (handlers g)).filter (· != "constructor") = memberNames (handlers g) :=
      List.filter_eq_self.mpr fun name hname => bne_iff_ne.mpr fun heq => hconstructor (heq ▸ hname)
    exact hmethods.trans (by rw [← hall]; rfl)
  have hempty : (memberNames (handlers g)).isEmpty = methods.isEmpty := by
    simpa using (congrArg List.isEmpty hmembers).symm
  refine ⟨methods, hmembers, ?_, ?_, fun hne => hfree fun hnil => ?_⟩
  · rw [← hempty]
    exact hbindings
  · rw [← hempty]
    exact hdefault
  · rw [hnil] at hempty
    exact hne (List.isEmpty_iff.mp hempty.symm)

/-- Under the name of the class a function is found, if there is one of that name. -/
theorem value_binding?_handlerClass {names : List String} {methods : List Member} {e : SourceFile}
    (h : e.bindings.map (fun b => (b.name, b.value)) =
      names.map (·, stub) ++ [(handlerClass, .classBody methods)]) :
    (Scope.binding? e.bindings handlerClass).map (·.value) =
      some (if handlerClass ∈ names then stub else .classBody methods) := by
  have hfind : (Scope.binding? e.bindings handlerClass).map (·.value) =
      ((e.bindings.map fun b => (b.name, b.value)).find? (·.1 == handlerClass)).map Prod.snd := by
    rw [List.find?_map, Option.map_map]
    rfl
  rw [hfind, h, List.find?_append, List.find?_map]
  cases hfirst : names.find? ((fun b : String × Value => b.1 == handlerClass) ∘ (·, stub)) with
  | some name =>
    have hname : name = handlerClass := by simpa using List.find?_some hfirst
    have hmem : handlerClass ∈ names := hname ▸ List.mem_of_find?_eq_some hfirst
    simp [hmem]
  | none =>
    have hfree : handlerClass ∉ names := fun hmem => by simpa using List.find?_eq_none.mp hfirst _ hmem
    simp [hfree]

/-- The members of the default export are read only if no function has the name of the class; and a constructor is
none of them. -/
theorem of_mem_members (h : g.Writable) (markerModule : String) {m : Member}
    (hm : m ∈ (Scope.ofFile (SourceFile.read (file g markerModule))).members) :
    m.name ≠ "constructor" ∧ handlerClass ∉ topLevelNames (handlers g) := by
  obtain ⟨methods, hmethods, hbindings, hdefault⟩ := SourceFile.stubs_of_reads (reads_items h markerModule)
  generalize SourceFile.read (file g markerModule) = e at hm hbindings hdefault
  have hmembers : (writtenFile g markerModule).methods = memberNames (handlers g) := rfl
  have hfunctions : (writtenFile g markerModule).functions = topLevelNames (handlers g) := rfl
  rw [hmembers] at hmethods hbindings hdefault
  rw [hfunctions] at hbindings
  by_cases hnone : (memberNames (handlers g)).isEmpty
  · simp only [hnone, if_true, Option.map_eq_none_iff] at hdefault
    simp [Scope.ofFile, Scope.defaultMembers, hdefault] at hm
  · simp only [hnone] at hbindings hdefault
    obtain ⟨d, hd, halias⟩ := Option.map_eq_some_iff.mp hdefault
    have hclass : (Scope.binding? e.bindings handlerClass).map (·.value) =
        some (if handlerClass ∈ topLevelNames (handlers g) then stub else .classBody methods) :=
      value_binding?_handlerClass hbindings
    obtain ⟨b, hb, hvalue⟩ := Option.map_eq_some_iff.mp hclass
    have hresolve := Scope.resolve_of_binding? hb (by rw [hvalue]; split <;> simp [stub])
    have hfound : (Scope.ofFile e).members = Scope.membersOf b.value := by
      simp [Scope.ofFile, Scope.defaultMembers, hd, halias, hresolve]
    rw [hfound, hvalue] at hm
    split at hm
    · cases hm
    · rename_i hfree
      refine ⟨?_, hfree⟩
      have hname : (m.name, m.value) ∈ methods.map fun m => (m.name, m.value) := List.mem_map_of_mem hm
      rw [hmethods] at hname
      obtain ⟨name, hname, heq⟩ := List.mem_map.mp hname
      simp only [Prod.mk.injEq] at heq
      exact heq.1 ▸ by simpa using (List.mem_filter.mp hname).2

end Emission

/-! ## 3. Texts -/

namespace Analysis

/-- Every member of the default export that is a handler is found in the file. -/
theorem exists_member_of_mem_handlers {f : SourceFile}
    (hplain : ∀ b ∈ f.bindings, (Handler.topLevel b.name).defaultMemberName? = none) {name : String}
    (h : Handler.defaultMember name ∈ handlers (ofFile f).graph) : ∃ m ∈ (Scope.ofFile f).members, m.name = name := by
  obtain ⟨_, _, -, hfound⟩ := exists_resolution_of_mem_handlers h
  rcases Scope.exists_place_of_handler? hfound with ⟨b, hb, heq, -⟩ | ⟨m, hm, heq, -⟩
  · have hnone := hplain b hb
    rw [← heq, Handler.defaultMemberName?_defaultMember] at hnone
    cases hnone
  · have hsome := congrArg Handler.defaultMemberName? heq
    rw [Handler.defaultMemberName?_defaultMember, Handler.defaultMemberName?_defaultMember] at hsome
    exact ⟨m, hm, (Option.some.inj hsome).symm⟩

/-- What a file binds is bound alike in its written graph exactly if no stub gets in the way of another one and no
handler is a constructor. -/
theorem bindings_written_iff {f e : SourceFile} (markerModule : String) (hwritable : (ofFile f).graph.Writable)
    (hbound : (ofFile f).graph.Bound)
    (hplain : ∀ b ∈ f.bindings, (Handler.topLevel b.name).defaultMemberName? = none)
    (hplain' : ∀ b ∈ e.bindings, (Handler.topLevel b.name).defaultMemberName? = none)
    (he : SourceFile.read (Emission.file (ofFile f).graph markerModule) = e) :
    (ofFile e).graph.bindings = (ofFile f).graph.bindings ↔
      (ofFile f).graph.Unrivalled ∧ Handler.defaultMember "constructor" ∉ handlers (ofFile f).graph := by
  have hessence := essence_ofText_file hwritable markerModule
  rw [ofText, he] at hessence
  have hnames : (ofFile e).graph.bindings.map Prod.fst = (ofFile f).graph.bindings.map Prod.fst := by
    rw [← Graph.names_bindings_essence, hessence, Graph.names_bindings_essence]
  -- If no stub has the name of the class and none is a constructor, then all that matters are the rivals.
  have hiff : (memberNames (handlers (ofFile f).graph) ≠ [] →
      handlerClass ∉ topLevelNames (handlers (ofFile f).graph)) →
      Handler.defaultMember "constructor" ∉ handlers (ofFile f).graph →
      ((ofFile e).graph.bindings = (ofFile f).graph.bindings ↔ (ofFile f).graph.Unrivalled) := by
    intro hfree hconstructor
    obtain ⟨methods, hdeclares⟩ := exists_declaresStubs hwritable markerModule
      (fun hmem => hconstructor (mem_memberNames.mp hmem)) hfree
    rw [he] at hdeclares
    exact bindings_stubs_iff hplain hbound hdeclares hnames
  constructor
  · intro hsame
    -- Every member is read again, so there is no constructor and the class is found.
    have hmembers : ∀ name, Handler.defaultMember name ∈ handlers (ofFile f).graph →
        name ≠ "constructor" ∧ handlerClass ∉ topLevelNames (handlers (ofFile f).graph) := by
      intro name hmem
      obtain ⟨descriptor, hdescriptor⟩ := mem_handlers_iff.mp hmem
      rw [← hsame] at hdescriptor
      obtain ⟨m, hm, rfl⟩ := exists_member_of_mem_handlers hplain' (mem_handlers_iff.mpr ⟨descriptor, hdescriptor⟩)
      rw [← he] at hm
      exact of_mem_members hwritable markerModule hm
    have hconstructor : Handler.defaultMember "constructor" ∉ handlers (ofFile f).graph :=
      fun hmem => (hmembers _ hmem).1 rfl
    refine ⟨(hiff (fun hne => ?_) hconstructor).mp hsame, hconstructor⟩
    obtain ⟨name, hname⟩ := List.exists_mem_of_ne_nil _ hne
    exact (hmembers name (mem_memberNames.mp hname)).2
  · rintro ⟨hrivals, hconstructor⟩
    refine (hiff (fun hne htaken => hne ?_) hconstructor).mpr hrivals
    -- A function with the name of the class stands in the way of the class.
    obtain ⟨k, hk, hnone, hsymbol⟩ := mem_topLevelNames.mp htaken
    obtain ⟨name, _, hmem, hfound⟩ := exists_resolution_of_mem_handlers hk
    have hspelled := Scope.localName_mem_variants hplain hfound
    rw [Handler.localName, hnone, Option.getD_none, hsymbol] at hspelled
    exact (Graph.unrivalled_iff.mp hrivals _ hmem k rfl).handlerClass hspelled

end Analysis

/-! ## 4. Two names of one function -/

namespace Sample

theorem clean_of_isTelling {f : SourceFile} (h : isTelling f = true) : (Analysis.ofFile f).Clean := by
  have hall : (Analysis.ofFile f).problems.all (!·.isError) = true := by
    unfold isTelling at h
    split at h
    · simp only [beq_iff_eq, List.cons.injEq, and_true] at h
      obtain ⟨rfl, rfl, rfl, rfl, rfl, rfl, rfl, rfl, rfl, rfl, rfl, rfl, rfl, rfl, rfl, rfl⟩ := h
      cbv
    · cases h
  intro d hd
  simpa using List.all_eq_true.mp hall d hd

/-- Two operations whose names are spellings of each other, and one function under two names. -/
def aliasedText : String :=
  "interface Svc extends Server \x7b name: \"svc\"; version: \"1.0.0\" \x7d\n" ++
    "interface A extends Tool \x7b name: \"get-user\" \x7d\ninterface B extends Tool \x7b name: \"get_user\" \x7d\n" ++
    "export function getUser() \x7b\x7d\nconst get_user = getUser;\n"

/-- Whether a file is what that text says, wherever its parts stand. -/
def isAliased : SourceFile → Bool
  | ⟨[.shape ⟨service, .interface, [.reference _ server []], .object _
        [⟨nameField, false, false, some (.literal _ (.string name)), none, _⟩,
         ⟨versionField, false, false, some (.literal _ (.string version)), none, _⟩] [], none, false, _, _⟩,
      .shape ⟨first, .interface, [.reference _ tool []], .object _
        [⟨firstField, false, false, some (.literal _ (.string firstName)), none, _⟩] [], none, false, _, _⟩,
      .shape ⟨second, .interface, [.reference _ otherTool []], .object _
        [⟨secondField, false, false, some (.literal _ (.string secondName)), none, _⟩] [], none, false, _, _⟩,
      .binding ⟨handler, .function ⟨0, 0, false⟩, true, _⟩, .binding ⟨other, .alias target, false, _⟩], []⟩ =>
    [service, server, nameField, name, versionField, version, first, tool, firstField, firstName, second, otherTool,
      secondField, secondName, handler, other, target] ==
    ["Svc", "Server", "name", "svc", "version", "1.0.0", "A", "Tool", "name", "get-user", "B", "Tool", "name",
      "get_user", "getUser", "get_user", "getUser"]
  | _ => false

theorem isAliased_aliasedText : isAliased (SourceFile.read aliasedText) = true := by decide +kernel

def aliasedGraph : Graph where
  service? := some ⟨"svc", "1.0.0", none, none⟩
  operations := [⟨"get-user", none, .object [], none, .none, some ⟨"getUser"⟩⟩,
    ⟨"get_user", none, .object [], none, .none, some ⟨"get_user"⟩⟩]
  prompts := []
  resources := []
  groups := []

theorem analysis_of_isAliased {f : SourceFile} (h : isAliased f = true) :
    (Analysis.ofFile f).problems = [] ∧ (Analysis.ofFile f).graph = aliasedGraph := by
  unfold isAliased at h
  split at h
  · simp only [beq_iff_eq, List.cons.injEq, and_true] at h
    obtain ⟨rfl, rfl, rfl, rfl, rfl, rfl, rfl, rfl, rfl, rfl, rfl, rfl, rfl, rfl, rfl, rfl, rfl⟩ := h
    exact ⟨by cbv, by cbv⟩
  · cases h

/-- The only node of its schemas is an object without fields. -/
theorem node_aliasedGraph : ∀ n, aliasedGraph.HasNode n → n = .object [] := by
  rintro n ⟨root, hroot, hn⟩
  have hempty : root = .object [] := by
    have hroots : aliasedGraph.roots = [.object [], .object []] := rfl
    rw [hroots] at hroot
    simpa using hroot
  subst hempty
  exact Schema.everywhere_object (P := (· = .object [])) rfl (by simp) n hn

theorem expressible_aliasedGraph : aliasedGraph.Expressible where
  nodes n hn := node_aliasedGraph n hn ▸ ⟨nofun, nofun, nofun, by rintro _ ⟨⟩; simp, by rintro _ ⟨⟩; simp⟩
  names := by decide
  texts := by decide
  data := nofun

theorem readBack_aliasedGraph : aliasedGraph.ReadBack where
  nodes n hn := node_aliasedGraph n hn ▸ ⟨nofun, nofun, by rintro _ ⟨⟩; simp⟩
  data := nofun

end Sample

end ServiceGraph
