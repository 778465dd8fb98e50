import ServiceGraph.Binding.Resolution
import ServiceGraph.Proofs.Keyed

/-!
What is found in a scope.

Binding sees of a scope what it finds under a name (`Scope.lookup`). Top-level names are found wherever
they stand, as long as no two bindings have one name, and the members of the default export
come from a single item: another order of the items finds the same
(`Scope.lookup_of_perm`), and binds every descriptor to the same implementation.
-/

namespace ServiceGraph

open Syntax

/-- The default export that an item is. -/
def Syntax.Item.defaultExport? : Item → Option DefaultExport
  | .defaultExport d => some d
  | _ => none

/-- The default exports of a file. -/
def Syntax.SourceFile.defaultExports (f : SourceFile) : List DefaultExport :=
  f.items.filterMap Item.defaultExport?

namespace Syntax.SourceFile

variable {f g : SourceFile}

theorem bindings_of_perm (hp : f.items.Perm g.items) : f.bindings.Perm g.bindings :=
  hp.filterMap _

theorem defaultExport?_of_perm (hp : f.items.Perm g.items) (hone : f.defaultExports.length ≤ 1) :
    g.defaultExport? = f.defaultExport? := by
  have hfirst : ∀ file : SourceFile,
      file.defaultExport? = file.items.findSome? Item.defaultExport? := fun _ => rfl
  rw [hfirst, hfirst]
  refine (Keyed.findSome?_of_perm hp fun a ha b hb x hx y hy => ?_).symm
  have hx' : x ∈ f.defaultExports := List.mem_filterMap.mpr ⟨a, ha, hx⟩
  have hy' : y ∈ f.defaultExports := List.mem_filterMap.mpr ⟨b, hb, hy⟩
  match hall : f.defaultExports with
  | [] => simp [hall] at hx'
  | [only] =>
    rw [hall, List.mem_singleton] at hx' hy'
    rw [hx', hy']
  | _ :: _ :: _ => simp [hall] at hone

end Syntax.SourceFile

namespace Scope

theorem follow_congr {bindings others : List Binding}
    (h : ∀ name, binding? others name = binding? bindings name) :
    ∀ (steps : Nat) (name : String), follow others steps name = follow bindings steps name
  | 0, _ => rfl
  | steps + 1, name => by
      rw [follow, follow, h]
      cases binding? bindings name with
      | none => rfl
      | some b =>
        dsimp only
        cases b.value <;> simp only [follow_congr h steps]

theorem resolve_congr {bindings others : List Binding}
    (h : ∀ name, binding? others name = binding? bindings name) (name : String) :
    resolve others name = resolve bindings name := by
  rw [resolve, resolve, follow_congr h]

variable {f g : SourceFile}

/-- Another order of the items finds the same implementations. -/
theorem lookup_of_perm (hp : f.items.Perm g.items) (hn : (f.bindings.map (·.name)).Nodup)
    (hone : f.defaultExports.length ≤ 1) : (ofFile g).lookup = (ofFile f).lookup := by
  have hbinding : ∀ name, binding? g.bindings name = binding? f.bindings name := fun name =>
    (Keyed.find?_of_perm (SourceFile.bindings_of_perm hp) hn name).symm
  have hresolve : resolve g.bindings = resolve f.bindings := funext (resolve_congr hbinding)
  have hmembers : (ofFile g).members = (ofFile f).members := by
    simp only [ofFile, defaultMembers, SourceFile.defaultExport?_of_perm hp hone, hresolve]
  funext name
  have htop : (ofFile g).topLevel? name = (ofFile f).topLevel? name := by
    simp only [topLevel?, ofFile, hbinding, hresolve]
  have hmember : (ofFile g).member? name = (ofFile f).member? name := by
    simp only [member?, hmembers]
    simp only [ofFile, hresolve]
  rw [lookup, lookup, htop, hmember]

section Bind

variable {scope scope' : Scope} (h : scope'.lookup = scope.lookup)

include h

theorem ofName_congr (name : String) (takesParameters : Bool) :
    Resolution.ofName scope' name takesParameters = Resolution.ofName scope name takesParameters := by
  rw [Resolution.ofName, Resolution.ofName, h]

theorem bindOperation_congr : scope'.bindOperation = scope.bindOperation := by
  funext l
  simp only [bindOperation, ofName_congr h]

theorem bindPrompt_congr : scope'.bindPrompt = scope.bindPrompt := by
  funext l
  simp only [bindPrompt, ofName_congr h]

theorem bindResource_congr : scope'.bindResource = scope.bindResource := by
  funext l
  simp only [bindResource, ofName_congr h]

end Bind

end Scope

/-! ## Different implementations -/

namespace Resolution

/-- What is kept of several implementations: those that were kept before and some of the others, and of what
refers to the same thing one. -/
theorem foldl_differing :
    ∀ (found kept : List Implementation),
      let last := found.foldl
        (fun kept i => if kept.any (·.identity == i.identity) then kept else kept ++ [i]) kept
      (∀ i ∈ last, i ∈ kept ∨ i ∈ found) ∧
        ∀ i, i ∈ kept ∨ i ∈ found → ∃ k ∈ last, k.identity = i.identity
  | [], kept => ⟨fun _ hi => .inl hi, fun i hi => ⟨i, hi.resolve_right (by simp), rfl⟩⟩
  | j :: rest, kept => by
      rw [List.foldl_cons]
      split
      · rename_i hknown
        obtain ⟨hfrom, hkept⟩ := foldl_differing rest kept
        refine ⟨fun i hi => (hfrom i hi).imp_right (List.mem_cons_of_mem _), fun i hi => ?_⟩
        rcases hi with hi | hi
        · exact hkept i (.inl hi)
        · rcases List.mem_cons.mp hi with rfl | hi
          · obtain ⟨k, hk, hsame⟩ := List.any_eq_true.mp hknown
            obtain ⟨l, hl, hl'⟩ := hkept k (.inl hk)
            exact ⟨l, hl, hl'.trans (by simpa using hsame)⟩
          · exact hkept i (.inr hi)
      · obtain ⟨hfrom, hkept⟩ := foldl_differing rest (kept ++ [j])
        refine ⟨fun i hi => ?_, fun i hi => hkept i ?_⟩
        · rcases hfrom i hi with hi | hi
          · refine (List.mem_append.mp hi).imp_right fun hi => ?_
            obtain rfl := List.mem_singleton.mp hi
            exact List.mem_cons_self
          · exact .inr (List.mem_cons_of_mem _ hi)
        · rcases hi with hi | hi
          · exact .inl (List.mem_append_left _ hi)
          · exact (List.mem_cons.mp hi).imp_left fun hi => by simp [hi]

theorem mem_of_mem_differing {found : List Implementation} {i : Implementation}
    (hi : i ∈ differing found) : i ∈ found :=
  ((foldl_differing found []).1 i hi).resolve_left (by simp)

/-- Of what refers to the same thing one is kept. -/
theorem exists_mem_differing {found : List Implementation} {i : Implementation} (hi : i ∈ found) :
    ∃ k ∈ differing found, k.identity = i.identity :=
  (foldl_differing found []).2 i (.inr hi)

/-- If all refer to the same thing, the first is kept. -/
theorem differing_of_same {i : Implementation} {rest : List Implementation}
    (h : ∀ k ∈ rest, k.identity = i.identity) : differing (i :: rest) = [i] := by
  suffices hkept : ∀ rest : List Implementation, (∀ k ∈ rest, k.identity = i.identity) →
      rest.foldl (fun kept i => if kept.any (·.identity == i.identity) then kept else kept ++ [i])
        [i] = [i] from hkept rest h
  intro rest hrest
  induction rest with
  | nil => rfl
  | cons k rest ih =>
    rw [List.foldl_cons, if_pos (by simp [hrest k List.mem_cons_self])]
    exact ih fun l hl => hrest l (List.mem_cons_of_mem _ hl)

end Resolution

end ServiceGraph
