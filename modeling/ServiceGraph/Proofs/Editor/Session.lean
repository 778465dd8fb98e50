import ServiceGraph.Editor.Session
import ServiceGraph.Proofs.Keyed

/-!
What a session knows of a document after any run of requests.

A request may edit a document (`Request.edit?`): opening and changing give it a text, closing takes it
away, and a change that brings no text does nothing, no more than questions do. After a run, what the
session holds for a document and what was published of it last are those of the document's own last edit
(`Session.run_spec`): text, analysis and problems never belong to different versions.

One request is looked at first: it does to the edited document what the edit says
(`handle_edited`) and leaves every other document alone (`handle_frame`). The run follows by induction on
the requests, from whatever session it starts in (`run_of_lastEdit?`).
-/

namespace ServiceGraph.Editor

/-! ## 1. Edits -/

/-- A change of one document: its new text, or none if it is closed. -/
structure Edit where
  address : String
  text? : Option String
deriving Repr, DecidableEq

/-- The edit that a request makes. -/
def Request.edit? : Request → Option Edit
  | .openDocument address text => some ⟨address, some text⟩
  | .change address texts => texts.getLast?.map fun text => ⟨address, some text⟩
  | .close address => some ⟨address, none⟩
  | .start | .started | .stop | .hover _ _ | .complete _ _ => none

/-- The last edit of a document: its text after the requests, or none if it was closed. -/
def lastEdit? (address : String) (requests : List Request) : Option (Option String) :=
  ((requests.filterMap Request.edit?).reverse.find? (·.address == address)).map (·.text?)

/-- The problems of a document that were published last. -/
def lastPublished? (address : String) (sent : List Notification) : Option (List Problem) :=
  sent.reverse.findSome? fun
    | .problems other all => if other = address then some all else none
    | .ready => none

theorem lastPublished?_append (address : String) (sent more : List Notification) :
    lastPublished? address (sent ++ more) =
      (lastPublished? address more).or (lastPublished? address sent) := by
  simp [lastPublished?, List.findSome?_append]

theorem lastEdit?_cons (address : String) (r : Request) (rest : List Request) :
    lastEdit? address (r :: rest) =
      (lastEdit? address rest).or
        (r.edit?.bind fun e => if e.address = address then some e.text? else none) := by
  cases h : r.edit? with
  | none => simp [lastEdit?, h]
  | some e =>
    by_cases hsame : e.address = address
    · simp [lastEdit?, h, hsame]
    · simp [lastEdit?, h, hsame]

/-! ## 2. Documents of a session -/

namespace Session

variable (s : Session) {address other : String}

theorem get?_erase_self (address : String) : (s.erase address).get? address = none := by
  rw [get?, erase, List.lookup_eq_none_iff]
  intro entry hentry
  have hother : entry.1 ≠ address := by simpa using (List.mem_filter.mp hentry).2
  exact bne_iff_ne.mpr hother.symm

theorem get?_erase_of_ne (h : other ≠ address) : (s.erase address).get? other = s.get? other := by
  unfold get? erase
  dsimp only
  induction s.documents with
  | nil => rfl
  | cons entry rest ih =>
    obtain ⟨key, d⟩ := entry
    by_cases hkey : key = address
    · have hskip : (other == key) = false := beq_false_of_ne (hkey ▸ h)
      rw [List.filter_cons_of_neg (by simp [hkey]), ih, List.lookup_cons, hskip]
    · rw [List.filter_cons_of_pos (by simp [hkey]), List.lookup_cons, List.lookup_cons, ih]

theorem get?_insert_self (address : String) (d : Document) :
    (s.insert address d).get? address = some d := by
  simp [get?, insert]

theorem get?_insert_of_ne (h : other ≠ address) (d : Document) :
    (s.insert address d).get? other = s.get? other := by
  have hskip : (other == address) = false := beq_false_of_ne h
  rw [← get?_erase_of_ne s h]
  simp only [get?, insert, List.lookup_cons, hskip]

/-! ## 3. One request -/

/-- The document that an edit leaves behind. -/
def documentOf (pathOf : String → String) (e : Edit) : Option Document :=
  e.text?.map (Document.ofText (pathOf e.address))

/-- A request without an edit changes no session and publishes nothing of any document. -/
theorem handle_of_edit?_eq_none {r : Request} (h : r.edit? = none) :
    (s.handle r).1 = s ∧ ∀ address, lastPublished? address (s.handle r).2.notifications = none := by
  cases r with
  | start | started | stop => exact ⟨rfl, fun _ => rfl⟩
  | openDocument address text => cases h
  | close address => cases h
  | change address texts =>
    rw [Request.edit?, Option.map_eq_none_iff] at h
    rw [handle, h]
    exact ⟨rfl, fun _ => rfl⟩
  | hover address p =>
    simp only [handle]
    cases (s.get? address).bind (·.hover p) <;> exact ⟨rfl, fun _ => rfl⟩
  | complete address p =>
    simp only [handle]
    cases s.get? address with
    | none => exact ⟨rfl, fun _ => rfl⟩
    | some d => cases h : d.completions? p <;> simp [h, lastPublished?]

/-- A request with an edit either puts the edited document in and publishes its problems, or closes it and
publishes that there are none. -/
theorem handle_eq_of_edit {r : Request} {e : Edit} (h : r.edit? = some e) :
    (∃ text, e.text? = some text ∧
      s.handle r = (s.insert e.address (.ofText (s.pathOf e.address) text),
        ⟨.nothing, [.problems e.address (Document.ofText (s.pathOf e.address) text).problems]⟩)) ∨
    (e.text? = none ∧ s.handle r = (s.erase e.address, ⟨.nothing, [.problems e.address []]⟩)) := by
  cases r with
  | openDocument address text =>
    cases h
    exact .inl ⟨text, rfl, rfl⟩
  | close address =>
    cases h
    exact .inr ⟨rfl, rfl⟩
  | change address texts =>
    obtain ⟨text, hlast, rfl⟩ := Option.map_eq_some_iff.mp h
    refine .inl ⟨text, rfl, ?_⟩
    simp only [handle, hlast]
    rfl
  | start | started | stop => cases h
  | hover address p => cases h
  | complete address p => cases h

/-- How paths are read off addresses stays the same. -/
theorem pathOf_handle (r : Request) : (s.handle r).1.pathOf = s.pathOf := by
  cases hedit : r.edit? with
  | none => rw [(handle_of_edit?_eq_none s hedit).1]
  | some e => rcases handle_eq_of_edit s hedit with ⟨text, -, heq⟩ | ⟨-, heq⟩ <;> rw [heq] <;> rfl

/-- The edited document is what the edit leaves behind, and its problems are published. -/
theorem handle_edited {r : Request} {e : Edit} (h : r.edit? = some e) :
    (s.handle r).1.get? e.address = documentOf s.pathOf e ∧
      lastPublished? e.address (s.handle r).2.notifications =
        some (((documentOf s.pathOf e).map Document.problems).getD []) := by
  rcases handle_eq_of_edit s h with ⟨text, htext, heq⟩ | ⟨htext, heq⟩
  · simp [heq, documentOf, htext, get?_insert_self, lastPublished?]
  · simp [heq, documentOf, htext, get?_erase_self, lastPublished?]

/-- A request that does not edit a document neither changes its entry nor publishes anything of it. -/
theorem handle_frame {r : Request} (h : ∀ e ∈ r.edit?, e.address ≠ other) :
    (s.handle r).1.get? other = s.get? other ∧
      lastPublished? other (s.handle r).2.notifications = none := by
  cases hedit : r.edit? with
  | none =>
    obtain ⟨hsame, hsilent⟩ := handle_of_edit?_eq_none s hedit
    exact ⟨by rw [hsame], hsilent other⟩
  | some e =>
    have hne : e.address ≠ other := h e hedit
    rcases handle_eq_of_edit s hedit with ⟨text, -, heq⟩ | ⟨-, heq⟩
    · simp [heq, get?_insert_of_ne s hne.symm, lastPublished?, hne]
    · simp [heq, get?_erase_of_ne s hne.symm, lastPublished?, hne]

/-! ## 4. Runs -/

/-- Handles requests one after another, and gathers what is sent. -/
def run (s : Session) : List Request → Session × List Notification
  | [] => (s, [])
  | r :: rest =>
    let (next, reply) := s.handle r
    let (last, more) := next.run rest
    (last, reply.notifications ++ more)

theorem run_cons (r : Request) (rest : List Request) :
    s.run (r :: rest) = (((s.handle r).1.run rest).1,
      (s.handle r).2.notifications ++ ((s.handle r).1.run rest).2) := rfl

/-- After a run a document is as its last edit left it, or as it was before the run. -/
theorem run_of_lastEdit? (address : String) : ∀ (requests : List Request) (s : Session),
    (s.run requests).1.get? address =
        ((lastEdit? address requests).map fun text? => documentOf s.pathOf ⟨address, text?⟩).getD
          (s.get? address) ∧
      lastPublished? address (s.run requests).2 =
        (lastEdit? address requests).map fun text? =>
          ((documentOf s.pathOf ⟨address, text?⟩).map Document.problems).getD []
  | [], s => ⟨rfl, rfl⟩
  | r :: rest, s => by
      obtain ⟨hentry, hsent⟩ := run_of_lastEdit? address rest (s.handle r).1
      rw [pathOf_handle] at hentry hsent
      rw [run_cons, lastEdit?_cons, lastPublished?_append, hentry, hsent]
      cases hlast : lastEdit? address rest with
      | some text? => exact ⟨rfl, rfl⟩
      | none =>
        by_cases hown : ∃ e, r.edit? = some e ∧ e.address = address
        · obtain ⟨⟨_, text?⟩, hedit, rfl⟩ := hown
          obtain ⟨hdocument, hproblems⟩ := handle_edited s hedit
          simpa [hedit] using ⟨hdocument, hproblems⟩
        · have hother : ∀ e ∈ r.edit?, e.address ≠ address := fun e he heq => hown ⟨e, he, heq⟩
          have hnone : (r.edit?.bind fun e =>
              if e.address = address then some e.text? else none) = none := by
            rw [Option.bind_eq_none_iff]
            intro e he
            rw [if_neg (hother e he)]
          obtain ⟨hsame, hsilent⟩ := handle_frame s hother
          simpa [hnone] using ⟨hsame, hsilent⟩

/-- **What a session knows of a document is a function of the document's own last edit.** A document is open
if that edit gave it a text: then the session holds that text and its analysis, under the document's path,
and the problems published last are those of this analysis at their places in this text. After
a close none are published, and a request about one document concerns no other one. -/
theorem run_spec (pathOf : String → String) (requests : List Request) (address : String) :
    let after := (empty pathOf).run requests
    ((after.1.get? address).isSome ↔ ∃ text, lastEdit? address requests = some (some text)) ∧
    (∀ text, lastEdit? address requests = some (some text) →
      after.1.get? address = some ⟨pathOf address, text, Analysis.ofText text⟩ ∧
      lastPublished? address after.2 =
        some ((Analysis.ofText text).diagnostics.map (Problem.ofDiagnostic text.toList))) ∧
    (lastEdit? address requests = some none → lastPublished? address after.2 = some []) ∧
    (lastEdit? address requests = none → lastPublished? address after.2 = none) ∧
    ∀ r : Request, (∀ e ∈ r.edit?, e.address ≠ address) →
      (after.1.handle r).1.get? address = after.1.get? address ∧
        lastPublished? address (after.2 ++ (after.1.handle r).2.notifications) =
          lastPublished? address after.2 := by
  intro after
  obtain ⟨hentry, hsent⟩ := run_of_lastEdit? address requests (empty pathOf)
  refine ⟨?_, ?_, ?_, ?_, ?_⟩
  · rw [hentry]
    cases lastEdit? address requests with
    | none => simp [empty, get?]
    | some text? => cases text? <;> simp [documentOf]
  · intro text hlast
    rw [hlast] at hentry hsent
    exact ⟨hentry, hsent⟩
  · intro hlast
    rw [hlast] at hsent
    exact hsent
  · intro hlast
    rw [hlast] at hsent
    exact hsent
  · intro r hother
    obtain ⟨hsame, hsilent⟩ := handle_frame after.1 hother
    exact ⟨hsame, by rw [lastPublished?_append, hsilent, Option.none_or]⟩

end Session

/-! ## A run on two documents -/

namespace Sample

/-- One document is changed twice, the second time to the last of two texts; the other one is closed. -/
def visits : List Request :=
  [.openDocument "left" "type A = string", .openDocument "right" "type B = number",
    .change "left" ["type A = B", "type A = boolean"], .close "right", .change "left" [],
    .hover "left" ⟨0, 5⟩]

theorem visits_left_right :
    lastEdit? "left" visits = some (some "type A = boolean") ∧
    lastEdit? "right" visits = some none ∧
    ((Session.empty.run visits).1.get? "left").isSome ∧
    lastPublished? "right" (Session.empty.run visits).2 = some [] := by
  have hleft : lastEdit? "left" visits = some (some "type A = boolean") := by decide
  have hright : lastEdit? "right" visits = some none := by decide
  exact ⟨hleft, hright, (Session.run_spec id visits "left").1.mpr ⟨_, hleft⟩,
    (Session.run_spec id visits "right").2.2.1 hright⟩

end Sample

end ServiceGraph.Editor
