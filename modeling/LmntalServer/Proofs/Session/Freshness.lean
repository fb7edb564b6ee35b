import LmntalServer.Proofs.Session.Contents

/-!
# Answers are fresh

All documents share one symbol table, which is scanned again only when a session believes that it
describes another document.  A hover nevertheless shows what a new scan of the document's own text
would show: whenever the table claims to describe an open document of the language, it is the
table of the text that this document has now.

Main definitions:

* `Contents.hover?`, `Contents.completion?`: the answers that the text of a document gives by
  itself.
* `Session.IsCurrent`: the table may be trusted for a document.

Main results:

* `Session.isCurrent_run`: after every run the table may be trusted for every document.
* `Session.answers_eq_of_contents`: the answers after every run are those of the contents alone.
-/

namespace LmntalServer

namespace Contents

/-- The hover that the contents of the document `u` give by themselves: for the word at the
position the entry of the library, or else the atom that a scan of this very text finds. -/
def hover? (library : Library) (u : Uri) (c : Contents) (p : Position) : Option Hover :=
  if isLmntal u c.language then
    match c.text.wordAt p with
    | none => none
    | some word =>
        let name := String.ofList word.text
        match library.get? name with
        | some entry => some ⟨entry.markdown, word.range⟩
        | none =>
            match (SymbolTable.scan c.text u).lookup? name with
            | some entry => some ⟨entry.markdown, word.range⟩
            | none => none
  else none

/-- The completion that the contents of the document `u` give by themselves. -/
def completion? (u : Uri) (c : Contents) : Option (List CompletionItem) :=
  if isLmntal u c.language then some c.text.completionItems else none

/-- Without the choices spelled out, a hover of the contents is one over their own table. -/
theorem hover?_of_isLmntal {u : Uri} {c : Contents} (h : isLmntal u c.language = true)
    (library : Library) (p : Position) :
    c.hover? library u p = hover library (SymbolTable.scan c.text u) c.text p := by
  unfold hover? hover describe?
  rw [if_pos h]
  cases c.text.wordAt p with
  | none => rfl
  | some word =>
      cases hentry : library.get? (String.ofList word.text) with
      | some entry => simp [hentry]
      | none =>
          cases hatom : (SymbolTable.scan c.text u).lookup? (String.ofList word.text) with
          | some entry => simp [hentry, hatom]
          | none => simp [hentry, hatom]

end Contents

namespace Session

/-! ## When the table may be trusted -/

/-- The table may be trusted for the document `u`: if it claims to describe `u`, and `u` is open
and written in the language, it is the table of the text that `u` has now.  A document that was
opened again in another language may leave an old table behind, which no hover reads. -/
def IsCurrent (s : Session) (u : Uri) : Prop :=
  s.symbols.document = some u →
    ∀ c, s.contents? u = some c → isLmntal u c.language = true →
      s.symbols = SymbolTable.scan c.text u

/-- A table that belongs to no document is older than none. -/
theorem isCurrent_of_document_eq_none {s : Session} (h : s.symbols.document = none) (u : Uri) :
    s.IsCurrent u := by
  intro hu
  rw [h] at hu
  cases hu

/-- A session is as current as another one with the same table and the same contents. -/
theorem IsCurrent.congr {s r : Session} {u : Uri} (h : s.IsCurrent u)
    (hsymbols : r.symbols = s.symbols) (hcontents : r.contents? u = s.contents? u) :
    r.IsCurrent u := by
  unfold IsCurrent
  rw [hsymbols, hcontents]
  exact h

/-- Scanning an open document makes the table right for it, and a document in another language
needs no table; so only the other documents have to be current before. -/
theorem isCurrent_index {s : Session} {d : Document}
    (hd : s.contents? d.uri = some d.contents) (h : ∀ u, u ≠ d.uri → s.IsCurrent u) (u : Uri) :
    (s.index d).IsCurrent u := by
  unfold index
  split
  · next hlmntal =>
      intro hu c hc _
      have huri : d.uri = u := by simpa using hu
      subst huri
      have hdc : d.contents = c := by
        have hcs : s.contents? d.uri = some c := hc
        rw [hd] at hcs
        exact Option.some.inj hcs
      rw [← hdc]
      rfl
  · next hother =>
      by_cases huri : u = d.uri
      · subst huri
        intro _ c hc hlmntal
        rw [hd] at hc
        cases hc
        exact absurd hlmntal hother
      · exact h u huri

/-- Putting a document in place and scanning it keeps the table current. -/
theorem isCurrent_put_index {s : Session} (h : ∀ u, s.IsCurrent u) (d : Document) (u : Uri) :
    (index { s with documents := s.documents.put d } d).IsCurrent u := by
  refine isCurrent_index ?_ (fun v hv => ?_) u
  · rw [contents?_put, if_pos rfl]
  · refine (h v).congr rfl ?_
    rw [contents?_put, if_neg (Ne.symm hv)]

/-- A change scans the document that it changes. -/
theorem isCurrent_changeDocument {s : Session} (h : ∀ u, s.IsCurrent u) (v : Uri)
    (version : Int) (changes : List Change) (u : Uri) :
    (s.changeDocument v version changes).IsCurrent u := by
  rcases changeDocument_cases s v version changes with ⟨-, hsame⟩ | ⟨d, -, -, hnew⟩
  · rw [hsame]
    exact h u
  · rw [hnew]
    exact isCurrent_put_index h _ u

/-- A document that is closed takes its table with it. -/
theorem isCurrent_closeDocument {s : Session} (h : ∀ u, s.IsCurrent u) (v u : Uri) :
    (s.closeDocument v).IsCurrent u := by
  by_cases hv : s.symbols.document = some v
  · apply isCurrent_of_document_eq_none
    simp [closeDocument, hv]
  · intro hu c hc
    have hsymbols : (s.closeDocument v).symbols = s.symbols := if_neg hv
    rw [hsymbols] at hu ⊢
    have hne : v ≠ u := fun hvu => hv (hvu ▸ hu)
    rw [contents?_closeDocument, if_neg hne] at hc
    exact h u hu c hc

/-- A scan that is made up for leaves the table of the text that is there. -/
theorem isCurrent_focus {s : Session} {d : Document} (hd : s.documents.find? d.uri = some d)
    (h : ∀ u, s.IsCurrent u) (u : Uri) : (s.focus d).IsCurrent u := by
  unfold focus
  split
  · exact h u
  · exact isCurrent_index (contents?_of_find? hd) (fun v _ => h v) u

/-- A hover or a completion finds open documents of the language only. -/
theorem find?_of_source? {s : Session} {u : Uri} {d : Document} (h : s.source? u = some d) :
    s.documents.find? u = some d ∧ d.isLmntal = true := by
  unfold source? at h
  exact Option.filter_eq_some_iff.1 h

/-- A hover may make up for a scan, and changes nothing else. -/
theorem isCurrent_hover {s : Session} (h : ∀ u, s.IsCurrent u) (v : Uri) (p : Position)
    (u : Uri) : (s.hover v p).1.IsCurrent u := by
  unfold hover
  split
  · exact h u
  · next d hd =>
      have hfind := (find?_of_source? hd).1
      have huri : d.uri = v := Documents.uri_of_find? hfind
      exact isCurrent_focus (huri ▸ hfind) h u

/-- Every step keeps the table current for all documents. -/
theorem isCurrent_step {s : Session} (h : ∀ u, s.IsCurrent u) (e : Event) (u : Uri) :
    (s.step e).IsCurrent u := by
  cases e with
  | connect => exact h u
  | ready => exact h u
  | shutdown => exact isCurrent_of_document_eq_none rfl u
  | openDocument v language version text =>
      have hnext : ∀ w, IsCurrent { s with nextId := s.nextId + 1 } w := fun w =>
        (h w).congr rfl rfl
      exact isCurrent_put_index hnext ⟨s.nextId, v, language, text, version⟩ u
  | changeDocument v version changes => exact isCurrent_changeDocument h v version changes u
  | closeDocument v => exact isCurrent_closeDocument h v u
  | hover v p => exact isCurrent_hover h v p u
  | complete v p => exact h u

/-- After every run the table is current for all documents. -/
theorem isCurrent_run {s : Session} (h : ∀ u, s.IsCurrent u) (es : List Event) (u : Uri) :
    (s.run es).IsCurrent u := by
  induction es generalizing s with
  | nil => exact h u
  | cons e es ih => exact ih (isCurrent_step h e)

/-- At the start of a session the table is empty and belongs to no document. -/
theorem isCurrent_start (library : Library) (u : Uri) : (start library).IsCurrent u :=
  isCurrent_of_document_eq_none rfl u

/-! ## Answers -/

/-- A session has a source for a document exactly if its contents are in the language. -/
theorem contents?_of_source? {s : Session} {u : Uri} {d : Document} (h : s.source? u = some d) :
    s.contents? u = some d.contents ∧ d.uri = u ∧ isLmntal u d.language = true := by
  obtain ⟨hfind, hlmntal⟩ := find?_of_source? h
  have huri : d.uri = u := Documents.uri_of_find? hfind
  refine ⟨contents?_of_find? hfind, huri, ?_⟩
  rw [← huri]
  exact hlmntal

/-- Without a source for it, no contents of a document are in the language. -/
theorem isLmntal_eq_false_of_source? {s : Session} {u : Uri} {c : Contents}
    (h : s.source? u = none) (hc : s.contents? u = some c) : isLmntal u c.language = false := by
  obtain ⟨d, hd, rfl⟩ := Option.map_eq_some_iff.1 hc
  have huri : d.uri = u := Documents.uri_of_find? hd
  unfold source? at h
  rw [hd, Option.filter_eq_none_iff] at h
  rw [← huri]
  exact Bool.eq_false_iff.2 (h d rfl)

/-- With a table that may be trusted, the hover of a session is that of the contents. -/
theorem hover_eq_of_isCurrent {s : Session} {u : Uri} (h : s.IsCurrent u) (p : Position) :
    (s.hover u p).2 = (s.contents? u).bind (·.hover? s.library u p) := by
  unfold hover
  cases hsource : s.source? u with
  | none =>
      cases hc : s.contents? u with
      | none => rfl
      | some c =>
          have hother := isLmntal_eq_false_of_source? hsource hc
          simp [Contents.hover?, hother]
  | some d =>
      obtain ⟨hc, huri, hlmntal⟩ := contents?_of_source? hsource
      have hsymbols : (s.focus d).symbols = SymbolTable.scan d.text u := by
        unfold focus
        split
        · next hdoc => exact h (huri ▸ hdoc) _ hc hlmntal
        · have hd : d.isLmntal = true := by
            unfold Document.isLmntal
            rw [huri]
            exact hlmntal
          rw [index, if_pos hd, ← huri]
      rw [hc, Option.bind_some, Contents.hover?_of_isLmntal hlmntal]
      simp only [hsymbols, library_focus]
      rfl

/-- A completion depends on the contents of its document only. -/
theorem complete_eq (s : Session) (u : Uri) (p : Position) :
    s.complete u p = (s.contents? u).bind (·.completion? u) := by
  unfold complete
  cases hsource : s.source? u with
  | none =>
      cases hc : s.contents? u with
      | none => rfl
      | some c =>
          have hother := isLmntal_eq_false_of_source? hsource hc
          simp [Contents.completion?, hother]
  | some d =>
      obtain ⟨hc, -, hlmntal⟩ := contents?_of_source? hsource
      rw [hc, Option.bind_some, Contents.completion?]
      exact (if_pos hlmntal).symm

/-- After every run the answers about a document are those that its contents give by themselves,
whatever other documents did to the symbol table. -/
theorem answers_eq_of_contents (library : Library) (es : List Event) (u : Uri) (p : Position) :
    let s := (start library).run es
    (s.handle (.hover u p)).2 = .hover ((s.contents? u).bind (·.hover? library u p)) ∧
      (s.handle (.complete u p)).2 = .completion ((s.contents? u).bind (·.completion? u)) := by
  intro s
  have hcurrent : s.IsCurrent u := isCurrent_run (isCurrent_start library) es u
  have hlibrary : s.library = library := library_run (start library) es
  constructor
  · have hhover := hover_eq_of_isCurrent hcurrent p
    rw [hlibrary] at hhover
    exact congrArg Answer.hover hhover
  · exact congrArg Answer.completion (complete_eq s u p)

end Session
end LmntalServer
