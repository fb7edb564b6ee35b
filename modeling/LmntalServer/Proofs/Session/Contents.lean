import LmntalServer.Session.Basic

/-!
# The contents of a document over a run

What a client has put into an open document is its language, its version and its text.  Each event
changes the contents of a document in a way that depends on these contents alone, and not on the
other documents, on the symbol table or on the identifiers that the session gives out.

Main definitions:

* `Contents`, `Session.contents?`: what a client has put into a document.
* `Event.act`: what an event makes of the contents of one document.

Main results:

* `Session.changeDocument_cases`: changes that are refused and changes that are accepted.
* `Session.contents?_step`: a session changes the contents of each document as `Event.act` does.
* `Session.contents?_run`: the same for whole runs.
-/

namespace LmntalServer

/-- What a client has put into a document: everything but the identifier that the session gives
it. -/
structure Contents where
  language : String
  version : Int
  text : Text
deriving DecidableEq, Repr, Inhabited

namespace Contents

/-- The contents after some changes, which do nothing unless they carry a newer version. -/
def edit (c : Contents) (changes : List Change) (version : Int) : Contents :=
  if c.version < version then { c with version := version, text := c.text.edit changes } else c

/-- A newer version is taken with its changes. -/
theorem edit_of_newer {c : Contents} {version : Int} (h : c.version < version)
    (changes : List Change) :
    c.edit changes version = { c with version := version, text := c.text.edit changes } :=
  if_pos h

/-- A version that is not newer changes nothing. -/
theorem edit_of_stale {c : Contents} {version : Int} (h : version ≤ c.version)
    (changes : List Change) : c.edit changes version = c :=
  if_neg (Int.not_lt.2 h)

end Contents

namespace Document

/-- What the client has put into a document. -/
def contents (d : Document) : Contents :=
  ⟨d.language, d.version, d.text⟩

/-- A document after some changes and with their version, whatever version it had. -/
def revised (d : Document) (changes : List Change) (version : Int) : Document :=
  { d with text := d.text.edit changes, version := version }

end Document

namespace Event

/-- What an event makes of the contents of the document `u`, which are absent while it is not
open. -/
def act (u : Uri) : Event → Option Contents → Option Contents
  | shutdown, _ => none
  | openDocument v language version text, c =>
      if v = u then some ⟨language, version, text⟩ else c
  | changeDocument v version changes, c =>
      if v = u then c.map (·.edit changes version) else c
  | closeDocument v, c => if v = u then none else c
  | _, c => c

end Event

namespace Session

/-- The contents of the open document of a URI. -/
def contents? (s : Session) (u : Uri) : Option Contents :=
  (s.documents.find? u).map Document.contents

/-- The contents of an open document are its language, its version and its text. -/
theorem contents?_of_find? {s : Session} {u : Uri} {d : Document}
    (h : s.documents.find? u = some d) : s.contents? u = some d.contents := by
  rw [contents?, h, Option.map_some]

/-! ## Single operations -/

/-- A scan leaves the contents of all documents as they are. -/
@[simp]
theorem contents?_index (s : Session) (d : Document) (u : Uri) :
    (s.index d).contents? u = s.contents? u := by
  unfold contents?
  rw [documents_index]

/-- A document that is put in place gives the contents of its URI. -/
theorem contents?_put (s : Session) (d : Document) (u : Uri) :
    contents? { s with documents := s.documents.put d } u =
      if d.uri = u then some d.contents else s.contents? u := by
  unfold contents?
  by_cases h : d.uri = u
  · subst h
    rw [if_pos rfl, Documents.find?_put_self]
    rfl
  · rw [if_neg h, Documents.find?_put_of_ne h]

/-- The document that was opened is found under its URI, and the others as before. -/
theorem contents?_openDocument (s : Session) (v u : Uri) (language : String) (version : Int)
    (text : Text) :
    (s.openDocument v language version text).contents? u =
      if v = u then some ⟨language, version, text⟩ else s.contents? u := by
  unfold openDocument
  rw [contents?_index]
  exact contents?_put s ⟨s.nextId, v, language, text, version⟩ u

/-- A change without a newer version than that of its document, or without a document, leaves the
whole session as it is. -/
theorem changeDocument_of_stale {s : Session} {u : Uri} {version : Int}
    (h : ∀ c, s.contents? u = some c → version ≤ c.version) (changes : List Change) :
    s.changeDocument u version changes = s := by
  unfold changeDocument
  cases hd : s.documents.find? u with
  | none => rfl
  | some d =>
      have hle : version ≤ d.version := h d.contents (contents?_of_find? hd)
      simp only [Document.edit_of_le hle]

/-- A change with a newer version replaces the document and scans it. -/
theorem changeDocument_of_newer {s : Session} {u : Uri} {version : Int} {d : Document}
    (hd : s.documents.find? u = some d) (h : d.version < version) (changes : List Change) :
    s.changeDocument u version changes =
      index { s with documents := s.documents.put (d.revised changes version) }
        (d.revised changes version) := by
  unfold changeDocument
  simp only [hd, Document.edit_of_lt h]
  rfl

/-- A change is refused and does nothing, or it is accepted by an open document. -/
theorem changeDocument_cases (s : Session) (u : Uri) (version : Int) (changes : List Change) :
    ((∀ c, s.contents? u = some c → version ≤ c.version) ∧
        s.changeDocument u version changes = s) ∨
      ∃ d, s.documents.find? u = some d ∧ d.version < version ∧
        s.changeDocument u version changes =
          index { s with documents := s.documents.put (d.revised changes version) }
            (d.revised changes version) := by
  by_cases hnew : ∃ d, s.documents.find? u = some d ∧ d.version < version
  · obtain ⟨d, hd, hlt⟩ := hnew
    exact Or.inr ⟨d, hd, hlt, changeDocument_of_newer hd hlt changes⟩
  · have hstale : ∀ c, s.contents? u = some c → version ≤ c.version := by
      intro c hc
      obtain ⟨d, hd, rfl⟩ := Option.map_eq_some_iff.1 hc
      exact Int.not_lt.1 fun hlt => hnew ⟨d, hd, hlt⟩
    exact Or.inl ⟨hstale, changeDocument_of_stale hstale changes⟩

/-- A change reaches the contents of its own document only. -/
theorem contents?_changeDocument (s : Session) (v u : Uri) (version : Int)
    (changes : List Change) :
    (s.changeDocument v version changes).contents? u =
      if v = u then (s.contents? u).map (·.edit changes version) else s.contents? u := by
  rcases changeDocument_cases s v version changes with ⟨hstale, hsame⟩ | ⟨d, hd, hlt, hnew⟩
  · rw [hsame]
    by_cases h : v = u
    · subst h
      rw [if_pos rfl]
      cases hc : s.contents? v with
      | none => rfl
      | some c => rw [Option.map_some, Contents.edit_of_stale (hstale c hc)]
    · rw [if_neg h]
  · have huri : d.uri = v := Documents.uri_of_find? hd
    rw [hnew, contents?_index, contents?_put, show (d.revised changes version).uri = v from huri]
    by_cases h : v = u
    · subst h
      rw [if_pos rfl, if_pos rfl, contents?_of_find? hd, Option.map_some,
        Contents.edit_of_newer (show d.contents.version < version from hlt)]
      rfl
    · rw [if_neg h, if_neg h]

/-- Closing a document forgets its contents only. -/
theorem contents?_closeDocument (s : Session) (v u : Uri) :
    (s.closeDocument v).contents? u = if v = u then none else s.contents? u := by
  unfold contents? closeDocument
  by_cases h : v = u
  · subst h
    rw [if_pos rfl, Documents.find?_remove_self]
    rfl
  · rw [if_neg h, Documents.find?_remove_of_ne h]

/-- A hover leaves the documents as they are, whether or not it scans one of them. -/
@[simp]
theorem documents_focus (s : Session) (d : Document) : (s.focus d).documents = s.documents := by
  unfold focus
  split
  · rfl
  · exact documents_index s d

@[simp]
theorem library_focus (s : Session) (d : Document) : (s.focus d).library = s.library := by
  unfold focus
  split
  · rfl
  · exact library_index s d

/-- A hover leaves the documents alone. -/
@[simp]
theorem documents_hover (s : Session) (u : Uri) (p : Position) :
    (s.hover u p).1.documents = s.documents := by
  unfold hover
  split
  · rfl
  · exact documents_focus s _

/-! ## Steps and runs -/

/-- A session changes the contents of each document as the event alone says. -/
theorem contents?_step (s : Session) (e : Event) (u : Uri) :
    (s.step e).contents? u = e.act u (s.contents? u) := by
  cases e with
  | connect => rfl
  | ready => rfl
  | shutdown => rfl
  | openDocument v language version text =>
      exact contents?_openDocument s v u language version text
  | changeDocument v version changes => exact contents?_changeDocument s v u version changes
  | closeDocument v => exact contents?_closeDocument s v u
  | hover v p =>
      change ((s.hover v p).1.documents.find? u).map Document.contents = s.contents? u
      rw [documents_hover]
      rfl
  | complete v p => rfl

/-- The contents of a document after a run are those that its events make one after another. -/
theorem contents?_run (s : Session) (es : List Event) (u : Uri) :
    (s.run es).contents? u = es.foldl (fun c e => e.act u c) (s.contents? u) := by
  induction es generalizing s with
  | nil => rfl
  | cons e es ih => rw [run_cons, ih, contents?_step, List.foldl_cons]

@[simp]
theorem contents?_start (library : Library) (u : Uri) : (start library).contents? u = none :=
  rfl

/-- The library never changes. -/
@[simp]
theorem library_step (s : Session) (e : Event) : (s.step e).library = s.library := by
  cases e with
  | openDocument => exact library_index _ _
  | changeDocument v version changes =>
      change (s.changeDocument v version changes).library = s.library
      rcases changeDocument_cases s v version changes with ⟨-, hsame⟩ | ⟨d, -, -, hnew⟩
      · rw [hsame]
      · rw [hnew, library_index]
  | hover v p =>
      simp only [step, handle, hover]
      split
      · rfl
      · exact library_focus s _
  | _ => rfl

/-- No event changes the library. -/
@[simp]
theorem library_run (s : Session) (es : List Event) : (s.run es).library = s.library := by
  induction es generalizing s with
  | nil => rfl
  | cons e es ih => rw [run_cons, ih, library_step]

end Session
end LmntalServer
