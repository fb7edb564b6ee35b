import LmntalServer.Completion
import LmntalServer.Document
import LmntalServer.Hover

/-!
# Sessions

A session serves one client.  It holds the open documents and one symbol table, that of the
document that was scanned last.  Opening and changing a document scan it if it is written in the
language; a hover over another document than the scanned one scans that document first.  Closing
the scanned document clears the table, and a shutdown forgets the table and all documents.

Main definitions:

* `Session`: the state of a session.
* `Session.openDocument`, `Session.changeDocument`, `Session.closeDocument`, `Session.hover`,
  `Session.complete`, `Session.shutdown`: what a client may ask for.
* `Event`, `Session.handle`, `Session.run`: whole runs.
-/

namespace LmntalServer

/-- The state of a session: the library, the open documents, the symbol table of the document
scanned last, and the identifier of the next document to be opened. -/
structure Session where
  library : Library
  documents : Documents
  symbols : SymbolTable
  nextId : UInt32
deriving Inhabited

namespace Session

/-- A new session. -/
def start (library : Library) : Session :=
  ⟨library, Documents.empty, SymbolTable.empty, 0⟩

/-- Scans a document if it is written in the language. -/
def index (s : Session) (d : Document) : Session :=
  if d.isLmntal then { s with symbols := SymbolTable.scan d.text d.uri } else s

@[simp]
theorem library_index (s : Session) (d : Document) : (s.index d).library = s.library := by
  unfold index
  split <;> rfl

@[simp]
theorem documents_index (s : Session) (d : Document) : (s.index d).documents = s.documents := by
  unfold index
  split <;> rfl

@[simp]
theorem nextId_index (s : Session) (d : Document) : (s.index d).nextId = s.nextId := by
  unfold index
  split <;> rfl

/-! ## Documents -/

/-- Opens a document, also in place of one of the same URI. -/
def openDocument (s : Session) (uri : Uri) (language : String) (version : Int) (text : Text) :
    Session :=
  let d : Document := ⟨s.nextId, uri, language, text, version⟩
  index { s with documents := s.documents.put d, nextId := s.nextId + 1 } d

/-- Changes an open document.  Without such a document, or with a version that is not newer,
nothing happens. -/
def changeDocument (s : Session) (uri : Uri) (version : Int) (changes : List Change) : Session :=
  match s.documents.find? uri with
  | none => s
  | some d =>
      match d.edit changes version with
      | .error _ => s
      | .ok d => index { s with documents := s.documents.put d } d

/-- Closes a document.  The symbol table is cleared if it is that of this document. -/
def closeDocument (s : Session) (uri : Uri) : Session :=
  { s with
    documents := s.documents.remove uri
    symbols := if s.symbols.document = some uri then SymbolTable.empty else s.symbols }

/-- Forgets the symbol table and all documents. -/
def shutdown (s : Session) : Session :=
  { s with documents := Documents.empty, symbols := SymbolTable.empty }

/-! ## Questions -/

/-- The open document of a URI, if it is written in the language. -/
def source? (s : Session) (uri : Uri) : Option Document :=
  (s.documents.find? uri).filter Document.isLmntal

/-- Scans a document unless it was scanned last. -/
def focus (s : Session) (d : Document) : Session :=
  if s.symbols.document = some d.uri then s else s.index d

/-- The hover at a position of a document, with the session that has this document scanned. -/
def hover (s : Session) (uri : Uri) (p : Position) : Session × Option Hover :=
  match s.source? uri with
  | none => (s, none)
  | some d =>
      let s := s.focus d
      (s, LmntalServer.hover s.library s.symbols d.text p)

/-- The completion items of a document; the position does not matter. -/
def complete (s : Session) (uri : Uri) (_ : Position) : Option (List CompletionItem) :=
  (s.source? uri).map fun d => d.text.completionItems

/-! ## Runs -/

end Session

/-- What a client may send to a session. -/
inductive Event where
  | connect
  | ready
  | shutdown
  | openDocument (uri : Uri) (language : String) (version : Int) (text : Text)
  | changeDocument (uri : Uri) (version : Int) (changes : List Change)
  | closeDocument (uri : Uri)
  | hover (uri : Uri) (p : Position)
  | complete (uri : Uri) (p : Position)
deriving DecidableEq

/-- What a session answers to an event. -/
inductive Answer where
  | silence
  | greeting
  | announcement
  | farewell
  | hover (h : Option Hover)
  | completion (items : Option (List CompletionItem))
deriving DecidableEq, Repr

namespace Session

/-- The session after an event, and the answer. -/
def handle (s : Session) : Event → Session × Answer
  | .connect => (s, .greeting)
  | .ready => (s, .announcement)
  | .shutdown => (s.shutdown, .farewell)
  | .openDocument uri language version text =>
      (s.openDocument uri language version text, .silence)
  | .changeDocument uri version changes => (s.changeDocument uri version changes, .silence)
  | .closeDocument uri => (s.closeDocument uri, .silence)
  | .hover uri p =>
      let r := s.hover uri p
      (r.1, .hover r.2)
  | .complete uri p => (s, .completion (s.complete uri p))

/-- The session after an event. -/
def step (s : Session) (e : Event) : Session :=
  (s.handle e).1

/-- The session after some events. -/
def run (s : Session) (es : List Event) : Session :=
  es.foldl step s

@[simp]
theorem run_nil (s : Session) : s.run [] = s :=
  rfl

@[simp]
theorem run_cons (s : Session) (e : Event) (es : List Event) :
    s.run (e :: es) = (s.step e).run es :=
  rfl

theorem run_append (s : Session) (es fs : List Event) :
    s.run (es ++ fs) = (s.run es).run fs :=
  List.foldl_append

theorem run_concat (s : Session) (es : List Event) (e : Event) :
    s.run (es ++ [e]) = (s.run es).step e := by
  simp [run_append]

end Session
end LmntalServer
