import LmntalServer.Library.Basic
import LmntalServer.Text.Edit
import LmntalServer.Uri.Basic

/-!
# Documents

A document is a text that a client has opened under a URI.  Its version only grows: changes that
do not carry a newer version are refused and leave the document as it is.

Main definitions:

* `Document`, `Document.edit`: a document and its changes.
* `isLmntal`: the documents that are scanned.
* `Documents`: the open documents, one for each URI.

Main results:

* `Documents.find?_put_self`, `Documents.find?_put_of_ne`, `Documents.find?_remove_self`,
  `Documents.find?_remove_of_ne`: what the operations do to look-ups.
-/

namespace LmntalServer

/-- The extension of the files of the language. -/
def fileExtension : String :=
  "lmn"

/-- Whether a document is written in the language, by the identifier that the client gives or by
its extension. -/
def isLmntal (uri : Uri) (language : String) : Bool :=
  language = languageId || uri.extension? = some fileExtension

/-- An open document. -/
structure Document where
  id : UInt32
  uri : Uri
  language : String
  text : Text
  version : Int
deriving DecidableEq, Repr, Inhabited

/-- The refusal of changes whose version is not newer than that of the document. -/
structure StaleVersion where
  received : Int
  current : Int
deriving DecidableEq, Repr

namespace StaleVersion

/-- What is wrong with the version. -/
def message (e : StaleVersion) : String :=
  "version " ++ toString e.received ++ " not newer than " ++ toString e.current

end StaleVersion

namespace Document

/-- Whether a document is written in the language. -/
def isLmntal (d : Document) : Bool :=
  LmntalServer.isLmntal d.uri d.language

/-- A document after some changes, which must carry a newer version. -/
def edit (d : Document) (changes : List Change) (version : Int) : Except StaleVersion Document :=
  if version ≤ d.version then .error ⟨version, d.version⟩
  else .ok { d with text := d.text.edit changes, version := version }

theorem edit_of_le {d : Document} {version : Int} (h : version ≤ d.version)
    (changes : List Change) : d.edit changes version = .error ⟨version, d.version⟩ :=
  if_pos h

theorem edit_of_lt {d : Document} {version : Int} (h : d.version < version)
    (changes : List Change) :
    d.edit changes version = .ok { d with text := d.text.edit changes, version := version } :=
  if_neg (Int.not_le.2 h)

end Document

/-! ## Open documents -/

/-- The open documents, no two of which have the same URI. -/
structure Documents where
  toList : List Document
  distinct : toList.Pairwise (fun d e => d.uri ≠ e.uri)

namespace Documents

/-- No open documents. -/
def empty : Documents :=
  ⟨[], List.Pairwise.nil⟩

instance : Inhabited Documents :=
  ⟨empty⟩

/-- The number of open documents. -/
def size (ds : Documents) : Nat :=
  ds.toList.length

/-- The open document of a URI. -/
def find? (ds : Documents) (uri : Uri) : Option Document :=
  ds.toList.find? (·.uri = uri)

/-- The open documents without that of a URI. -/
def remove (ds : Documents) (uri : Uri) : Documents :=
  ⟨ds.toList.filter (·.uri ≠ uri), ds.distinct.filter _⟩

/-- The open documents with one more, in place of that of the same URI. -/
def put (ds : Documents) (d : Document) : Documents where
  toList := d :: ds.toList.filter (·.uri ≠ d.uri)
  distinct := by
    refine List.Pairwise.cons (fun e he => ?_) (ds.distinct.filter _)
    have h := (List.mem_filter.1 he).2
    simp only [ne_eq, decide_not, Bool.not_eq_eq_eq_not, Bool.not_true,
      decide_eq_false_iff_not] at h
    exact fun hde => h hde.symm

@[simp]
theorem find?_empty (uri : Uri) : empty.find? uri = none :=
  rfl

/-- A document is found under its own URI. -/
theorem uri_of_find? {ds : Documents} {uri : Uri} {d : Document} (h : ds.find? uri = some d) :
    d.uri = uri := by
  simpa using List.find?_some h

@[simp]
theorem find?_put_self (ds : Documents) (d : Document) : (ds.put d).find? d.uri = some d := by
  simp [find?, put]

theorem find?_filter_of_ne {l : List Document} {u v : Uri} (h : u ≠ v) :
    (l.filter (·.uri ≠ u)).find? (·.uri = v) = l.find? (·.uri = v) := by
  induction l with
  | nil => rfl
  | cons d l ih =>
      by_cases hu : d.uri = u
      · have hv : d.uri ≠ v := fun hv => h (hu.symm.trans hv)
        simpa [hu, hv, h] using ih
      · by_cases hv : d.uri = v
        · have hne : v ≠ u := Ne.symm h
          simp [hv, hne]
        · simpa [hu, hv] using ih

theorem find?_put_of_ne {d : Document} {uri : Uri} (h : d.uri ≠ uri) (ds : Documents) :
    (ds.put d).find? uri = ds.find? uri := by
  simp only [find?, put]
  rw [List.find?_cons_of_neg (by simpa using h)]
  exact find?_filter_of_ne h

@[simp]
theorem find?_remove_self (ds : Documents) (uri : Uri) : (ds.remove uri).find? uri = none := by
  simp [find?, remove]

theorem find?_remove_of_ne {u v : Uri} (h : u ≠ v) (ds : Documents) :
    (ds.remove u).find? v = ds.find? v :=
  find?_filter_of_ne h

end Documents
end LmntalServer
