import LmntalServer.Hover
import LmntalServer.Proofs.Hover.Head
import LmntalServer.Proofs.Symbol.Lookup
import LmntalServer.Proofs.Word.Touching

/-!
# Counting without bounds

Positions, columns and line numbers are 32-bit words, and their sums wrap.  This module repeats what
is counted in words with natural numbers, which never wrap, and compares the two: on a text whose
code units a word can count, no sum wraps and no number is cut off.  The bounds all come from the
text itself.  A sum over a part of a line is at most the length of the text, and a rule head has
characters behind the start of its line, so that its line number and the next one are smaller than
this length.

Main definitions:

* `Text.columnSums`: the sums that a search for a column takes, in numbers of any kind.
* `Unbounded.wordAt`, `Unbounded.scan`, `Unbounded.hover`: words, tables and hovers by natural
  numbers.
* `Word.unbounded`, `SymbolEntry.unbounded`, `Hover.unbounded`: what is counted in words, read as
  natural numbers.
* `SymbolTable.Agrees`, `Text.IsExact`: nothing wraps in a table and over a text.

Main results:

* `Text.map_toNat_columnSums`: the sums of a search for a column.
* `Text.unbounded_wordAt`: words and their columns.
* `SymbolTable.agrees_scan`: the lines of a table.
* `SymbolTable.Agrees.unbounded_hover`: hovers over a table in which nothing wraps.
* `Text.isExact_of_units_lt`: all of these for a text that words can count.
-/

namespace LmntalServer

/-! ## The sums of a search for a column -/

/-- The sums that a search for a column takes from the sum `units` on: one for every character that
begins before the column. -/
def Text.columnSums {N : Type} [Add N] [LE N] [DecidableLE N] (unitsOf : Char → N)
    (column units : N) : Text → List N
  | [] => []
  | c :: t =>
      if column ≤ units then []
      else (units + unitsOf c) :: columnSums unitsOf column (units + unitsOf c) t

/-! ## Natural numbers in place of words -/

namespace Unbounded

/-- A line and a column. -/
structure Position where
  line : Nat
  column : Nat
deriving DecidableEq, Repr

/-- The stretch of a text between two positions. -/
structure Range where
  start : Position
  stop : Position
deriving DecidableEq, Repr

/-- A word and the range in which it stands. -/
structure Word where
  text : Text
  range : Range
deriving DecidableEq, Repr

/-- An atom with the line of its head. -/
structure SymbolEntry where
  name : String
  line : Nat
  document : Uri
deriving DecidableEq, Repr

/-- A text in Markdown and the range that it is about. -/
structure Hover where
  markdown : String
  range : Range
deriving DecidableEq, Repr

/-- The number of characters of a line that begin before a column. -/
def indexOfColumn (content : Text) (column : Nat) : Nat :=
  (content.columnSums charUnits column 0).length

/-- The range of a run on a line. -/
def rangeOfRun (line : Nat) (content : Text) (r : Run) : Range :=
  let start := Text.units (content.take r.start)
  ⟨⟨line, start⟩, ⟨line, start + Text.units r.text⟩⟩

/-- The word at a position: the first one that touches it. -/
def wordAt (t : Text) (p : Position) : Option Word := do
  let line ← t.lines[p.line]?
  let cursor := indexOfColumn line.content p.column
  let run ← (line.content.runs isWordPart).find? fun r => r.start ≤ cursor && cursor ≤ r.stop
  return ⟨run.text, rangeOfRun p.line line.content run⟩

/-- The atom that a head defines. -/
def entryOf (document : Uri) (h : Head) : SymbolEntry :=
  ⟨String.ofList h.name, h.line, document⟩

/-- The atoms that the heads of a text define. -/
def scan (t : Text) (document : Uri) : Dictionary SymbolEntry :=
  let entries := t.heads.map (entryOf document)
  Dictionary.ofList (entries.map fun e => (e.name, e))

/-- What a hover shows of an atom: its name, the file and the line counted from one. -/
def SymbolEntry.markdown (e : SymbolEntry) : String :=
  let file := e.document.fileName?.getD e.document.render
  "**" ++ e.name ++ "** is a user-defined atom.\n\nDefined in `" ++ file ++ "` at line "
    ++ toString (e.line + 1) ++ "."

/-- What is known of a name. -/
def describe? (library : Library) (atoms : Dictionary SymbolEntry) (name : String) :
    Option String :=
  match library.get? name with
  | some entry => some entry.markdown
  | none => (atoms.get? name).map SymbolEntry.markdown

/-- The hover at a position of a text. -/
def hover (library : Library) (atoms : Dictionary SymbolEntry) (t : Text) (p : Position) :
    Option Hover := do
  let word ← wordAt t p
  let markdown ← describe? library atoms (String.ofList word.text)
  return ⟨markdown, word.range⟩

end Unbounded

/-! ## Words read as natural numbers -/

/-- A position by its numbers. -/
def Position.unbounded (p : Position) : Unbounded.Position :=
  ⟨p.line.toNat, p.column.toNat⟩

/-- A range by its numbers. -/
def Range.unbounded (r : Range) : Unbounded.Range :=
  ⟨r.start.unbounded, r.stop.unbounded⟩

/-- A word of a text by the numbers of its range. -/
def Word.unbounded (w : Word) : Unbounded.Word :=
  ⟨w.text, w.range.unbounded⟩

/-- An atom by the number of its line. -/
def SymbolEntry.unbounded (e : SymbolEntry) : Unbounded.SymbolEntry :=
  ⟨e.name, e.line.toNat, e.document⟩

/-- A hover by the numbers of its range. -/
def Hover.unbounded (h : Hover) : Unbounded.Hover :=
  ⟨h.markdown, h.range.unbounded⟩

/-- A symbol table holds the same atoms as a table by natural numbers, and the line after that of an
atom is a word too. -/
structure SymbolTable.Agrees (symbols : SymbolTable) (atoms : Dictionary Unbounded.SymbolEntry) :
    Prop where
  lookup : ∀ name, (symbols.lookup? name).map SymbolEntry.unbounded = atoms.get? name
  next : ∀ name e, symbols.lookup? name = some e →
    (e.line + 1).toNat = e.line.toNat + 1 ∧ e.markdown = e.unbounded.markdown

/-- Over a text nothing wraps: not the sums of a search for a column (`sums`), not the length of a
part of the text (`lengths`), not the columns of a word (`words`), not the line of a head or the one
after it (`lines`), so nothing in a table (`tables`); and the code unit for which a position looks
needs one bit more than a word (`targets`). -/
structure Text.IsExact (t : Text) : Prop where
  sums : ∀ l ∈ t.lines, ∀ column : UInt32,
    l.content.indexOfColumn column = (l.content.columnSums charUnits32 column 0).length ∧
      (l.content.columnSums charUnits32 column 0).map UInt32.toNat =
        l.content.columnSums charUnits column.toNat 0
  lengths : ∀ s, s <:+: t → (Text.units32 s).toNat = Text.units s
  words : ∀ p, (t.wordAt p).map Word.unbounded = Unbounded.wordAt t p.unbounded
  lines : ∀ u, ∀ h ∈ t.heads, (SymbolTable.entryOf u h).unbounded = Unbounded.entryOf u h ∧
    ((SymbolTable.entryOf u h).line + 1).toNat = h.line + 1
  tables : ∀ u, (SymbolTable.scan t u).Agrees (Unbounded.scan t u)
  targets : ∀ p : Position,
    Text.units (t.take (t.lineStart p.line.toNat)) + p.column.toNat < 2 * UInt32.size

namespace Text

variable {t s content : Text} {l : Line} {r : Run} {u : UInt32}

/-! ## Parts of a text -/

/-- A part of a text has at most as many code units. -/
theorem units_le_of_isInfix (h : s <:+: t) : units s ≤ units t := by
  obtain ⟨pre, post, rfl⟩ := h
  rw [units_append, units_append]
  omega

/-- The content of a line is a part of the text. -/
theorem content_isInfix_of_mem_lines (hl : l ∈ lines t) : l.content <:+: t := by
  obtain ⟨front, back, hlines⟩ := List.append_of_mem hl
  refine ⟨front.flatMap Line.chars, l.ending ++ back.flatMap Line.chars, ?_⟩
  have hchars := flatMap_chars_lines t
  rw [hlines, List.flatMap_append, List.flatMap_cons, Line.chars] at hchars
  rw [← hchars]
  simp only [List.append_assoc]

/-- The length of a text does not wrap. -/
theorem toNat_units32 (h : units t < UInt32.size) : (units32 t).toNat = units t :=
  UInt32.toNat_ofNat_of_lt' h

/-! ## Columns -/

/-- A search passes one character for each of its sums. -/
theorem indexOfColumnFrom_eq_length (column u : UInt32) (t : Text) :
    indexOfColumnFrom column u t = (columnSums charUnits32 column u t).length := by
  induction t generalizing u with
  | nil => rfl
  | cons c t ih =>
      rw [indexOfColumnFrom, columnSums]
      split
      · rfl
      · rw [ih, List.length_cons]

/-- No sum of a search wraps, since each is the length of a part of the text. -/
theorem map_toNat_columnSums (column : UInt32) (h : u.toNat + units t < UInt32.size) :
    (columnSums charUnits32 column u t).map UInt32.toNat =
      columnSums charUnits column.toNat u.toNat t := by
  induction t generalizing u with
  | nil => rfl
  | cons c t ih =>
      rw [units_cons] at h
      have hnext : (u + charUnits32 c).toNat = u.toNat + charUnits c :=
        toNat_add_charUnits32 (by omega)
      rw [columnSums, columnSums]
      by_cases hle : column ≤ u
      · rw [if_pos hle, if_pos (UInt32.le_iff_toNat_le.1 hle)]
        rfl
      · have hlt : ¬column.toNat ≤ u.toNat := fun hnat => hle (UInt32.le_iff_toNat_le.2 hnat)
        rw [if_neg hle, if_neg hlt, List.map_cons, hnext, ih (by omega), hnext]

/-- A search for a column passes as many characters as by natural numbers. -/
theorem indexOfColumn_eq_unbounded (h : units content < UInt32.size) (column : UInt32) :
    indexOfColumn content column = Unbounded.indexOfColumn content column.toNat := by
  have hsums := map_toNat_columnSums column (u := 0) (t := content) (by simpa using h)
  rw [indexOfColumn, indexOfColumnFrom_eq_length, Unbounded.indexOfColumn]
  simpa using congrArg List.length hsums

/-! ## Words -/

/-- The columns of a run, of which the second is a sum, do not wrap. -/
theorem unbounded_rangeOfRun (h : units content < UInt32.size) (hr : r ∈ runs isWordPart content)
    (line : UInt32) :
    (rangeOfRun line content r).unbounded = Unbounded.rangeOfRun line.toNat content r := by
  obtain ⟨-, -, pre, post, rfl, hstart, -, -, -⟩ := isMaximal_of_mem_runs hr
  have hfront : (pre ++ r.text ++ post).take r.start = pre := by
    rw [hstart, List.append_assoc, List.take_left]
  rw [units_append, units_append] at h
  have hpre : (units32 pre).toNat = units pre := toNat_units32 (by omega)
  have htext : (units32 r.text).toNat = units r.text := toNat_units32 (by omega)
  have hstop : (units32 pre + units32 r.text).toNat = units pre + units r.text := by
    rw [toNat_add_of_lt (by omega), hpre, htext]
  simp only [rangeOfRun, Unbounded.rangeOfRun, hfront, Range.unbounded, Position.unbounded, hpre,
    hstop]

/-- The word at a position and its columns. -/
theorem unbounded_wordAt (h : units t < UInt32.size) (p : Position) :
    (wordAt t p).map Word.unbounded = Unbounded.wordAt t p.unbounded := by
  simp only [wordAt, Unbounded.wordAt, Position.unbounded, Option.bind_eq_bind]
  cases hl : (lines t)[p.line.toNat]? with
  | none => rfl
  | some l =>
      have hcontent : units l.content < UInt32.size :=
        Nat.lt_of_le_of_lt
          (units_le_of_isInfix (content_isInfix_of_mem_lines (List.mem_of_getElem? hl))) h
      simp only [Option.bind_some, indexOfColumn_eq_unbounded hcontent]
      rw [Option.map_bind]
      refine Option.bind_congr fun r hfound => ?_
      have hrange := unbounded_rangeOfRun hcontent (List.mem_of_find?_eq_some hfound) p.line
      exact congrArg (fun range => some (⟨r.text, range⟩ : Unbounded.Word)) hrange

end Text

/-! ## Tables -/

namespace SymbolTable

variable {t : Text} {h : Head} {symbols : SymbolTable} {atoms : Dictionary Unbounded.SymbolEntry}

/-- The line of a head, and the one after it, are numbers of words, since a head has characters
behind the start of its line. -/
theorem unbounded_entryOf (ht : t.units < UInt32.size) (hh : h ∈ t.heads) (u : Uri) :
    (entryOf u h).unbounded = Unbounded.entryOf u h ∧
      ((entryOf u h).line + 1).toNat = h.line + 1 := by
  have hlength := t.length_le_units
  have hline := (Text.lt_length_of_mem_heads hh).2
  have hcast : h.line.toUInt32.toNat = h.line :=
    UInt32.toNat_ofNat_of_lt' (show _ < UInt32.size by omega)
  constructor
  · rw [SymbolEntry.unbounded, entryOf, hcast]
    rfl
  · rw [entryOf, Text.toNat_add_of_lt (by rw [hcast, UInt32.toNat_one]; omega), hcast,
      UInt32.toNat_one]

/-- What a hover shows of an atom whose line has a next one. -/
theorem markdown_eq_unbounded {e : SymbolEntry} (he : (e.line + 1).toNat = e.line.toNat + 1) :
    e.markdown = e.unbounded.markdown := by
  have hline : toString (e.line + 1) = toString (e.line.toNat + 1) := by
    rw [← he]
    rfl
  rw [SymbolEntry.markdown, hline]
  rfl

/-- By natural numbers, too, the atom of a name is the last head of this name. -/
theorem get?_unbounded_scan (t : Text) (u : Uri) (name : String) :
    (Unbounded.scan t u).get? name =
      ((t.heads.filter fun h => String.ofList h.name = name).getLast?).map
        (Unbounded.entryOf u) := by
  unfold Unbounded.scan
  exact Dictionary.get?_ofList_map (Unbounded.entryOf u) Unbounded.SymbolEntry.name t.heads name

/-- The table of a text that words can count. -/
theorem agrees_scan (ht : t.units < UInt32.size) (u : Uri) :
    (scan t u).Agrees (Unbounded.scan t u) := by
  constructor
  · intro name
    rw [lookup?_scan, get?_unbounded_scan, Option.map_map]
    refine Option.map_congr fun h hlast => ?_
    have hh := (List.mem_filter.1 (List.mem_of_getLast? hlast)).1
    exact (unbounded_entryOf ht hh u).1
  · intro name e he
    rw [lookup?_scan, Option.map_eq_some_iff] at he
    obtain ⟨h, hlast, rfl⟩ := he
    have hh := (List.mem_filter.1 (List.mem_of_getLast? hlast)).1
    obtain ⟨hentry, hnext⟩ := unbounded_entryOf ht hh u
    have hline : (entryOf u h).line.toNat = h.line :=
      congrArg Unbounded.SymbolEntry.line hentry
    rw [← hline] at hnext
    exact ⟨hnext, markdown_eq_unbounded hnext⟩

theorem agrees_empty : empty.Agrees Dictionary.empty :=
  ⟨fun _ => rfl, fun _ _ h => nomatch h⟩

namespace Agrees

/-- What is known of a name. -/
theorem describe?_eq (hagrees : symbols.Agrees atoms) (library : Library) (name : String) :
    LmntalServer.describe? library symbols name = Unbounded.describe? library atoms name := by
  unfold LmntalServer.describe? Unbounded.describe?
  cases library.get? name with
  | some entry => rfl
  | none =>
      rw [← hagrees.lookup, Option.map_map]
      exact Option.map_congr fun e he => (hagrees.next name e he).2

/-- A hover over a text that words can count, with a table in which nothing wraps. -/
theorem unbounded_hover (hagrees : symbols.Agrees atoms) (ht : t.units < UInt32.size)
    (library : Library) (p : Position) :
    (LmntalServer.hover library symbols t p).map Hover.unbounded =
      Unbounded.hover library atoms t p.unbounded := by
  simp only [LmntalServer.hover, Unbounded.hover, Option.bind_eq_bind,
    ← Text.unbounded_wordAt ht p]
  cases t.wordAt p with
  | none => rfl
  | some w =>
      simp only [Option.bind_some, Option.map_some, hagrees.describe?_eq, Word.unbounded]
      cases Unbounded.describe? library atoms (String.ofList w.text) with
      | none => rfl
      | some markdown => rfl

end Agrees
end SymbolTable

/-- Over a text that words can count nothing wraps. -/
theorem Text.isExact_of_units_lt {t : Text} (h : t.units < UInt32.size) : t.IsExact where
  sums l hl column := by
    have hcontent : l.content.units < UInt32.size :=
      Nat.lt_of_le_of_lt (units_le_of_isInfix (content_isInfix_of_mem_lines hl)) h
    exact ⟨indexOfColumnFrom_eq_length column 0 l.content,
      map_toNat_columnSums column (u := 0) (by simpa using hcontent)⟩
  lengths s hs := toNat_units32 (Nat.lt_of_le_of_lt (units_le_of_isInfix hs) h)
  words := unbounded_wordAt h
  lines u head hhead := SymbolTable.unbounded_entryOf h hhead u
  tables := SymbolTable.agrees_scan h
  targets p := by
    have hbefore := units_take_le t (t.lineStart p.line.toNat)
    have hcolumn : p.column.toNat < UInt32.size := p.column.toNat_lt
    omega

end LmntalServer
