import LmntalServer.Document
import LmntalServer.Proofs.Position.Order

/-!
# Edits stay inside the text

A buffer answers questions about a line, an index or a code unit only if it has this line, this
index or this code unit, and it removes and inserts characters only inside the text.  An edit that
asked for more would stop in the middle of a batch and leave a text that no client has.  This module
writes out where each operation is defined, repeats an edit with these operations, and shows that
every batch of changes goes through on every text.

Main definitions:

* `Text.lineStart?`, `Text.unitsBefore?`, `Text.indexOfUnit?`, `clamp?`: questions that fail outside
  of a text.
* `Text.remove?`, `Text.insert?`: changes that fail outside of a text.
* `Text.offset?`, `Change.result?`, `Text.edit?`: positions and edits made of these.

Main results:

* `Text.offset?_eq`: every position is resolved.
* `Change.offset_le_max_le_length`: what a change removes and where it inserts.
* `Text.edit?_eq`: every batch goes through.
* `Document.edit_in_bounds`: positions keep their order, and no batch leaves the text.
-/

namespace LmntalServer

/-- A number kept between two bounds, of which the first must not exceed the second. -/
def clamp? (low high n : Nat) : Option Nat :=
  if low ≤ high then some (max low (min n high)) else none

namespace Text

/-! ## Operations that fail outside of a text -/

/-- The index at which a line starts, or the end of the text for the line behind the last one. -/
def lineStart? (t : Text) (n : Nat) : Option Nat :=
  if n ≤ lineCount t then some (lineStart t n) else none

/-- The code units before an index. -/
def unitsBefore? (t : Text) (i : Nat) : Option Nat :=
  if i ≤ t.length then some (units (t.take i)) else none

/-- The character that holds a code unit, or the end of the text for the unit behind the last one. -/
def indexOfUnit? (t : Text) (u : Nat) : Option Nat :=
  if u ≤ units t then some (indexOfUnit t u) else none

/-- A text without the characters from `start` up to `stop`. -/
def remove? (t : Text) (start stop : Nat) : Option Text :=
  if start ≤ stop ∧ stop ≤ t.length then some (t.take start ++ t.drop stop) else none

/-- A text with further characters at an index. -/
def insert? (t : Text) (i : Nat) (s : Text) : Option Text :=
  if i ≤ t.length then some (t.take i ++ s ++ t.drop i) else none

/-- The character index of a position.  A line that does not exist is not asked for. -/
def offset? (t : Text) (p : Position) : Option Nat :=
  if lineCount t ≤ p.line.toNat then some t.length
  else do
    let start ← lineStart? t p.line.toNat
    let line ← (lines t)[p.line.toNat]?
    let before ← unitsBefore? t start
    let index ← indexOfUnit? t (min (before + p.column.toNat) (units t))
    clamp? start (start + line.content.length) index

end Text

/-- The text after a change: what is in the range is removed, and the new characters are inserted
at the start of the range. -/
def Change.result? (t : Text) (c : Change) : Option Text :=
  match c.range with
  | none => some c.text
  | some r => do
      let start ← t.offset? r.start
      let stop ← t.offset? r.stop
      let rest ← t.remove? start (max start stop)
      rest.insert? start c.text

/-- The text after some changes, each of which must go through. -/
def Text.edit? (t : Text) (changes : List Change) : Option Text :=
  changes.foldlM Change.result? t

namespace Text

/-! ## Positions -/

/-- Every position is resolved: nothing outside of the text is asked for on the way. -/
theorem offset?_eq (t : Text) (p : Position) : offset? t p = some (offset t p) := by
  unfold offset?
  by_cases h : lineCount t ≤ p.line.toNat
  · rw [if_pos h, offset_eq_length (List.getElem?_eq_none h)]
  · have hlt : p.line.toNat < (lines t).length := Nat.lt_of_not_le h
    have hl := List.getElem?_eq_getElem hlt
    have hstart : lineStart? t p.line.toNat = some (lineStart t p.line.toNat) :=
      if_pos (Nat.le_of_lt hlt)
    have hbefore : unitsBefore? t (lineStart t p.line.toNat) =
        some (units (t.take (lineStart t p.line.toNat))) := if_pos (lineStart_le_length t _)
    rw [if_neg h, offset, hl, hstart]
    simp only [Option.bind_eq_bind, Option.bind_some, hbefore]
    rw [indexOfUnit?, if_pos (Nat.min_le_right _ _), Option.bind_some, clamp?,
      if_pos (Nat.le_add_right _ _)]

end Text

/-! ## Changes -/

namespace Change

variable {t : Text} {r : Range}

/-- What a change of a range removes is a slice of the text. -/
theorem offset_le_max_le_length (t : Text) (r : Range) :
    t.offset r.start ≤ max (t.offset r.start) (t.offset r.stop) ∧
      max (t.offset r.start) (t.offset r.stop) ≤ t.length :=
  ⟨Nat.le_max_left _ _, Nat.max_le.2 ⟨t.offset_le_length _, t.offset_le_length _⟩⟩

/-- The slice ends at the end of the range, unless the range ends before it starts. -/
theorem max_offset_of_not_lt (h : ¬r.stop < r.start) :
    max (t.offset r.start) (t.offset r.stop) = t.offset r.stop :=
  Nat.max_eq_right (t.offset_mono (Position.le_of_not_lt h))

/-- A range that ends before it starts is empty. -/
theorem max_offset_of_lt (h : r.stop < r.start) :
    max (t.offset r.start) (t.offset r.stop) = t.offset r.start :=
  Nat.max_eq_left (t.offset_mono (Position.le_of_lt h))

/-- A range that ends before it starts removes nothing. -/
theorem remove?_of_lt (h : r.stop < r.start) :
    t.remove? (t.offset r.start) (max (t.offset r.start) (t.offset r.stop)) = some t := by
  rw [max_offset_of_lt h, Text.remove?, if_pos ⟨Nat.le_refl _, t.offset_le_length _⟩,
    List.take_append_drop]

/-- A change of a range that ends before it starts inserts at the start. -/
theorem apply_of_lt (h : r.stop < r.start) (s : Text) :
    apply t ⟨some r, s⟩ = t.take (t.offset r.start) ++ s ++ t.drop (t.offset r.start) := by
  rw [apply_some, max_offset_of_lt h, Text.splice]

/-- The removal and the insertion of a change both go through. -/
theorem exists_remove?_insert? (t s : Text) (r : Range) :
    ∃ rest, t.remove? (t.offset r.start) (max (t.offset r.start) (t.offset r.stop)) = some rest ∧
      t.offset r.start ≤ rest.length ∧
      rest.insert? (t.offset r.start) s = some (apply t ⟨some r, s⟩) := by
  have hbounds := offset_le_max_le_length t r
  have hlength : (t.take (t.offset r.start)).length = t.offset r.start := by
    rw [List.length_take]
    exact Nat.min_eq_left (t.offset_le_length _)
  have hle : t.offset r.start ≤ (t.take (t.offset r.start) ++
      t.drop (max (t.offset r.start) (t.offset r.stop))).length := by
    rw [List.length_append, hlength]
    exact Nat.le_add_right _ _
  refine ⟨_, if_pos hbounds, hle, ?_⟩
  rw [Text.insert?, if_pos hle, List.take_left' hlength, List.drop_left' hlength, apply_some,
    Text.splice]

/-- Every change goes through. -/
theorem result?_eq (t : Text) (c : Change) : result? t c = some (apply t c) := by
  obtain ⟨range, s⟩ := c
  cases range with
  | none => rfl
  | some r =>
      obtain ⟨rest, hremove, -, hinsert⟩ := exists_remove?_insert? t s r
      simp only [result?, Text.offset?_eq, Option.bind_eq_bind, Option.bind_some, hremove]
      exact hinsert

end Change

/-! ## Batches -/

/-- Every batch goes through. -/
theorem Text.edit?_eq (t : Text) (changes : List Change) : edit? t changes = some (edit t changes) := by
  induction changes generalizing t with
  | nil => rfl
  | cons c cs ih =>
      rw [edit?, List.foldlM_cons, Change.result?_eq, Text.edit_cons]
      exact ih (c.apply t)

/-- Later positions fall on later indices, and all of them inside the text.  So no batch of changes
that is accepted stops on its way: on the text that the changes before it have left, each change of
a range removes a slice that does not end before it starts, and not behind the text either, and
inserts at an index of what is left.  The end of the slice is moved only for a range that ends before
it starts, and such a range removes nothing and inserts at its start. -/
theorem Document.edit_in_bounds :
    (∀ (t : Text) (p q : Position), p ≤ q →
      t.offset p ≤ t.offset q ∧ t.offset q ≤ t.length) ∧
    ∀ (d : Document) (changes : List Change) (version : Int), d.version < version →
      (∃ u, d.text.edit? changes = some u ∧
        d.edit changes version = .ok { d with text := u, version := version }) ∧
      ∀ before c after r, changes = before ++ c :: after → c.range = some r →
        ∃ t, d.text.edit? before = some t ∧
          let start := t.offset r.start
          let stop := max start (t.offset r.stop)
          start ≤ stop ∧ stop ≤ t.length ∧
          (∃ rest, t.remove? start stop = some rest ∧ start ≤ rest.length ∧
            rest.insert? start c.text = some (c.apply t)) ∧
          (stop ≠ t.offset r.stop → r.stop < r.start) ∧
          (r.stop < r.start → t.remove? start stop = some t ∧
            c.apply t = t.take start ++ c.text ++ t.drop start) := by
  refine ⟨fun t p q h => ⟨t.offset_mono h, t.offset_le_length q⟩, ?_⟩
  intro d changes version hversion
  refine ⟨⟨_, d.text.edit?_eq changes, Document.edit_of_lt hversion changes⟩, ?_⟩
  rintro before ⟨range, s⟩ after r - hrange
  obtain rfl : range = some r := hrange
  refine ⟨_, d.text.edit?_eq before, ?_⟩
  generalize d.text.edit before = t
  intro start stop
  obtain ⟨hstart, hstop⟩ := Change.offset_le_max_le_length t r
  refine ⟨hstart, hstop, Change.exists_remove?_insert? t s r, ?_, ?_⟩
  · intro hmoved
    by_cases hinverted : r.stop < r.start
    · exact hinverted
    · exact absurd (Change.max_offset_of_not_lt hinverted) hmoved
  · intro hinverted
    exact ⟨Change.remove?_of_lt hinverted, Change.apply_of_lt hinverted s⟩

/-- A batch whose first change puts a lone carriage return in front of a line break, so that the text
has a line more, and whose second change starts on this new line and ends on the line before it, in
the middle of what was a surrogate pair. -/
theorem Document.edit_in_bounds_of_inverted_range :
    let d : Document :=
      ⟨0, ⟨"untitled", none, "a", none, none⟩, "lmntal", "a😀\r\nb".toList, 1⟩
    let b : Change := ⟨some ⟨⟨0, 1⟩, ⟨0, 9⟩⟩, "\r".toList⟩
    let c : Change := ⟨some ⟨⟨1, 0⟩, ⟨0, 2⟩⟩, "x".toList⟩
    let t : Text := "a\r\r\nb".toList
    (⟨0, 2⟩ : Position) ≤ ⟨1, 0⟩ ∧ t.offset ⟨0, 2⟩ ≤ t.offset ⟨1, 0⟩ ∧
      d.version < 2 ∧
      (∃ u, d.text.edit? [b, c] = some u ∧
        d.edit [b, c] 2 = .ok { d with text := u, version := 2 }) ∧
      d.text.edit? [b] = some t ∧ t.offset ⟨1, 0⟩ = 2 ∧ (⟨0, 2⟩ : Position) < ⟨1, 0⟩ ∧
      t.remove? 2 2 = some t ∧ c.apply t = "a\rx\r\nb".toList := by
  intro d b c t
  have hle : (⟨0, 2⟩ : Position) ≤ ⟨1, 0⟩ := by decide
  have hlt : (⟨0, 2⟩ : Position) < ⟨1, 0⟩ := by decide
  have hversion : d.version < 2 := by decide
  have hstart : t.offset ⟨1, 0⟩ = 2 := by decide +kernel
  have hstop : t.offset ⟨0, 2⟩ = 1 := by decide +kernel
  have hfirst : d.text.edit? [b] = some t := by decide +kernel
  obtain ⟨horder, hbatch⟩ := Document.edit_in_bounds
  obtain ⟨hthrough, hchange⟩ := hbatch d [b, c] 2 hversion
  obtain ⟨u, hu, -, -, -, -, hinverted⟩ := hchange [b] c [] ⟨⟨1, 0⟩, ⟨0, 2⟩⟩ rfl rfl
  obtain rfl : u = t := Option.some.inj (hu.symm.trans hfirst)
  obtain ⟨hremove, happly⟩ := hinverted hlt
  rw [hstart, hstop] at hremove
  rw [hstart] at happly
  exact ⟨hle, (horder t _ _ hle).1, hversion, hthrough, hfirst, hstart, hlt, hremove, happly⟩

end LmntalServer
