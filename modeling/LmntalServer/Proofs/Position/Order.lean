import LmntalServer.Proofs.Text.Offset

/-!
# The order of positions

Positions are ordered by line and, on one line, by column.  Whatever their values are, whether their
lines exist and whether their columns lie on these lines, a later position never falls on an earlier
index of a text: a column stays within the content of its line, and every line starts behind the
contents of the lines before it.

Main definitions:

* The order of `Position`: first the line, then the column.

Main results:

* `Text.lineStart_mono`, `Text.lineStart_add_content_le`: where lines start and contents end.
* `Text.lineStart_le_offset`, `Text.offset_le_lineStart_add_content`: a position stays on its line.
* `Text.offset_mono`: later positions fall on later indices.
-/

namespace LmntalServer

namespace Position

/-! ## Lexicographic order -/

/-- A position is at or before another one. -/
instance : LE Position :=
  ⟨fun p q => p.line < q.line ∨ p.line = q.line ∧ p.column ≤ q.column⟩

/-- A position precedes another one. -/
instance : LT Position :=
  ⟨fun p q => p.line < q.line ∨ p.line = q.line ∧ p.column < q.column⟩

variable {p q : Position}

theorem le_iff : p ≤ q ↔ p.line < q.line ∨ p.line = q.line ∧ p.column ≤ q.column :=
  Iff.rfl

theorem lt_iff : p < q ↔ p.line < q.line ∨ p.line = q.line ∧ p.column < q.column :=
  Iff.rfl

instance : Decidable (p ≤ q) :=
  decidable_of_iff _ le_iff.symm

instance : Decidable (p < q) :=
  decidable_of_iff _ lt_iff.symm

theorem le_of_lt (h : p < q) : p ≤ q := by
  rcases lt_iff.1 h with hline | ⟨hline, hcolumn⟩
  · exact Or.inl hline
  · exact Or.inr ⟨hline, UInt32.le_of_lt hcolumn⟩

/-- Of two positions one is at or before the other. -/
theorem le_of_not_lt (h : ¬q < p) : p ≤ q := by
  rw [lt_iff, not_or, not_and] at h
  obtain ⟨hline, hcolumn⟩ := h
  rcases UInt32.lt_or_eq_of_le (UInt32.not_lt.1 hline) with hlt | heq
  · exact Or.inl hlt
  · exact Or.inr ⟨heq, UInt32.not_lt.1 (hcolumn heq.symm)⟩

end Position

namespace Text

variable {t : Text} {p q : Position} {l : Line}

/-! ## Lines one behind the other -/

/-- The next line starts behind the line and its line break. -/
theorem lineStart_succ {n : Nat} (h : (lines t)[n]? = some l) :
    lineStart t (n + 1) = lineStart t n + l.chars.length := by
  rw [lineStart, List.take_add_one, h, List.flatMap_append, List.length_append]
  simp [lineStart]

/-- A later line starts at a later index. -/
theorem lineStart_mono (t : Text) {m n : Nat} (h : m ≤ n) : lineStart t m ≤ lineStart t n := by
  obtain ⟨k, rfl⟩ := Nat.exists_eq_add_of_le h
  rw [lineStart, lineStart, List.take_add, List.flatMap_append, List.length_append]
  exact Nat.le_add_right _ _

/-- The content of a line ends at or before the start of every later line. -/
theorem lineStart_add_content_le {m n : Nat} (hl : (lines t)[m]? = some l) (h : m < n) :
    lineStart t m + l.content.length ≤ lineStart t n := by
  have hcontent : l.content.length ≤ l.chars.length := by
    simp [Line.chars]
  calc
    lineStart t m + l.content.length ≤ lineStart t m + l.chars.length :=
      Nat.add_le_add_left hcontent _
    _ = lineStart t (m + 1) := (lineStart_succ hl).symm
    _ ≤ lineStart t n := lineStart_mono t h

/-! ## Where positions fall -/

/-- A position falls at or behind the start of its line. -/
theorem lineStart_le_offset (t : Text) (p : Position) : lineStart t p.line.toNat ≤ offset t p := by
  cases hl : (lines t)[p.line.toNat]? with
  | none =>
      rw [offset_eq_length hl]
      exact lineStart_le_length t _
  | some l =>
      rw [offset_eq_lineStart_add hl]
      exact Nat.le_add_right _ _

/-- A position falls at or before the end of the content of its line. -/
theorem offset_le_lineStart_add_content (hl : (lines t)[p.line.toNat]? = some l) :
    offset t p ≤ lineStart t p.line.toNat + l.content.length := by
  rw [offset_eq_lineStart_add hl]
  exact Nat.add_le_add_left (indexOfUnit_le_length _ _) _

/-- On a line, later columns fall on later indices. -/
theorem offset_mono_of_line_eq (hline : p.line = q.line) (hcolumn : p.column ≤ q.column) :
    offset t p ≤ offset t q := by
  cases hl : (lines t)[q.line.toNat]? with
  | none =>
      rw [offset_eq_length hl]
      exact offset_le_length t p
  | some l =>
      have hp : (lines t)[p.line.toNat]? = some l := by rw [hline, hl]
      rw [offset_eq_lineStart_add hl, offset_eq_lineStart_add hp, hline]
      exact Nat.add_le_add_left (indexOfUnit_mono _ (UInt32.le_iff_toNat_le.1 hcolumn)) _

/-- Positions on a later line fall on later indices, whatever their columns are; and if a line does
not exist, no later one does. -/
theorem offset_mono_of_line_lt (hline : p.line < q.line) : offset t p ≤ offset t q := by
  have hlt : p.line.toNat < q.line.toNat := UInt32.lt_iff_toNat_lt.1 hline
  cases hl : (lines t)[p.line.toNat]? with
  | none =>
      have hq : (lines t)[q.line.toNat]? = none :=
        List.getElem?_eq_none (Nat.le_trans (List.getElem?_eq_none_iff.1 hl) (Nat.le_of_lt hlt))
      exact Nat.le_of_eq ((offset_eq_length hl).trans (offset_eq_length hq).symm)
  | some l =>
      calc
        offset t p ≤ lineStart t p.line.toNat + l.content.length :=
          offset_le_lineStart_add_content hl
        _ ≤ lineStart t q.line.toNat := lineStart_add_content_le hl hlt
        _ ≤ offset t q := lineStart_le_offset t q

/-- Later positions fall on later indices. -/
theorem offset_mono (t : Text) (h : p ≤ q) : offset t p ≤ offset t q := by
  rcases Position.le_iff.1 h with hline | ⟨hline, hcolumn⟩
  · exact offset_mono_of_line_lt hline
  · exact offset_mono_of_line_eq hline hcolumn

end Text
end LmntalServer
