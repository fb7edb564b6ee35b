import LmntalServer.Proofs.Text.Offset
import LmntalServer.Proofs.Word.Touching

/-!
# Two readings of a column

An edit and a hover read the column of a position in different ways.  An edit counts code units in
the whole text and takes the character that holds the unit at the column, so it rounds down; a hover
adds up the code units of the characters of one line until the column is reached, so it rounds up.
Every column is the place between two characters, lies behind the end of the line, or is inside a
surrogate pair.  In the first two cases there is nothing to round, and in the third the two readings
differ by the character of the pair.

Main definitions:

* `Text.IsInsidePair`: a column between the two halves of a surrogate pair.
* `Text.byteOfColumn`: the byte of a line at which a column is reached.
* `Text.charsBeforeByte`: the characters of a line that begin before a byte.

Main results:

* `Text.column_cases`: where a column can lie.
* `Text.charsBeforeByte_byteOfColumn`: before the byte of a column begin the characters that begin
  before the column.
* `Text.offset_byteOfColumn`: how the two readings of a column compare.
* `Text.offset_byteOfColumn_of_overlongLine`: a column from which they are three characters apart.
-/

namespace LmntalServer
namespace Text

/-- A column lies between the two halves of the surrogate pair of the character at an index. -/
def IsInsidePair (content : Text) (k column : Nat) : Prop :=
  ∃ c, content[k]? = some c ∧ charUnits c = 2 ∧ column = units (content.take k) + 1

/-- The byte of a line at which a column is reached, for characters of which the first begins at
the column `units`. -/
def byteOfColumnFrom (column units : UInt32) : Text → Nat
  | [] => 0
  | c :: t =>
      if column ≤ units then 0
      else c.utf8Size + byteOfColumnFrom column (units + charUnits32 c) t

/-- The byte of a line at which a column is reached, or at which the line ends. -/
def byteOfColumn (content : Text) (column : UInt32) : Nat :=
  byteOfColumnFrom column 0 content

/-- The number of characters of a text that begin before a byte. -/
def charsBeforeByte : Text → Nat → Nat
  | [], _ => 0
  | c :: t, byte => if byte = 0 then 0 else charsBeforeByte t (byte - c.utf8Size) + 1

variable {content : Text} {column u : UInt32} {k : Nat}

/-! ## Bytes -/

/-- The byte at which a character begins has the characters before it. -/
theorem charsBeforeByte_bytes_take (content : Text) (hk : k ≤ content.length) :
    charsBeforeByte content (bytes (content.take k)) = k := by
  induction content generalizing k with
  | nil =>
      obtain rfl := Nat.le_zero.1 hk
      rfl
  | cons c content ih =>
      cases k with
      | zero => simp [charsBeforeByte]
      | succ k =>
          have hpos := c.utf8Size_pos
          have hk : k ≤ content.length := Nat.le_of_succ_le_succ hk
          rw [List.take_succ_cons, bytes_cons, charsBeforeByte, if_neg (by omega),
            Nat.add_sub_cancel_left, ih hk]

/-- The two searches for a column pass the same characters, one in bytes and one by number. -/
theorem byteOfColumnFrom_eq (column u : UInt32) (content : Text) :
    byteOfColumnFrom column u content =
      bytes (content.take (indexOfColumnFrom column u content)) := by
  induction content generalizing u with
  | nil => rfl
  | cons c content ih =>
      rw [byteOfColumnFrom, indexOfColumnFrom]
      split
      · rfl
      · rw [ih, List.take_succ_cons, bytes_cons]

/-- Before the byte of a column begin the characters that begin before the column. -/
theorem charsBeforeByte_byteOfColumn (content : Text) (column : UInt32) :
    charsBeforeByte content (byteOfColumn content column) = indexOfColumn content column := by
  rw [byteOfColumn, byteOfColumnFrom_eq,
    charsBeforeByte_bytes_take content (indexOfColumnFrom_le_length column 0 content)]
  rfl

/-! ## Where a column lies -/

/-- The end of the character at an index. -/
theorem units_take_succ {c : Char} (hc : content[k]? = some c) :
    units (content.take (k + 1)) = units (content.take k) + charUnits c := by
  rw [List.take_add_one, units_append, hc]
  rfl

/-- A column is the place of a character or of the end of a line, lies inside a surrogate pair, or
lies behind the end of the line.  The character that holds the unit at the column decides. -/
theorem column_cases (content : Text) (column : Nat) :
    (∃ k, k ≤ content.length ∧ units (content.take k) = column) ∨
      (∃ k, IsInsidePair content k column) ∨ units content < column := by
  have hle := units_take_indexOfUnit_le content column
  have hlength := indexOfUnit_le_length content column
  rcases Nat.eq_or_lt_of_le hle with heq | hlt
  · exact Or.inl ⟨_, hlength, heq⟩
  rcases Nat.eq_or_lt_of_le hlength with hend | hin
  · rw [hend, List.take_length] at hlt
    exact Or.inr (Or.inr hlt)
  · have hc := List.getElem?_eq_getElem hin
    refine Or.inr (Or.inl ⟨indexOfUnit content column, _, hc, ?_⟩)
    have hnext := units_take_succ hc
    have htwo := charUnits_le_two content[indexOfUnit content column]
    have hbehind : column < units (content.take (indexOfUnit content column + 1)) := by
      by_contra hpassed
      have hmono := indexOfUnit_mono content (Nat.le_of_not_lt hpassed)
      rw [indexOfUnit_units_take content hin] at hmono
      omega
    omega

namespace IsInsidePair

variable {column : Nat}

theorem lt_length (h : IsInsidePair content k column) : k < content.length := by
  obtain ⟨c, hc, -, -⟩ := h
  exact (List.getElem?_eq_some_iff.1 hc).1

/-- The pair ends one code unit behind the column. -/
theorem units_take_succ_eq (h : IsInsidePair content k column) :
    units (content.take (k + 1)) = column + 1 := by
  obtain ⟨c, hc, htwo, hcolumn⟩ := h
  rw [units_take_succ hc, htwo, hcolumn]

theorem lt_units (h : IsInsidePair content k column) : column < units content := by
  have hle := units_take_le content (k + 1)
  rw [h.units_take_succ_eq] at hle
  exact hle

/-- The code unit at the column belongs to the character of the pair. -/
theorem indexOfUnit_eq (h : IsInsidePair content k column) : indexOfUnit content column = k := by
  have hlength := h.lt_length
  have hstart := indexOfUnit_units_take content (Nat.le_of_lt hlength)
  have hcolumn : units (content.take k) ≤ column := by
    obtain ⟨c, -, -, hcolumn⟩ := h
    omega
  have hlow := indexOfUnit_mono content hcolumn
  have hhigh : indexOfUnit content column ≤ k := by
    by_contra hpassed
    have hmono := units_take_mono content (Nat.lt_of_not_le hpassed)
    have hle := units_take_indexOfUnit_le content column
    have hnext := h.units_take_succ_eq
    rw [Nat.succ_eq_add_one] at hmono
    omega
  omega

end IsInsidePair

/-! ## Where a search ends -/

/-- A column that is the place of a character, or of the end of the line, is found there. -/
theorem indexOfColumn_of_units_eq (hk : k ≤ content.length)
    (h : units (content.take k) = column.toNat) : indexOfColumn content column = k := by
  have hbefore : ∀ i < k, units (content.take i) < column.toNat := by
    intro i hi
    have hmono := units_take_mono content (Nat.succ_le_of_lt hi)
    have hpos := charUnits_pos content[i]
    rw [units_take_succ (List.getElem?_eq_getElem (by omega))] at hmono
    omega
  have hsum : units32 (content.take k) = column := by
    rw [units32, h, Nat.toUInt32, UInt32.ofNat_toNat]
  have hreached : column ≤ units32 (content.take k) :=
    UInt32.le_iff_toNat_le.2 (Nat.le_of_eq (congrArg UInt32.toNat hsum.symm))
  rw [indexOfColumn_eq_add hk hbefore, indexOfColumnFrom_of_le hreached, Nat.add_zero]

/-- A column behind the end of a line is found at this end. -/
theorem indexOfColumn_of_units_lt (h : units content < column.toNat) :
    indexOfColumn content column = content.length := by
  have hbefore : ∀ i < content.length, units (content.take i) < column.toNat := fun i _ =>
    Nat.lt_of_le_of_lt (units_take_le content i) h
  rw [indexOfColumn_eq_add (Nat.le_refl _) hbefore, List.drop_length]
  rfl

/-- A column inside a pair is not reached before the end of the pair. -/
theorem IsInsidePair.indexOfColumn_eq_add (h : IsInsidePair content k column.toNat) :
    indexOfColumn content column = k + 1 +
      indexOfColumnFrom column (column + 1) (content.drop (k + 1)) := by
  have hbefore : ∀ i < k + 1, units (content.take i) < column.toNat := by
    intro i hi
    have hmono := units_take_mono content (Nat.le_of_lt_succ hi)
    obtain ⟨c, -, -, hcolumn⟩ := h
    omega
  have hsum : units32 (content.take (k + 1)) = column + 1 := by
    rw [units32, h.units_take_succ_eq, Nat.toUInt32, UInt32.ofNat_add, UInt32.ofNat_toNat]
    rfl
  rw [Text.indexOfColumn_eq_add h.lt_length hbefore, hsum]

/-! ## The two readings -/

/-- On a line that exists, a column leads an edit as far behind the start of the line as there are
characters before the byte to which it leads a hover, unless it lies inside a surrogate pair: there
an edit falls on the character of the pair, and a hover on the character behind it.  Only at the
greatest column, inside a pair that begins more code units behind the start of its line than words
can count, a hover does not notice that the column is reached: its sum has wrapped, and it begins
anew behind the pair. -/
theorem offset_byteOfColumn {t : Text} {p : Position} {l : Line}
    (hl : (lines t)[p.line.toNat]? = some l) :
    ∃ a b, offset t p = lineStart t p.line.toNat + a ∧
      charsBeforeByte l.content (byteOfColumn l.content p.column) = b ∧
      indexOfColumn l.content p.column = b ∧
      ((¬∃ k, IsInsidePair l.content k p.column.toNat) → a = b) ∧
      ∀ k, IsInsidePair l.content k p.column.toNat →
        a = k ∧
        (p.column.toNat + 1 < UInt32.size ∨ units l.content < UInt32.size → b = k + 1) ∧
        (p.column.toNat + 1 = UInt32.size →
          b = k + 1 + indexOfColumn (l.content.drop (k + 1)) p.column) := by
  refine ⟨indexOfUnit l.content p.column.toNat, indexOfColumn l.content p.column,
    offset_eq_lineStart_add hl, charsBeforeByte_byteOfColumn _ _, rfl, fun houtside => ?_,
    fun k hk => ⟨hk.indexOfUnit_eq, fun hsmall => ?_, fun hgreatest => ?_⟩⟩
  · rcases column_cases l.content p.column.toNat with ⟨k, hk, hunits⟩ | hinside | hbehind
    · rw [indexOfColumn_of_units_eq hk hunits, ← hunits, indexOfUnit_units_take _ hk]
    · exact absurd hinside houtside
    · rw [indexOfColumn_of_units_lt hbehind, indexOfUnit_of_units_le (Nat.le_of_lt hbehind)]
  · have hlt := hk.lt_units
    have hsum : (p.column + 1).toNat = p.column.toNat + 1 := by
      rw [UInt32.toNat_add, UInt32.toNat_one]
      exact Nat.mod_eq_of_lt (show _ < UInt32.size by omega)
    have hreached : p.column ≤ p.column + 1 := by
      rw [UInt32.le_iff_toNat_le, hsum]
      exact Nat.le_succ _
    rw [hk.indexOfColumn_eq_add, indexOfColumnFrom_of_le hreached, Nat.add_zero]
  · have hzero : p.column + 1 = 0 := by
      rw [← UInt32.toNat_inj, UInt32.toNat_add, UInt32.toNat_one, hgreatest]
      rfl
    rw [hk.indexOfColumn_eq_add, hzero]
    rfl

/-- On the second of two lines, inside the surrogate pair with which it begins an edit falls before
the pair and a hover behind it; directly behind the pair both fall on the letter. -/
theorem offset_byteOfColumn_of_pair :
    let t : Text := "x\r\n😀a".toList
    let content : Text := "😀a".toList
    (lines t)[1]? = some ⟨content, []⟩ ∧ IsInsidePair content 0 1 ∧
      offset t ⟨1, 1⟩ = lineStart t 1 ∧ indexOfColumn content 1 = 1 ∧
      (¬∃ k, IsInsidePair content k 2) ∧
      offset t ⟨1, 2⟩ = lineStart t 1 + charsBeforeByte content (byteOfColumn content 2) := by
  intro t content
  have hl : (lines t)[1]? = some ⟨content, []⟩ := by decide +kernel
  have hinside : IsInsidePair content 0 1 := ⟨'😀', rfl, by decide, rfl⟩
  have houtside : ¬∃ k, IsInsidePair content k 2 := by
    rintro ⟨k, hk⟩
    have hone : indexOfUnit content 2 = 1 := by decide
    obtain rfl := hk.indexOfUnit_eq.symm.trans hone
    obtain ⟨c, hc, htwo, -⟩ := hk
    cases hc
    exact absurd htwo (by decide)
  refine ⟨hl, hinside, ?_, ?_, houtside, ?_⟩
  · obtain ⟨a, b, ha, -, -, -, hpair⟩ := offset_byteOfColumn (t := t) (p := ⟨1, 1⟩) hl
    obtain ⟨rfl, -⟩ := hpair 0 hinside
    exact ha
  · obtain ⟨a, b, -, -, hb, -, hpair⟩ := offset_byteOfColumn (t := t) (p := ⟨1, 1⟩) hl
    obtain ⟨-, hsmall, -⟩ := hpair 0 hinside
    exact hb.trans (hsmall (Or.inl (by decide)))
  · obtain ⟨a, b, ha, hb, -, hequal, -⟩ := offset_byteOfColumn (t := t) (p := ⟨1, 2⟩) hl
    obtain rfl := hequal houtside
    exact ha.trans (congrArg (lineStart t 1 + ·) hb.symm)

/-- On a line that words cannot measure, the greatest column lies inside a pair; an edit falls in
front of the pair, but a hover behind all three characters from there on. -/
theorem offset_byteOfColumn_of_overlongLine :
    lines overlongLine = [⟨overlongLine, []⟩] ∧ lineStart overlongLine 0 = 0 ∧
      IsInsidePair overlongLine (UInt32.size - 2) (0xFFFFFFFF : UInt32).toNat ∧
      offset overlongLine ⟨0, 0xFFFFFFFF⟩ = UInt32.size - 2 ∧
      charsBeforeByte overlongLine (byteOfColumn overlongLine 0xFFFFFFFF) =
        UInt32.size - 2 + 3 := by
  have hinside : IsInsidePair overlongLine (UInt32.size - 2) (0xFFFFFFFF : UInt32).toNat := by
    refine ⟨'😀', getElem?_overlongLine 0, by decide, ?_⟩
    rw [units_take_overlongLine_of_le (Nat.le_refl _)]
    decide
  refine ⟨lines_overlongLine, lineStart_zero _, hinside, ?_, ?_⟩
  · rw [offset_of_lines_eq_singleton lines_overlongLine]
    exact hinside.indexOfUnit_eq
  · rw [charsBeforeByte_byteOfColumn]
    exact indexOfColumn_overlongLine

end Text
end LmntalServer
