import LmntalServer.Proofs.Text.LineStarts
import LmntalServer.Proofs.Text.Offset

/-!
# Positions and indices

An index of a text has a line, which the scanner finds from its bytes, and a column, which counts
code units from the start of this line.  A client that sends these two back as a position gets the
index back.  The one exception is the place between the two characters of a line break, for which
no position stands.  The other way round a position on a line that exists falls on this very line.

Main definitions:

* `Text.lineAt`, `Text.columnAt`: the line and the column of an index.
* `Text.IsInsideBreak`: the place between the two characters of a line break.
* `Text.breakCount`: the number of line breaks of a text.

Main results:

* `Text.offset_of_lineAt`: from an index to its position and back.
* `Text.lineAt_offset`: from a position to its index and back to the line.
* `Text.offset_lineAt_columnAt`: the two together, with the ends of the text.
-/

namespace LmntalServer
namespace Text

/-- Whether an index lies between the carriage return and the line feed of one line break. -/
def IsInsideBreak (t : Text) (i : Nat) : Prop :=
  ∃ pre post, t = pre ++ '\r' :: '\n' :: post ∧ i = pre.length + 1

/-- The line of an index: the line of the byte at which its character starts. -/
def lineAt (t : Text) (i : Nat) : Nat :=
  lineOfByte t (bytes (t.take i))

/-- The column of an index: the code units between the start of its line and the index. -/
def columnAt (t : Text) (i : Nat) : Nat :=
  units ((t.take i).drop (lineStart t (lineAt t i)))

/-- The number of line breaks of a text. -/
def breakCount (t : Text) : Nat :=
  (lines t).countP (fun l => l.ending ≠ [])

variable {t : Text} {n k i : Nat} {l : Line}

/-! ## Lines and line breaks -/

/-- Every line but the last ends with a line break. -/
theorem breakCount_add_one (t : Text) : breakCount t + 1 = lineCount t := by
  induction t using lineInduction with
  | nil => rfl
  | ending e t he ih =>
      have hne : e ≠ [] := List.ne_nil_of_length_pos he.length_pos
      rw [lineCount_ending_append he, ← ih, breakCount, lines_ending_append he, List.countP_cons]
      simp [hne, breakCount]
  | char c t hc ih =>
      obtain ⟨l, ls, hls⟩ := List.exists_cons_of_ne_nil (lines_ne_nil t)
      rw [breakCount, lineCount, hls] at ih
      rw [breakCount, lineCount, lines_cons hc, hls, consLine]
      simpa [List.countP_cons] using ih

/-- The last place of a text lies on its last line. -/
theorem breaksUpTo_length (t : Text) : breaksUpTo t t.length = breakCount t := by
  have hall := breaksUpTo_add_lineCount t []
  have hcount := breakCount_add_one t
  rw [List.append_nil] at hall
  have hone : lineCount [] = 1 := rfl
  omega

/-- The line of an index is the number of line breaks up to it. -/
theorem lineAt_eq_breaksUpTo (hi : i ≤ t.length) : lineAt t i = breaksUpTo t i :=
  lineOfByte_bytes_take hi

/-- Byte offsets behind the end of a text belong to its last line. -/
theorem lineOfByte_of_bytes_le {offset : Nat} (h : t.bytes ≤ offset) :
    lineOfByte t offset = breakCount t := by
  have hend := lineAt_eq_breaksUpTo (Nat.le_refl t.length)
  rw [lineAt, List.take_length, breaksUpTo_length] at hend
  rw [← hend, lineOfByte, lineOfByte, Nat.min_eq_right h, Nat.min_self]

/-! ## Places on a line -/

/-- No place from the start of a line to the end of its content lies inside a line break. -/
theorem not_isInsideBreak_lineStart_add (hl : (lines t)[n]? = some l)
    (hk : k ≤ l.content.length) : ¬IsInsideBreak t (lineStart t n + k) := by
  rintro ⟨front, back, hinside, hindex⟩
  obtain ⟨pre, post, ht, hlength, hstart, -, -⟩ := exists_of_getElem?_lines hl
  cases k with
  | zero =>
      have hfront : t = (front ++ ['\r']) ++ '\n' :: back := by
        rw [hinside, List.append_assoc]
        rfl
      have hpre : pre = front ++ ['\r'] ∧ l.content ++ (l.ending ++ post) = '\n' :: back := by
        refine List.append_inj (ht.symm.trans hfront) ?_
        rw [List.length_append, List.length_singleton]
        omega
      rw [hpre.1, hpre.2, List.getLast?_concat] at hstart
      cases hstart
  | succ k =>
      have hcontent : t[pre.length + k]? = some l.content[k] := by
        rw [ht, List.getElem?_append_right (Nat.le_add_right _ _), Nat.add_sub_cancel_left,
          List.getElem?_append_left hk, List.getElem?_eq_getElem]
      have hreturn : t[pre.length + k]? = some '\r' := by
        rw [hinside, show pre.length + k = front.length by omega]
        simp
      have hbreak := isBreak_eq_false_of_mem_lines (List.mem_of_getElem? hl)
        (List.getElem_mem (l := l.content) hk)
      rw [hcontent] at hreturn
      rw [Option.some.inj hreturn] at hbreak
      cases hbreak

/-- The code units from the start of a line to a place in its content. -/
theorem units_drop_lineStart (hl : (lines t)[n]? = some l) (hk : k ≤ l.content.length) :
    units ((t.take (lineStart t n + k)).drop (lineStart t n)) = units (l.content.take k) := by
  obtain ⟨post, hdrop, -⟩ := exists_drop_lineStart hl
  rw [List.drop_take, Nat.add_sub_cancel_left, hdrop, List.take_append_of_le_length hk]

/-! ## Round trips -/

/-- The line and the column of an index of a text that is not too long are those of a position. -/
theorem exists_position_eq (hi : i ≤ t.length) (hsmall : units t < UInt32.size) :
    ∃ p : Position, p.line.toNat = lineAt t i ∧ p.column.toNat = columnAt t i := by
  have hline : lineAt t i ≤ units t := by
    rw [lineAt_eq_breaksUpTo hi]
    have := breaksUpTo_le t i
    have := length_le_units t
    omega
  have hcolumn : columnAt t i ≤ units t := by
    have hdrop := congrArg units (List.take_append_drop (lineStart t (lineAt t i)) (t.take i))
    have htake := units_take_le t i
    rw [units_append] at hdrop
    unfold columnAt
    omega
  refine ⟨⟨(lineAt t i).toUInt32, (columnAt t i).toUInt32⟩, ?_, ?_⟩
  · exact UInt32.toNat_ofNat_of_lt' (Nat.lt_of_le_of_lt hline hsmall)
  · exact UInt32.toNat_ofNat_of_lt' (Nat.lt_of_le_of_lt hcolumn hsmall)

/-- The position with the line and the column of an index leads back to the index, or, from inside a
line break, where the column lies behind the content, to the place before this line break. -/
theorem offset_of_lineAt {p : Position} (hi : i ≤ t.length) (hline : p.line.toNat = lineAt t i)
    (hcolumn : p.column.toNat = columnAt t i) :
    (¬IsInsideBreak t i → offset t p = i) ∧ (IsInsideBreak t i → offset t p + 1 = i) := by
  obtain ⟨l, hl, hlow, hhigh⟩ := exists_line_of_le_length hi
  rw [columnAt] at hcolumn
  rw [lineAt_eq_breaksUpTo hi] at hline
  rw [lineAt_eq_breaksUpTo hi] at hcolumn
  rw [← hline] at hl hlow hhigh hcolumn
  obtain ⟨k, rfl⟩ := Nat.exists_eq_add_of_le hlow
  have hoffset := offset_eq_lineStart_add hl
  rcases hhigh with hk | ⟨hending, hk⟩
  · have hk : k ≤ l.content.length := Nat.le_of_add_le_add_left hk
    have hout := not_isInsideBreak_lineStart_add hl hk
    rw [hcolumn, units_drop_lineStart hl hk, indexOfUnit_units_take l.content hk] at hoffset
    exact ⟨fun _ => hoffset, fun hinside => absurd hinside hout⟩
  · have hinside : IsInsideBreak t (lineStart t p.line.toNat + k) := by
      obtain ⟨pre, post, ht, hlength, -, -, -⟩ := exists_of_getElem?_lines hl
      refine ⟨pre ++ l.content, post, ?_, ?_⟩
      · rw [hending] at ht
        rw [List.append_assoc]
        exact ht
      · rw [List.length_append]
        omega
    have hunits : units l.content ≤ p.column.toNat := by
      have hwhole := units_drop_lineStart hl (Nat.le_refl l.content.length)
      have hmono : units ((t.take (lineStart t p.line.toNat + l.content.length)).drop
          (lineStart t p.line.toNat)) ≤ p.column.toNat := by
        rw [hcolumn, List.drop_take, List.drop_take]
        exact units_take_mono _ (by omega)
      rw [List.take_length] at hwhole
      omega
    rw [indexOfUnit_of_units_le hunits] at hoffset
    refine ⟨fun hout => absurd hinside hout, fun _ => ?_⟩
    omega

/-- A position falls on a place of its own line, which never lies inside a line break. -/
theorem lineAt_offset {p : Position} (hp : p.line.toNat < lineCount t) :
    lineAt t (offset t p) = p.line.toNat ∧ ¬IsInsideBreak t (offset t p) := by
  obtain ⟨l, hl⟩ : ∃ l, (lines t)[p.line.toNat]? = some l :=
    ⟨_, List.getElem?_eq_getElem hp⟩
  have hle := indexOfUnit_le_length l.content p.column.toNat
  constructor
  · rw [lineAt_eq_breaksUpTo (offset_le_length t p), offset_eq_lineStart_add hl]
    exact breaksUpTo_lineStart_add hl hle
  · rw [offset_eq_lineStart_add hl]
    exact not_isInsideBreak_lineStart_add hl hle

/-- From every index of a text to its position and back: the line is that of the byte offset of the
index and the column counts the code units from the start of this line.  The way back leads to the
index again, and from inside a line break to the place before it; the position exists for every
index of a text of fewer than `UInt32.size` code units.  From a position to its index and back: the
index lies on the line of the position and never inside a line break, and it is the end of the text
for a line that does not exist.  The line of a byte offset grows with the offset, up to the last
line of the text. -/
theorem offset_lineAt_columnAt (t : Text) :
    (∀ i ≤ t.length, ∀ p : Position, p.line.toNat = lineAt t i → p.column.toNat = columnAt t i →
      (¬IsInsideBreak t i → offset t p = i) ∧ (IsInsideBreak t i → offset t p + 1 = i)) ∧
    (units t < UInt32.size → ∀ i ≤ t.length,
      ∃ p : Position, p.line.toNat = lineAt t i ∧ p.column.toNat = columnAt t i) ∧
    (∀ p : Position, p.line.toNat < lineCount t →
      lineAt t (offset t p) = p.line.toNat ∧ ¬IsInsideBreak t (offset t p)) ∧
    (∀ p : Position, lineCount t ≤ p.line.toNat →
      offset t p = t.length ∧ lineAt t (offset t p) = breakCount t) ∧
    (∀ a b : Nat, a ≤ b → lineOfByte t a ≤ lineOfByte t b) ∧
    (∀ b : Nat, t.bytes ≤ b → lineOfByte t b = breakCount t) := by
  refine ⟨?_, ?_, ?_, ?_, ?_, ?_⟩
  · intro i hi p hline hcolumn
    exact offset_of_lineAt hi hline hcolumn
  · intro hsmall i hi
    exact exists_position_eq hi hsmall
  · intro p hp
    exact lineAt_offset hp
  · intro p hp
    have hend : offset t p = t.length := offset_eq_length (List.getElem?_eq_none hp)
    constructor
    · exact hend
    · rw [hend, lineAt_eq_breaksUpTo (Nat.le_refl _), breaksUpTo_length]
  · intro a b hab
    exact lineOfByte_mono t hab
  · intro b hb
    exact lineOfByte_of_bytes_le hb

/-- A place inside a line break, a place behind a surrogate pair, a position behind the content of
its line, and one behind the last line. -/
theorem offset_lineAt_columnAt_of_three_breaks :
    let t : Text := "é\r\n𝑥b\rc\n".toList
    units t < UInt32.size ∧
      (∃ p : Position, p.line.toNat = lineAt t 2 ∧ p.column.toNat = columnAt t 2) ∧
      IsInsideBreak t 2 ∧ offset t ⟨0, 2⟩ + 1 = 2 ∧
      ¬IsInsideBreak t 4 ∧ offset t ⟨1, 2⟩ = 4 ∧
      lineAt t (offset t ⟨1, 9⟩) = 1 ∧ ¬IsInsideBreak t (offset t ⟨1, 9⟩) ∧
      offset t ⟨7, 0⟩ = 8 ∧ lineAt t (offset t ⟨7, 0⟩) = 3 ∧
      lineOfByte t 3 ≤ lineOfByte t 4 ∧ lineOfByte t 99 = 3 := by
  intro t
  obtain ⟨hback, hexists, hline, hbehind, hmono, hlast⟩ := offset_lineAt_columnAt t
  have hinside : IsInsideBreak t 2 := ⟨['é'], "𝑥b\rc\n".toList, rfl, rfl⟩
  have hout : ¬IsInsideBreak t 4 := by
    have hfour : offset t ⟨1, 2⟩ = 4 := by decide +kernel
    have h := (hline ⟨1, 2⟩ (by decide +kernel)).2
    rwa [hfour] at h
  have htwo := hback 2 (by decide) ⟨0, 2⟩ (by decide +kernel) (by decide +kernel)
  have hfour := hback 4 (by decide) ⟨1, 2⟩ (by decide +kernel) (by decide +kernel)
  have hnine := hline ⟨1, 9⟩ (by decide +kernel)
  have hseven := hbehind ⟨7, 0⟩ (by decide +kernel)
  have hcount : breakCount t = 3 := by decide +kernel
  refine ⟨by decide +kernel, hexists (by decide +kernel) 2 (by decide), hinside, htwo.2 hinside,
    hout, hfour.1 hout, hnine.1, hnine.2, hseven.1, ?_, hmono 3 4 (by decide), ?_⟩
  · rw [hseven.2, hcount]
  · rw [hlast 99 (by decide +kernel), hcount]

end Text
end LmntalServer
