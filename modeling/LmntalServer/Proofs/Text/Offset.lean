import LmntalServer.Text.Position

/-!
# Where positions fall

The offset of a position is found in two steps that can be told apart: the column is added to the
line's start and kept within the line's content, all in code units, and the result is rounded down
to the character that holds this code unit.  The order in which columns are clamped and characters
are found makes no difference.  So a column can as well be resolved on the content of its line
alone, and the result be added to the start of the line.

Main results:

* `Text.indexOfUnit_mono`: later code units belong to later characters.
* `Text.indexOfUnit_append`, `Text.indexOfUnit_append_of_le`: code units in the second and in the
  first of two parts.
* `Text.take_lineStart_add_content`: what stands before the end of a line's content.
* `Text.offset_eq_indexOfUnit`, `Text.offset_eq_lineStart_add`: the offset of a position on a line
  that exists, by the units of the text and by those of the line.
* `Text.offset_eq_length`: the offset of a position on a line that does not exist.
-/

namespace LmntalServer
namespace Text

/-! ## Code units of prefixes -/

/-- A longer prefix has at least as many code units. -/
theorem units_take_mono (t : Text) {i j : Nat} (h : i ≤ j) :
    units (t.take i) ≤ units (t.take j) := by
  have hsplit := List.take_append_drop i (t.take j)
  rw [List.take_take, Nat.min_eq_left h] at hsplit
  rw [← hsplit, units_append]
  exact Nat.le_add_right _ _

theorem units_take_le (t : Text) (i : Nat) : units (t.take i) ≤ units t := by
  have h := congrArg units (List.take_append_drop i t)
  rw [units_append] at h
  omega

/-- Later code units belong to later characters. -/
theorem indexOfUnit_mono (t : Text) {u v : Nat} (h : u ≤ v) :
    indexOfUnit t u ≤ indexOfUnit t v := by
  induction t generalizing u v with
  | nil => simp
  | cons c t ih =>
      simp only [indexOfUnit]
      by_cases hu : charUnits c ≤ u
      · rw [if_pos hu, if_pos (Nat.le_trans hu h)]
        exact Nat.succ_le_succ (ih (by omega))
      · rw [if_neg hu]
        exact Nat.zero_le _

@[simp]
theorem indexOfUnit_zero (t : Text) : indexOfUnit t 0 = 0 := by
  cases t with
  | nil => rfl
  | cons c t =>
      have hpos := charUnits_pos c
      rw [indexOfUnit, if_neg (by omega)]

/-- The code units behind the first part of a text belong to characters of the second. -/
theorem indexOfUnit_append (s t : Text) (u : Nat) :
    indexOfUnit (s ++ t) (units s + u) = s.length + indexOfUnit t u := by
  induction s with
  | nil => simp
  | cons c s ih =>
      have hle : charUnits c ≤ charUnits c + units s + u := by omega
      have hrest : charUnits c + units s + u - charUnits c = units s + u := by omega
      rw [List.cons_append, indexOfUnit, units_cons, if_pos hle, hrest, ih, List.length_cons]
      omega

/-- The code units up to the end of the first part of a text are found in this part alone. -/
theorem indexOfUnit_append_of_le {s : Text} {u : Nat} (hu : u ≤ units s) (t : Text) :
    indexOfUnit (s ++ t) u = indexOfUnit s u := by
  induction s generalizing u with
  | nil =>
      rw [units_nil, Nat.le_zero] at hu
      rw [hu, indexOfUnit_zero, indexOfUnit_zero]
  | cons c s ih =>
      rw [List.cons_append, indexOfUnit, indexOfUnit]
      rw [units_cons] at hu
      by_cases hc : charUnits c ≤ u
      · rw [if_pos hc, if_pos hc, ih (by omega)]
      · rw [if_neg hc, if_neg hc]

/-- Code units behind the end of a text belong to its end. -/
theorem indexOfUnit_of_units_le {t : Text} {u : Nat} (hu : units t ≤ u) :
    indexOfUnit t u = t.length := by
  have hend := indexOfUnit_mono t hu
  have hunits := indexOfUnit_units_take t (Nat.le_refl t.length)
  have hle := indexOfUnit_le_length t u
  rw [List.take_length] at hunits
  omega

/-! ## Lines as prefixes -/

/-- What stands before a line are the lines before it. -/
theorem take_lineStart (t : Text) (n : Nat) :
    t.take (lineStart t n) = ((lines t).take n).flatMap Line.chars := by
  have hsplit : t = ((lines t).take n).flatMap Line.chars ++
      ((lines t).drop n).flatMap Line.chars := by
    rw [← List.flatMap_append, List.take_append_drop, flatMap_chars_lines]
  exact (congrArg (List.take _) hsplit).trans List.take_left

/-- What stands before the end of the content of a line are the lines before it and the content. -/
theorem take_lineStart_add_content {t : Text} {n : Nat} {l : Line} (h : (lines t)[n]? = some l) :
    t.take (lineStart t n + l.content.length) = t.take (lineStart t n) ++ l.content := by
  have hdrop : (lines t).drop n = l :: (lines t).drop (n + 1) := by
    obtain ⟨hn, rfl⟩ := List.getElem?_eq_some_iff.1 h
    exact List.drop_eq_getElem_cons hn
  have hsplit : t = ((lines t).take n).flatMap Line.chars ++ (l.content ++
      (l.ending ++ ((lines t).drop (n + 1)).flatMap Line.chars)) := by
    rw [← List.append_assoc l.content, show l.content ++ l.ending = l.chars from rfl,
      ← List.flatMap_cons, ← hdrop, ← List.flatMap_append, List.take_append_drop,
      flatMap_chars_lines]
  rw [take_lineStart]
  refine (congrArg (List.take _) hsplit).trans ?_
  unfold lineStart
  rw [List.take_length_add_append, List.take_left]

/-- The code units up to the end of a line's content are those in front of the line and those of the
content. -/
theorem units_take_lineStart_add_content {t : Text} {n : Nat} {l : Line}
    (h : (lines t)[n]? = some l) :
    units (t.take (lineStart t n + l.content.length)) =
      units (t.take (lineStart t n)) + units l.content := by
  rw [take_lineStart_add_content h, units_append]

/-! ## Positions -/

/-- A position on a line that does not exist falls on the end of the text. -/
theorem offset_eq_length {t : Text} {p : Position} (h : (lines t)[p.line.toNat]? = none) :
    offset t p = t.length := by
  unfold offset
  rw [h]

/-- A position on a line that exists falls on the character that holds the code unit at its column,
or at the end of the line's content if the column lies behind it.  Both ends of the content are
characters of the text, so that clamping before and after the search for the character agree. -/
theorem offset_eq_indexOfUnit {t : Text} {p : Position} {l : Line}
    (h : (lines t)[p.line.toNat]? = some l) :
    offset t p = indexOfUnit t
      (units (t.take (lineStart t p.line.toNat)) + min p.column.toNat (units l.content)) := by
  unfold offset
  rw [h]
  have hend := lineStart_add_content_le_length h
  have hstart : lineStart t p.line.toNat ≤ t.length := lineStart_le_length t _
  have hunits := units_take_lineStart_add_content h
  have hle := units_take_le t (lineStart t p.line.toNat + l.content.length)
  have hindexStart := indexOfUnit_units_take t hstart
  have hindexEnd := indexOfUnit_units_take t hend
  rw [hunits] at hindexEnd hle
  have hlow : lineStart t p.line.toNat ≤ indexOfUnit t
      (units (t.take (lineStart t p.line.toNat)) + min p.column.toNat (units l.content)) := by
    have := indexOfUnit_mono t (Nat.le_add_right (units (t.take (lineStart t p.line.toNat)))
      (min p.column.toNat (units l.content)))
    omega
  by_cases hcolumn : p.column.toNat ≤ units l.content
  · have hhigh := indexOfUnit_mono t
      (Nat.add_le_add_left hcolumn (units (t.take (lineStart t p.line.toNat))))
    rw [Nat.min_eq_left hcolumn] at hlow ⊢
    simp only
    rw [Nat.min_eq_left (show _ ≤ units t by omega)]
    omega
  · have hbehind : units l.content ≤ p.column.toNat := by omega
    have hhigh := indexOfUnit_mono t (show
      units (t.take (lineStart t p.line.toNat)) + units l.content ≤
        min (units (t.take (lineStart t p.line.toNat)) + p.column.toNat) (units t) by omega)
    rw [Nat.min_eq_right hbehind]
    simp only
    omega

/-- A position on a line that exists falls as many characters behind the start of the line as the
content of the line has before the character at the column.  The text is what stands in front of the
line, the content of the line, and the rest. -/
theorem offset_eq_lineStart_add {t : Text} {p : Position} {l : Line}
    (h : (lines t)[p.line.toNat]? = some l) :
    offset t p = lineStart t p.line.toNat + indexOfUnit l.content p.column.toNat := by
  have hlength : (t.take (lineStart t p.line.toNat)).length = lineStart t p.line.toNat := by
    rw [List.length_take]
    exact Nat.min_eq_left (lineStart_le_length t _)
  have hsplit : t = t.take (lineStart t p.line.toNat) ++
      (l.content ++ t.drop (lineStart t p.line.toNat + l.content.length)) := by
    rw [← List.append_assoc, ← take_lineStart_add_content h, List.take_append_drop]
  have hclamp : indexOfUnit l.content (min p.column.toNat (units l.content)) =
      indexOfUnit l.content p.column.toNat := by
    rcases Nat.le_total p.column.toNat (units l.content) with hle | hle
    · rw [Nat.min_eq_left hle]
    · rw [Nat.min_eq_right hle, indexOfUnit_of_units_le hle,
        indexOfUnit_of_units_le (Nat.le_refl (units l.content))]
  have hcolumn := indexOfUnit_append (t.take (lineStart t p.line.toNat))
    (l.content ++ t.drop (lineStart t p.line.toNat + l.content.length))
    (min p.column.toNat (units l.content))
  rw [← hsplit, indexOfUnit_append_of_le (Nat.min_le_right _ _), hclamp, hlength] at hcolumn
  rw [offset_eq_indexOfUnit h, hcolumn]

/-- On the only line of a text a column is resolved by itself. -/
theorem offset_of_lines_eq_singleton {t : Text} {l : Line} (h : lines t = [l]) (column : UInt32) :
    offset t ⟨0, column⟩ = indexOfUnit l.content column.toNat := by
  have hl : (lines t)[(⟨0, column⟩ : Position).line.toNat]? = some l := by
    rw [h]
    rfl
  rw [offset_eq_lineStart_add hl]
  exact Nat.zero_add _

end Text
end LmntalServer
