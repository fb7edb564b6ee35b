import LmntalServer.Proofs.Symbol.Grammar
import LmntalServer.Proofs.Text.LineBreaks

/-!
# Steps of a scan

A scan goes through a text character by character and notes the heads that it meets.  It takes one
step in front of a written head, which is noted and passed as a whole, and one in front of any
other character.  While it goes on, the line of its place and the number of lines still before it
make up the same sum.

Main results:

* `Text.Place.line_advance_add_lineCount`: lines behind a place and lines in front of it.
* `Text.exists_headsFrom_append_length`: a scan that passes some characters.
* `Text.exists_headsFrom_chars_append`: a scan in front of a head.
* `Text.headsFrom_cons_of_not_written`: a scan in front of any other character.
-/

namespace LmntalServer
namespace Text

/-- Passing a character moves its line break, if it ends one, from the lines in front of the place
to those behind it. -/
theorem Place.line_advance_add_lineCount (p : Place) (c : Char) (t : Text) :
    (p.advance c t).line + lineCount t = p.line + lineCount (c :: t) := by
  rw [lineCount_cons]
  simp only [Place.advance]
  split <;> omega

/-- After passing as many characters as belong to a head, a scan goes on behind them. -/
theorem exists_headsFrom_append_length (p : Place) (a t : Text) :
    ∃ q : Place, headsFrom p a.length (a ++ t) = headsFrom q 0 t ∧
      q.line + lineCount t = p.line + lineCount (a ++ t) ∧ q.before = a.getLast?.or p.before := by
  induction a generalizing p with
  | nil => exact ⟨p, rfl, rfl, rfl⟩
  | cons c a ih =>
      obtain ⟨q, hheads, hline, hbefore⟩ := ih (p.advance c (a ++ t))
      refine ⟨q, hheads, ?_, ?_⟩
      · rw [hline, Place.line_advance_add_lineCount]
        rfl
      · rw [hbefore, List.getLast?_cons]
        cases a.getLast? <;> rfl

/-- In front of a written head with which a line starts, a scan notes it and goes on behind its
rule sign. -/
theorem exists_headsFrom_chars_append {p : Place} {w : WrittenHead} {t : Text}
    (h : startsLine p.before (w.chars ++ t) = true) :
    ∃ q : Place, headsFrom p 0 (w.chars ++ t) =
        ⟨w.shape, p.index, p.line⟩ :: headsFrom q 0 t ∧
      q.line + lineCount t = p.line + lineCount (w.chars ++ t) ∧ q.before = some '-' := by
  have hfound := headShape?_append w t
  have hlast : w.chars.getLast? = some '-' := by
    simp [WrittenHead.chars, WrittenHead.afterName, List.getLast?_append]
  have hlength : w.shape.length = w.chars.length := rfl
  cases hchars : w.chars with
  | nil =>
      rw [hchars] at hlast
      cases hlast
  | cons c a =>
      rw [hchars] at h hfound hlast hlength
      rw [List.cons_append] at h hfound ⊢
      obtain ⟨q, hheads, hline, hbefore⟩ :=
        exists_headsFrom_append_length (p.advance c (a ++ t)) a t
      refine ⟨q, ?_, ?_, ?_⟩
      · rw [headsFrom, if_pos h, hfound]
        simp only [hlength, List.length_cons, Nat.add_sub_cancel, hheads]
      · rw [hline, Place.line_advance_add_lineCount]
      · rw [hbefore, ← hlast, List.getLast?_cons]
        cases a.getLast? <;> rfl

/-- In front of anything else a scan passes one character. -/
theorem headsFrom_cons_of_not_written {p : Place} {c : Char} {t : Text}
    (h : startsLine p.before (c :: t) = true →
      ∀ (w : WrittenHead) (s : Text), c :: t ≠ w.chars ++ s) :
    headsFrom p 0 (c :: t) = headsFrom (p.advance c t) 0 t := by
  rw [headsFrom]
  split
  · next shape hshape =>
      split at hshape
      · next hstart =>
          obtain ⟨w, s, hw, -⟩ := exists_of_headShape? hshape
          exact absurd hw (h hstart w s)
      · cases hshape
  · rfl

/-- No head begins with a character of a line break. -/
theorem ne_chars_append_of_isBreak {c : Char} (hc : isBreak c = true) (t : Text)
    (w : WrittenHead) (s : Text) : c :: t ≠ w.chars ++ s := by
  intro h
  obtain ⟨d, n, hn, hd⟩ := w.isName.exists_eq_cons
  rw [WrittenHead.chars] at h
  cases hindent : w.indent with
  | nil =>
      rw [hindent, hn] at h
      cases h
      rw [isBreak_eq_false_of_isNameChar (isNameChar_of_isNameStart hd)] at hc
      cases hc
  | cons b indent =>
      have hblank := w.indent_blank b (hindent ▸ List.mem_cons_self)
      rw [hindent] at h
      cases h
      rw [isBreak_eq_false_of_isBlank hblank] at hc
      cases hc

/-- A scan passes a line break, and a line starts behind it. -/
theorem exists_headsFrom_ending_append {e t : Text} (he : IsEnding e t) (p : Place) :
    ∃ q : Place, headsFrom p 0 (e ++ t) = headsFrom q 0 t ∧
      q.line + lineCount t = p.line + lineCount (e ++ t) ∧ startsLine q.before t = true := by
  have hstep : ∀ {c : Char}, isBreak c = true → ∀ (p : Place) (t : Text),
      headsFrom p 0 (c :: t) = headsFrom (p.advance c t) 0 t := fun hc p t =>
    headsFrom_cons_of_not_written fun _ => ne_chars_append_of_isBreak hc t
  cases he with
  | lineFeed =>
      exact ⟨_, hstep rfl p t, Place.line_advance_add_lineCount p '\n' t, rfl⟩
  | pair =>
      exact ⟨_, (hstep rfl p _).trans (hstep rfl _ t),
        (Place.line_advance_add_lineCount _ '\n' t).trans
          (Place.line_advance_add_lineCount p '\r' ('\n' :: t)), rfl⟩
  | carriageReturn h =>
      refine ⟨_, hstep rfl p t, Place.line_advance_add_lineCount p '\r' t, ?_⟩
      simpa [Place.advance, startsLine] using h

end Text
end LmntalServer
