import LmntalServer.Text.Line
import Mathlib.Data.List.Induction

/-!
# Texts by their line breaks

A text is read line break by line break: it is empty, or begins with a whole line break, or with a
character that belongs to none.  This is how its lines are found, and the induction principle of
this module follows it.  A text can be cut wherever a line starts, and its lines are then those of
the two parts; the number of a line is the number of line breaks before it.

Main definitions:

* `IsEnding`: a whole line break in front of a text.
* `Text.lineStartsAt`, `Text.breaksUpTo`: the indices at which lines start, and how many line
  breaks end up to an index.

Main results:

* `Text.lineInduction`: induction over a text by its line breaks.
* `Text.exists_lines_append`, `Text.getElem?_lines_append`: the lines of a text that is cut where a
  line starts.
* `Text.lineCount_cons`, `Text.breaksUpTo_add_lineCount`: how lines are counted.
-/

namespace LmntalServer

/-- A line starts only after a line break. -/
theorem isBreak_of_startsLine {c : Char} {t : Text} (h : startsLine (some c) t = true) :
    isBreak c = true := by
  cases hc : isBreak c with
  | true => rfl
  | false =>
      rw [startsLine_of_not_isBreak hc] at h
      cases h

/-- A whole line break in front of a text: a line feed, a carriage return with its line feed, or a
carriage return that no line feed follows. -/
inductive IsEnding : Text → Text → Prop
  | lineFeed {after : Text} : IsEnding ['\n'] after
  | pair {after : Text} : IsEnding ['\r', '\n'] after
  | carriageReturn {after : Text} (h : after.head? ≠ some '\n') : IsEnding ['\r'] after

theorem IsEnding.isBreak_of_mem {e t : Text} (he : IsEnding e t) {c : Char} (hc : c ∈ e) :
    isBreak c = true := by
  cases he with
  | lineFeed => rw [List.mem_singleton.1 hc]; rfl
  | pair =>
      rcases List.mem_cons.1 hc with rfl | hc
      · rfl
      · rw [List.mem_singleton.1 hc]; rfl
  | carriageReturn => rw [List.mem_singleton.1 hc]; rfl

theorem IsEnding.length_pos {e t : Text} (he : IsEnding e t) : 0 < e.length := by
  cases he <;> exact Nat.zero_lt_succ _

namespace Text

/-! ## Reading lines -/

/-- A carriage return with its line feed is one line break. -/
theorem lines_pair (t : Text) : lines ('\r' :: '\n' :: t) = ⟨[], ['\r', '\n']⟩ :: lines t := by
  rw [lines]

/-- A line break ends an empty line. -/
theorem lines_ending_append {e t : Text} (h : IsEnding e t) :
    lines (e ++ t) = ⟨[], e⟩ :: lines t := by
  cases h with
  | lineFeed =>
      change lines ('\n' :: t) = _
      rw [lines]
      · rfl
      · intro u hcr
        cases hcr
  | pair => exact lines_pair t
  | carriageReturn h =>
      change lines ('\r' :: t) = _
      rw [lines]
      · rfl
      · rintro u - rfl
        exact h rfl

/-- Any other character belongs to the content of its line. -/
theorem lines_cons {c : Char} (h : isBreak c = false) (t : Text) :
    lines (c :: t) = consLine c (lines t) := by
  rw [lines]
  · rw [if_neg (by simp [h])]
  · rintro u rfl -
    cases h

/-- Induction over a text by its line breaks. -/
@[elab_as_elim]
theorem lineInduction {motive : Text → Prop} (nil : motive [])
    (ending : ∀ e t, IsEnding e t → motive t → motive (e ++ t))
    (char : ∀ c t, isBreak c = false → motive t → motive (c :: t)) (t : Text) : motive t := by
  fun_induction lines t with
  | case1 => exact nil
  | case2 t ih => exact ending ['\r', '\n'] t .pair ih
  | case3 c t hcut hc ih =>
      rcases (by simpa [isBreak] using hc : c = '\n' ∨ c = '\r') with rfl | rfl
      · exact ending ['\n'] t .lineFeed ih
      · refine ending ['\r'] t (.carriageReturn fun hhead => ?_) ih
        obtain ⟨u, rfl⟩ := List.head?_eq_some_iff.1 hhead
        exact hcut u rfl rfl
  | case4 c t _ hc ih => exact char c t (by simpa using hc) ih

/-- Characters before the first line break belong to the content of the first line. -/
theorem lines_append_of_not_isBreak {a t : Text} (ha : ∀ c ∈ a, isBreak c = false) {l : Line}
    {ls : List Line} (h : lines t = l :: ls) :
    lines (a ++ t) = ⟨a ++ l.content, l.ending⟩ :: ls := by
  induction a with
  | nil => exact h
  | cons c a ih =>
      rw [List.cons_append, lines_cons (ha c List.mem_cons_self),
        ih fun d hd => ha d (List.mem_cons_of_mem _ hd)]
      rfl

/-! ## Counting lines -/

/-- Characters up to a line feed are a line. -/
theorem lines_append_lineFeed {a : Text} (ha : ∀ c ∈ a, isBreak c = false) (t : Text) :
    lines (a ++ '\n' :: t) = ⟨a, ['\n']⟩ :: lines t := by
  have hbreak : lines ('\n' :: t) = ⟨[], ['\n']⟩ :: lines t := lines_ending_append .lineFeed
  have hline := lines_append_of_not_isBreak ha hbreak
  rwa [List.append_nil] at hline

/-- A text without line breaks is one line. -/
theorem lines_of_not_isBreak {t : Text} (h : ∀ c ∈ t, isBreak c = false) :
    lines t = [⟨t, []⟩] := by
  have hline := lines_append_of_not_isBreak h lines_nil
  rwa [List.append_nil] at hline

/-- There is one more line for a line break that ends with the first character. -/
theorem lineCount_cons (c : Char) (t : Text) :
    lineCount (c :: t) = (if startsLine (some c) t then 1 else 0) + lineCount t := by
  rw [lineCount_eq_length_breakEnds (c :: t) 0, breakEnds_cons, List.length_append,
    lineCount_eq_length_breakEnds t (0 + c.utf8Size)]
  split <;> simp [Nat.add_assoc]

/-- Whether a line starts at an index of a text. -/
def lineStartsAt (t : Text) (i : Nat) : Bool :=
  startsLine (t.take i).getLast? (t.drop i)

/-- The number of line breaks of a text that end at or before an index: a line break ends wherever
a line starts, except at the start of the text. -/
def breaksUpTo (t : Text) (i : Nat) : Nat :=
  (List.range i).countP fun j => lineStartsAt t (j + 1)

/-- Whether a line starts between two texts depends on the last character of the first one and on
the second one. -/
theorem lineStartsAt_append (pre t : Text) :
    lineStartsAt (pre ++ t) pre.length = startsLine pre.getLast? t := by
  rw [lineStartsAt, List.take_left, List.drop_left]

/-- One more character adds a line break if it ends one. -/
theorem breaksUpTo_succ (t : Text) (i : Nat) :
    breaksUpTo t (i + 1) = breaksUpTo t i + if lineStartsAt t (i + 1) then 1 else 0 := by
  rw [breaksUpTo, List.range_succ, List.countP_append]
  simp [breaksUpTo]

theorem breaksUpTo_le (t : Text) (i : Nat) : breaksUpTo t i ≤ i := by
  have h : breaksUpTo t i ≤ (List.range i).length := List.countP_le_length
  rwa [List.length_range] at h

/-- The line breaks up to an index and the lines from there on make up all lines.  The part before
the index is taken from its last character backwards. -/
theorem breaksUpTo_add_lineCount (pre t : Text) :
    breaksUpTo (pre ++ t) pre.length + lineCount t = lineCount (pre ++ t) := by
  induction pre using List.reverseRecOn generalizing t with
  | nil => simp [breaksUpTo]
  | append_singleton pre c ih =>
      have hstart := lineStartsAt_append (pre ++ [c]) t
      have hbefore := ih (c :: t)
      rw [List.getLast?_concat] at hstart
      rw [lineCount_cons] at hbefore
      simp only [List.length_append, List.length_singleton, List.append_assoc,
        List.singleton_append] at hstart ⊢
      rw [breaksUpTo_succ, hstart]
      omega

/-! ## Cutting -/

/-- A character in front of some lines goes to the first of them. -/
theorem consLine_append {c : Char} {front : List Line} (h : front ≠ []) (ls : List Line) :
    consLine c (front ++ ls) = consLine c front ++ ls := by
  cases front with
  | nil => exact absurd rfl h
  | cons l front => rfl

/-- A line break is still whole if the text goes on where a line starts. -/
theorem isEnding_append {e pre t : Text} (h : IsEnding e pre)
    (hstart : startsLine (e ++ pre).getLast? t = true) : IsEnding e (pre ++ t) := by
  cases h with
  | lineFeed => exact .lineFeed
  | pair => exact .pair
  | carriageReturn h =>
      refine .carriageReturn ?_
      cases pre with
      | nil => simpa [startsLine] using hstart
      | cons c pre => exact h

/-- The lines of a text that is cut where a line starts are those before the cut and those of the
rest; something stands before the cut only if there is a line before it. -/
theorem exists_lines_append {pre t : Text} (h : startsLine pre.getLast? t = true) :
    ∃ front, lines (pre ++ t) = front ++ lines t ∧ (pre ≠ [] → front ≠ []) := by
  induction pre using lineInduction with
  | nil => exact ⟨[], rfl, fun hne => absurd rfl hne⟩
  | ending e pre he ih =>
      have hpre : startsLine pre.getLast? t = true := by
        cases pre with
        | nil => rfl
        | cons c pre =>
            rw [List.getLast?_append, List.getLast?_cons] at h
            rw [List.getLast?_cons]
            exact h
      obtain ⟨front, hfront, -⟩ := ih hpre
      refine ⟨⟨[], e⟩ :: front, ?_, fun _ => List.cons_ne_nil _ _⟩
      rw [List.append_assoc, lines_ending_append (isEnding_append he h), hfront, List.cons_append]
  | char c pre hc ih =>
      cases pre with
      | nil =>
          rw [List.getLast?_singleton, startsLine_of_not_isBreak hc] at h
          cases h
      | cons d pre =>
          obtain ⟨front, hfront, hne⟩ := ih (by simpa using h)
          have hne : front ≠ [] := hne (List.cons_ne_nil _ _)
          refine ⟨consLine c front, ?_, fun _ => consLine_ne_nil c front⟩
          rw [List.cons_append, lines_cons hc, hfront, consLine_append hne]

/-- The number of line breaks before the place where a line starts is the number of this line. -/
theorem getElem?_lines_append {pre t : Text} (h : startsLine pre.getLast? t = true) (n : Nat) :
    (lines (pre ++ t))[breaksUpTo (pre ++ t) pre.length + n]? = (lines t)[n]? := by
  obtain ⟨front, hfront, -⟩ := exists_lines_append h
  have hcount := breaksUpTo_add_lineCount pre t
  have hlength := congrArg List.length hfront
  rw [List.length_append] at hlength
  unfold lineCount at hcount
  rw [hfront, show breaksUpTo (pre ++ t) pre.length = front.length by omega,
    List.getElem?_append_right (Nat.le_add_right _ _), Nat.add_sub_cancel_left]

end Text
end LmntalServer
