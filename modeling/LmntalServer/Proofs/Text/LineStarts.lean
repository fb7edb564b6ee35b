import LmntalServer.Proofs.Text.LineBreaks
import Mathlib.Order.Monotone.Basic

/-!
# Where lines start

A line can be named by its number, by the index at which it starts, and by any index inside it.
This module ties the three together: the line breaks up to the start of a line are as many as its
number says, every index of a text lies on the line of this number, and this line is also the one
that the bytes before the index lead to.

Main results:

* `Text.exists_of_getElem?_lines`: a line, what stands before it, and what stands behind it.
* `Text.breaksUpTo_lineStart_add`, `Text.breaksUpTo_lineStart_add_chars`: line breaks up to a place
  on a line, and up to the next line.
* `Text.exists_line_of_le_length`: every index of a text lies on a line.
* `Text.lineStart_breaksUpTo`: a line starts at the start of the line of its number.
* `Text.lineOfByte_bytes_take`: the line of the byte at which a character starts.
-/

namespace LmntalServer
namespace Text

variable {t : Text} {n : Nat} {l : Line}

/-! ## Counting and measuring lines part by part -/

/-- Characters that belong to no line break add no line. -/
theorem lineCount_append_of_not_isBreak {a : Text} (ha : ∀ c ∈ a, isBreak c = false) (t : Text) :
    lineCount (a ++ t) = lineCount t := by
  induction a with
  | nil => rfl
  | cons c a ih =>
      have hc : startsLine (some c) (a ++ t) = false :=
        startsLine_of_not_isBreak (ha c List.mem_cons_self)
      have htail := ih fun d hd => ha d (List.mem_cons_of_mem _ hd)
      rw [List.cons_append, lineCount_cons, hc, htail]
      simp

/-- A line break adds one line. -/
theorem lineCount_ending_append {e : Text} (he : IsEnding e t) :
    lineCount (e ++ t) = lineCount t + 1 := by
  rw [lineCount, lines_ending_append he, List.length_cons]
  rfl

/-- A line starts behind a whole line break. -/
theorem startsLine_getLast?_ending {e : Text} (he : IsEnding e t) :
    startsLine e.getLast? t = true := by
  cases he with
  | lineFeed => rfl
  | pair => rfl
  | carriageReturn h => simpa [startsLine] using h

/-- A line break at the front moves each line on by one, and its start by the line break. -/
theorem lineStart_ending_append {e : Text} (he : IsEnding e t) (n : Nat) :
    lineStart (e ++ t) (n + 1) = e.length + lineStart t n := by
  simp [lineStart, lines_ending_append he]

/-- Any other character at the front moves the start of each later line by one. -/
theorem lineStart_cons {c : Char} (hc : isBreak c = false) (t : Text) (n : Nat) :
    lineStart (c :: t) (n + 1) = lineStart t (n + 1) + 1 := by
  obtain ⟨l, ls, hls⟩ := List.exists_cons_of_ne_nil (lines_ne_nil t)
  simp [lineStart, lines_cons hc, hls, consLine, Line.chars]

/-- More line breaks end up to a later index. -/
theorem breaksUpTo_mono (t : Text) {i j : Nat} (h : i ≤ j) : breaksUpTo t i ≤ breaksUpTo t j := by
  refine monotone_nat_of_le_succ (f := breaksUpTo t) (fun k => ?_) h
  rw [breaksUpTo_succ]
  exact Nat.le_add_right _ _

/-- The line breaks up to a place in the second part of a text. -/
theorem breaksUpTo_append (e t : Text) (i : Nat) (hi : i ≤ t.length) :
    breaksUpTo (e ++ t) (e.length + i) + lineCount t = lineCount (e ++ t) + breaksUpTo t i := by
  have hwhole := breaksUpTo_add_lineCount (e ++ t.take i) (t.drop i)
  have hpart := breaksUpTo_add_lineCount (t.take i) (t.drop i)
  rw [List.append_assoc, List.take_append_drop, List.length_append, List.length_take,
    Nat.min_eq_left hi] at hwhole
  rw [List.take_append_drop, List.length_take, Nat.min_eq_left hi] at hpart
  omega

/-! ## A line and its surroundings -/

/-- A line stands behind as many line breaks as its number says, at a place where a line starts, and
ends with a whole line break or with the text. -/
theorem exists_of_getElem?_lines (hl : (lines t)[n]? = some l) :
    ∃ pre post, t = pre ++ (l.content ++ (l.ending ++ post)) ∧ pre.length = lineStart t n ∧
      startsLine pre.getLast? (l.content ++ (l.ending ++ post)) = true ∧
      breaksUpTo t pre.length = n ∧ (l.ending = [] ∧ post = [] ∨ IsEnding l.ending post) := by
  induction t using lineInduction generalizing n l with
  | nil =>
      cases n with
      | zero =>
          cases hl
          exact ⟨[], [], rfl, rfl, rfl, rfl, Or.inl ⟨rfl, rfl⟩⟩
      | succ n => simp at hl
  | ending e t he ih =>
      rw [lines_ending_append he] at hl
      cases n with
      | zero =>
          cases hl
          exact ⟨[], t, rfl, rfl, rfl, rfl, Or.inr he⟩
      | succ n =>
          rw [List.getElem?_cons_succ] at hl
          obtain ⟨pre, post, ht, hlength, hstart, hbreaks, hending⟩ := ih hl
          have hle : pre.length ≤ t.length := by
            rw [ht, List.length_append]
            exact Nat.le_add_right _ _
          refine ⟨e ++ pre, post, ?_, ?_, ?_, ?_, hending⟩
          · rw [List.append_assoc, ← ht]
          · rw [List.length_append, hlength, lineStart_ending_append he]
          · cases pre with
            | nil =>
                rw [List.append_nil, ← List.nil_append (l.content ++ _), ← ht]
                exact startsLine_getLast?_ending he
            | cons c pre =>
                rw [List.getLast?_cons] at hstart
                rw [List.getLast?_append, List.getLast?_cons]
                exact hstart
          · have happend := breaksUpTo_append e t pre.length hle
            rw [lineCount_ending_append he] at happend
            rw [List.length_append]
            omega
  | char c t hc ih =>
      rw [lines_cons hc] at hl
      obtain ⟨k, ks, hks⟩ := List.exists_cons_of_ne_nil (lines_ne_nil t)
      rw [hks] at ih hl
      cases n with
      | zero =>
          obtain ⟨pre, post, ht, hlength, -, -, hending⟩ := ih (n := 0) rfl
          obtain rfl : pre = [] := List.eq_nil_of_length_eq_zero hlength
          cases hl
          exact ⟨[], post, by rw [ht]; rfl, rfl, rfl, rfl, hending⟩
      | succ n =>
          obtain ⟨pre, post, ht, hlength, hstart, hbreaks, hending⟩ := ih (n := n + 1) hl
          have hle : pre.length ≤ t.length := by
            rw [ht, List.length_append]
            exact Nat.le_add_right _ _
          have happend := breaksUpTo_append [c] t pre.length hle
          rw [List.singleton_append, lineCount_cons, startsLine_of_not_isBreak hc] at happend
          refine ⟨c :: pre, post, ?_, ?_, ?_, ?_, hending⟩
          · rw [List.cons_append, ← ht]
          · rw [List.length_cons, hlength, lineStart_cons hc]
          · cases pre with
            | nil => cases hbreaks
            | cons d pre => simpa using hstart
          · simp only [List.length_cons, List.length_nil, Bool.false_eq_true, if_false] at happend ⊢
            rw [Nat.add_comm 1] at happend
            omega

/-- A line starts where a line starts that has a number. -/
theorem lineStartsAt_lineStart (hl : (lines t)[n]? = some l) :
    lineStartsAt t (lineStart t n) = true := by
  obtain ⟨pre, post, ht, hlength, hstart, -, -⟩ := exists_of_getElem?_lines hl
  have h := lineStartsAt_append pre (l.content ++ (l.ending ++ post))
  rw [← ht, hlength] at h
  rw [h]
  exact hstart

/-- From the start of a line on stand its content, its line break and the following lines. -/
theorem exists_drop_lineStart (hl : (lines t)[n]? = some l) :
    ∃ post, t.drop (lineStart t n) = l.content ++ (l.ending ++ post) ∧
      (l.ending = [] ∧ post = [] ∨ IsEnding l.ending post) := by
  obtain ⟨pre, post, ht, hlength, -, -, hending⟩ := exists_of_getElem?_lines hl
  refine ⟨post, ?_, hending⟩
  rw [← hlength]
  exact (congrArg (List.drop _) ht).trans List.drop_left

/-- The content of a line goes on to the first character of a line break. -/
theorem content_eq_takeWhile (hl : (lines t)[n]? = some l) :
    l.content = (t.drop (lineStart t n)).takeWhile (!isBreak ·) := by
  obtain ⟨post, hdrop, hending⟩ := exists_drop_lineStart hl
  have hcontent : ∀ c ∈ l.content, (!isBreak c) = true := fun c hc => by
    rw [isBreak_eq_false_of_mem_lines (List.mem_of_getElem? hl) hc]
    rfl
  have hbehind : (l.ending ++ post).takeWhile (!isBreak ·) = [] := by
    rcases hending with ⟨hending, rfl⟩ | hending
    · rw [hending]
      rfl
    · generalize l.ending = e at hending
      cases hending <;> rfl
  rw [hdrop, List.takeWhile_append_of_pos hcontent, hbehind, List.append_nil]

/-! ## Places on a line -/

/-- Every place from the start of a line to the end of its content lies on this line. -/
theorem breaksUpTo_lineStart_add (hl : (lines t)[n]? = some l) {k : Nat}
    (hk : k ≤ l.content.length) : breaksUpTo t (lineStart t n + k) = n := by
  obtain ⟨pre, post, ht, hlength, -, hbreaks, -⟩ := exists_of_getElem?_lines hl
  have hcontent : ∀ c ∈ l.content.take k, isBreak c = false := fun c hc =>
    isBreak_eq_false_of_mem_lines (List.mem_of_getElem? hl) (List.mem_of_mem_take hc)
  have hsplit : t = pre ++ (l.content.take k ++ (l.content.drop k ++ (l.ending ++ post))) := by
    rw [ht, ← List.append_assoc (l.content.take k), List.take_append_drop]
  have hbefore := breaksUpTo_add_lineCount pre
    (l.content.take k ++ (l.content.drop k ++ (l.ending ++ post)))
  have hafter := breaksUpTo_add_lineCount (pre ++ l.content.take k)
    (l.content.drop k ++ (l.ending ++ post))
  rw [List.append_assoc, ← hsplit, List.length_append, List.length_take, Nat.min_eq_left hk,
    hlength] at hafter
  rw [← hsplit, hbreaks, lineCount_append_of_not_isBreak hcontent] at hbefore
  omega

/-- As many line breaks as its number end up to the start of a line. -/
theorem breaksUpTo_lineStart (hl : (lines t)[n]? = some l) : breaksUpTo t (lineStart t n) = n :=
  breaksUpTo_lineStart_add hl (Nat.zero_le _)

/-- Behind the line break that ends a line the next line begins. -/
theorem breaksUpTo_lineStart_add_chars (hl : (lines t)[n]? = some l) (hne : l.ending ≠ []) :
    breaksUpTo t (lineStart t n + l.chars.length) = n + 1 := by
  obtain ⟨pre, post, ht, hlength, -, hbreaks, hending⟩ := exists_of_getElem?_lines hl
  have he : IsEnding l.ending post := hending.resolve_left fun h => hne h.1
  have hcontent : ∀ c ∈ l.content, isBreak c = false := fun c hc =>
    isBreak_eq_false_of_mem_lines (List.mem_of_getElem? hl) hc
  have hbefore := breaksUpTo_add_lineCount pre (l.content ++ (l.ending ++ post))
  have hafter := breaksUpTo_add_lineCount (pre ++ l.chars) post
  rw [Line.chars, List.append_assoc, List.append_assoc, ← ht, List.length_append, hlength,
    ← Line.chars] at hafter
  rw [← ht, hbreaks, lineCount_append_of_not_isBreak hcontent, lineCount_ending_append he] at hbefore
  omega

/-- The line of the number of line breaks up to a place of a text exists. -/
theorem breaksUpTo_lt_lineCount {i : Nat} (hi : i ≤ t.length) : breaksUpTo t i < lineCount t := by
  have hcount := breaksUpTo_add_lineCount (t.take i) (t.drop i)
  rw [List.take_append_drop, List.length_take, Nat.min_eq_left hi] at hcount
  have hpos := lineCount_pos (t.drop i)
  omega

/-- The line of a place of a text does not start behind the place; otherwise one more line break
would end up to the start of the line than in front of it. -/
theorem lineStart_breaksUpTo_le {i : Nat} (hl : (lines t)[breaksUpTo t i]? = some l) :
    lineStart t (breaksUpTo t i) ≤ i := by
  by_contra hlate
  obtain ⟨j, hj⟩ : ∃ j, lineStart t (breaksUpTo t i) = j + 1 :=
    Nat.exists_eq_succ_of_ne_zero (by omega)
  have hstarts := lineStartsAt_lineStart hl
  have hsucc := breaksUpTo_lineStart hl
  have hmono := breaksUpTo_mono t (show i ≤ j by omega)
  rw [hj] at hstarts
  rw [hj, breaksUpTo_succ, hstarts, if_pos rfl] at hsucc
  omega

/-- The line of a place of a text ends behind the place, unless it is the last one. -/
theorem lt_lineStart_breaksUpTo_add_chars {i : Nat} (hl : (lines t)[breaksUpTo t i]? = some l)
    (hne : l.ending ≠ []) : i < lineStart t (breaksUpTo t i) + l.chars.length := by
  by_contra hbehind
  have hnext := breaksUpTo_lineStart_add_chars hl hne
  have hmono := breaksUpTo_mono t (Nat.le_of_not_lt hbehind)
  omega

/-- Every place of a text lies on a line: between the start of the line and the end of its content,
or between the two characters of the line break that ends it. -/
theorem exists_line_of_le_length {i : Nat} (hi : i ≤ t.length) :
    ∃ l, (lines t)[breaksUpTo t i]? = some l ∧ lineStart t (breaksUpTo t i) ≤ i ∧
      (i ≤ lineStart t (breaksUpTo t i) + l.content.length ∨
        l.ending = ['\r', '\n'] ∧
          i = lineStart t (breaksUpTo t i) + l.content.length + 1) := by
  obtain ⟨l, hl⟩ : ∃ l, (lines t)[breaksUpTo t i]? = some l :=
    ⟨_, List.getElem?_eq_getElem (breaksUpTo_lt_lineCount hi)⟩
  have hlow := lineStart_breaksUpTo_le hl
  have hhigh := lt_lineStart_breaksUpTo_add_chars hl
  refine ⟨l, hl, hlow, ?_⟩
  obtain ⟨post, hdrop, hending⟩ := exists_drop_lineStart hl
  have hrest := congrArg List.length hdrop
  obtain ⟨content, ending⟩ := l
  simp only [Line.chars, List.length_append, List.length_drop] at hending hhigh hrest ⊢
  rcases hending with ⟨rfl, rfl⟩ | hending
  · rw [List.length_nil] at hrest
    left
    omega
  · cases hending with
    | lineFeed =>
        have hhigh := hhigh (List.cons_ne_nil _ _)
        rw [List.length_singleton] at hhigh
        left
        omega
    | pair =>
        have hhigh := hhigh (List.cons_ne_nil _ _)
        rw [List.length_cons, List.length_singleton] at hhigh
        by_cases hle : i ≤ lineStart t (breaksUpTo t i) + content.length
        · exact Or.inl hle
        · exact Or.inr ⟨rfl, by omega⟩
    | carriageReturn =>
        have hhigh := hhigh (List.cons_ne_nil _ _)
        rw [List.length_singleton] at hhigh
        left
        omega

/-- No line starts directly behind a character that belongs to no line break. -/
theorem isBreak_of_lineStartsAt {i : Nat} (h : lineStartsAt t (i + 1) = true) {c : Char}
    (hc : t[i]? = some c) : isBreak c = true := by
  by_contra hbreak
  have hlast : (t.take (i + 1)).getLast? = some c := by
    rw [List.take_add_one, hc]
    exact List.getLast?_concat
  rw [lineStartsAt, hlast, startsLine_of_not_isBreak (Bool.eq_false_iff.2 hbreak)] at h
  cases h

/-- Where a line starts, the line of this number starts: the lines in front of the place make up the
text in front of it. -/
theorem lineStart_breaksUpTo {i : Nat} (hi : i ≤ t.length) (h : lineStartsAt t i = true) :
    lineStart t (breaksUpTo t i) = i := by
  have hstart : startsLine (t.take i).getLast? (t.drop i) = true := h
  obtain ⟨front, hfront, -⟩ := exists_lines_append hstart
  have hcount := breaksUpTo_add_lineCount (t.take i) (t.drop i)
  rw [List.take_append_drop] at hfront hcount
  rw [List.length_take, Nat.min_eq_left hi, lineCount, lineCount, hfront,
    List.length_append] at hcount
  have hnumber : breaksUpTo t i = front.length := by omega
  have hchars := flatMap_chars_lines t
  rw [hfront, List.flatMap_append, flatMap_chars_lines] at hchars
  have hlength := congrArg List.length hchars
  rw [List.length_append, List.length_drop] at hlength
  rw [lineStart, hfront, hnumber, List.take_left]
  omega

/-! ## Lines of bytes -/

/-- The line breaks that end up to the first byte of a character, in a text that starts at any
byte. -/
theorem countP_breakEnds (t : Text) {i : Nat} (base : Nat) (hi : i ≤ t.length) :
    (breakEnds base t).countP (· ≤ base + bytes (t.take i)) = breaksUpTo t i := by
  induction t generalizing i base with
  | nil =>
      rw [Nat.le_zero.1 hi]
      rfl
  | cons c t ih =>
      cases i with
      | zero => exact countP_breakEnds_base base (c :: t)
      | succ i =>
          have hi : i ≤ t.length := Nat.le_of_succ_le_succ hi
          have happend := breaksUpTo_append [c] t i hi
          rw [List.singleton_append, lineCount_cons, List.length_singleton,
            Nat.add_comm 1 i] at happend
          rw [breakEnds_cons, List.countP_append, List.take_succ_cons, bytes_cons,
            ← Nat.add_assoc, ih _ hi]
          cases hc : startsLine (some c) t with
          | false =>
              simp only [hc, Bool.false_eq_true, if_false, List.countP_nil] at happend ⊢
              omega
          | true =>
              simp only [hc, if_true] at happend ⊢
              rw [List.countP_singleton, if_pos (by simp)]
              omega

/-- The line of the byte at which a character starts is the number of line breaks up to this
character. -/
theorem lineOfByte_bytes_take {i : Nat} (hi : i ≤ t.length) :
    lineOfByte t (bytes (t.take i)) = breaksUpTo t i := by
  have hle : bytes (t.take i) ≤ t.bytes := by
    have h := congrArg bytes (List.take_append_drop i t)
    rw [bytes_append] at h
    omega
  have h := countP_breakEnds t 0 hi
  rw [Nat.zero_add] at h
  rw [lineOfByte, Nat.min_eq_left hle]
  exact h

end Text
end LmntalServer
