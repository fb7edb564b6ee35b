import LmntalServer.Text.Units

/-!
# Lines

Lines end at a line feed, at a carriage return followed by a line feed, or at a lone carriage
return, and at nothing else.  A text with `n` line breaks has `n + 1` lines, the last of which may
be empty.

Main definitions:

* `Text.lines`: the lines of a text, each with its content and its line break.
* `Text.lineStart`: the index of the first character of a line.
* `Text.lineOfByte`: the line of a byte offset.
* `startsLine`: whether a line starts between two neighbouring characters.
* `Text.breakEnds`: the byte offsets at which line breaks end.

Main results:

* `Text.flatMap_chars_lines`: the lines together are the text.
-/

namespace LmntalServer

/-- The two characters of which line breaks are made. -/
def isBreak (c : Char) : Bool :=
  c = '\n' || c = '\r'

/-! ## Line starts -/

/-- Whether a line starts between the character `before`, absent at the start of the text, and
the characters `after`: at the start of the text, after a line feed, and after a carriage return
that is not the first half of a line break. -/
def startsLine (before : Option Char) (after : Text) : Bool :=
  match before with
  | none => true
  | some c => c = '\n' || (c = '\r' && after.head? ≠ some '\n')

@[simp]
theorem startsLine_none (after : Text) : startsLine none after = true :=
  rfl

/-- A line starts after a line break that is not cut in two. -/
theorem startsLine_of_isBreak {c : Char} {t : Text} (hc : isBreak c = true)
    (h : ∀ u, c = '\r' → t = '\n' :: u → False) : startsLine (some c) t = true := by
  rcases (by simpa [isBreak] using hc : c = '\n' ∨ c = '\r') with rfl | rfl
  · rfl
  · cases t with
    | nil => rfl
    | cons d u =>
        have hd : d ≠ '\n' := fun hd => h u rfl (hd ▸ rfl)
        simp [startsLine, hd]

/-- No line starts after a character that is not part of a line break. -/
theorem startsLine_of_not_isBreak {c : Char} {t : Text} (hc : isBreak c = false) :
    startsLine (some c) t = false := by
  simp only [isBreak, Bool.or_eq_false_iff, decide_eq_false_iff_not] at hc
  simp [startsLine, hc]

/-! ## Single lines -/

/-- A line of a text: its content and the line break that ends it, which is empty for the last
line of the text. -/
structure Line where
  content : Text
  ending : Text
deriving DecidableEq, Repr, Inhabited

namespace Line

/-- All characters of a line, its line break included. -/
def chars (l : Line) : Text :=
  l.content ++ l.ending

@[simp]
theorem chars_mk (content ending : Text) : chars ⟨content, ending⟩ = content ++ ending :=
  rfl

end Line

namespace Text

/-! ## Splitting -/

/-- Puts a character before the content of the first of some lines. -/
def consLine (c : Char) : List Line → List Line
  | [] => [⟨[c], []⟩]
  | l :: ls => ⟨c :: l.content, l.ending⟩ :: ls

/-- The lines of a text, at least one. -/
def lines : Text → List Line
  | [] => [⟨[], []⟩]
  | '\r' :: '\n' :: t => ⟨[], ['\r', '\n']⟩ :: lines t
  | c :: t => if isBreak c then ⟨[], [c]⟩ :: lines t else consLine c (lines t)

@[simp]
theorem lines_nil : lines [] = [⟨[], []⟩] :=
  rfl

theorem consLine_ne_nil (c : Char) (ls : List Line) : consLine c ls ≠ [] := by
  cases ls <;> simp [consLine]

theorem lines_ne_nil (t : Text) : lines t ≠ [] := by
  fun_cases lines t <;> simp_all [consLine_ne_nil]

theorem flatMap_chars_consLine (c : Char) (ls : List Line) :
    (consLine c ls).flatMap Line.chars = c :: ls.flatMap Line.chars := by
  cases ls <;> simp [consLine, Line.chars]

/-- The lines together are the text. -/
theorem flatMap_chars_lines (t : Text) : (lines t).flatMap Line.chars = t := by
  fun_induction lines t with
  | case1 => rfl
  | case2 t ih => simp [ih]
  | case3 c t _ _ ih => simp [ih]
  | case4 c t _ _ ih => simp [flatMap_chars_consLine, ih]

/-- No line has a line break inside its content. -/
theorem isBreak_eq_false_of_mem_lines {t : Text} {l : Line} (hl : l ∈ lines t) {c : Char}
    (hc : c ∈ l.content) : isBreak c = false := by
  fun_induction lines t generalizing l c with
  | case1 => simp_all
  | case2 t ih =>
      rcases List.mem_cons.1 hl with rfl | hl
      · simp at hc
      · exact ih hl hc
  | case3 d t _ _ ih =>
      rcases List.mem_cons.1 hl with rfl | hl
      · simp at hc
      · exact ih hl hc
  | case4 d t _ hd ih =>
      cases hls : lines t with
      | nil => exact absurd hls (lines_ne_nil t)
      | cons k ks =>
          rw [hls] at hl ih
          rcases List.mem_cons.1 hl with rfl | hl
          · rcases List.mem_cons.1 hc with rfl | hc
            · simpa using hd
            · exact ih (List.mem_cons_self ..) hc
          · exact ih (List.mem_cons_of_mem _ hl) hc

/-! ## Where lines stand -/

/-- The number of lines of a text. -/
def lineCount (t : Text) : Nat :=
  (lines t).length

theorem lineCount_pos (t : Text) : 0 < lineCount t :=
  List.length_pos_iff.2 (lines_ne_nil t)

/-- The index of the first character of line `n`; the length of the text for a line that does not
exist. -/
def lineStart (t : Text) (n : Nat) : Nat :=
  (((lines t).take n).flatMap Line.chars).length

@[simp]
theorem lineStart_zero (t : Text) : lineStart t 0 = 0 :=
  rfl

theorem lineStart_le_length (t : Text) (n : Nat) : lineStart t n ≤ t.length := by
  have h := congrArg List.length (flatMap_chars_lines t)
  rw [← List.take_append_drop n (lines t), List.flatMap_append, List.length_append] at h
  unfold lineStart
  omega

/-- The byte offsets at which the line breaks of a text end, for a text that starts at byte
`base`.  A line break ends where the next line starts. -/
def breakEnds (base : Nat) : Text → List Nat
  | [] => []
  | c :: t =>
      let next := base + c.utf8Size
      if startsLine (some c) t then next :: breakEnds next t else breakEnds next t

/-- The line of a byte offset: the number of line breaks that end at or before it.  Offsets past
the end belong to the last line, and an offset between the two halves of a line break to the line
that it ends. -/
def lineOfByte (t : Text) (offset : Nat) : Nat :=
  let limit := min offset t.bytes
  (breakEnds 0 t).countP (· ≤ limit)

theorem breakEnds_cons (base : Nat) (c : Char) (t : Text) :
    breakEnds base (c :: t) =
      (if startsLine (some c) t then [base + c.utf8Size] else []) ++
        breakEnds (base + c.utf8Size) t := by
  simp only [breakEnds]
  split <;> rfl

/-- A line break ends behind the place where the text starts. -/
theorem lt_of_mem_breakEnds {base e : Nat} {t : Text} (h : e ∈ breakEnds base t) : base < e := by
  induction t generalizing base with
  | nil => simp [breakEnds] at h
  | cons c t ih =>
      have hc := c.utf8Size_pos
      rw [breakEnds_cons, List.mem_append] at h
      rcases h with h | h
      · split at h
        · rw [List.mem_singleton.1 h]
          omega
        · cases h
      · have := ih h
        omega

/-- No line break of a text ends at the place where the text starts. -/
theorem countP_breakEnds_base (base : Nat) (t : Text) :
    (breakEnds base t).countP (· ≤ base) = 0 :=
  List.countP_eq_zero.2 fun e he => by
    have := lt_of_mem_breakEnds he
    simpa using this

@[simp]
theorem length_consLine (c : Char) (ls : List Line) :
    (consLine c ls).length = max 1 ls.length := by
  cases ls <;> simp [consLine]

/-- A text has one line more than it has line breaks. -/
theorem lineCount_eq_length_breakEnds (t : Text) (base : Nat) :
    lineCount t = (breakEnds base t).length + 1 := by
  unfold lineCount
  fun_induction lines t generalizing base with
  | case1 => rfl
  | case2 t ih => simp [breakEnds, startsLine, ← ih]
  | case3 c t hne hc ih =>
      have hstart : startsLine (some c) t = true := startsLine_of_isBreak hc hne
      simp [breakEnds, hstart, ← ih]
  | case4 c t hne hc ih =>
      have hstart : startsLine (some c) t = false := startsLine_of_not_isBreak (by simpa using hc)
      have := lineCount_pos t
      unfold lineCount at this
      simp only [breakEnds, hstart, length_consLine, Bool.false_eq_true, if_false, ← ih]
      omega

/-- The line of an offset grows with the offset. -/
theorem lineOfByte_mono (t : Text) {a b : Nat} (h : a ≤ b) : lineOfByte t a ≤ lineOfByte t b := by
  apply List.countP_mono_left
  intro e _ he
  simp only [decide_eq_true_eq] at he ⊢
  omega

end Text
end LmntalServer
