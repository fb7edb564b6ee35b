import LmntalServer.Proofs.Symbol.Grammar
import LmntalServer.Proofs.Text.LineBreaks

/-!
# Texts with the same contents of lines

Two texts whose lines have the same contents differ only in how their line breaks are written.  So
what stands at the front of one of them stands at the front of the other, with a line break in the
place of every line break, and the rest of both texts again has the same contents of lines.  A head
may hold line breaks in its argument list; in the other text it is a head with the same name.

Main definitions:

* `Text.contents`: the contents of the lines of a text.

Main results:

* `Text.exists_of_contents_ending`, `Text.exists_of_contents_cons`: a line break and any other
  character at the front of texts with the same contents of lines.
* `Text.exists_of_contents_chars`: a head at the front of texts with the same contents of lines.
-/

namespace LmntalServer

/-- A line break is still whole if another character than a line feed is put behind what follows
it. -/
theorem IsEnding.append_cons {e a : Text} (he : IsEnding e a) {c : Char} (hc : c ≠ '\n')
    (t : Text) : IsEnding e (a ++ c :: t) := by
  cases he with
  | lineFeed => exact .lineFeed
  | pair => exact .pair
  | carriageReturn h =>
      refine .carriageReturn ?_
      cases a with
      | nil => simpa using hc
      | cons d a => exact h

namespace Text

/-- The contents of the lines of a text, without the line breaks that end them. -/
def contents (t : Text) : List Text :=
  (lines t).map Line.content

variable {s t : Text}

/-- A line break at the front leaves an empty line. -/
theorem contents_ending_append {e : Text} (he : IsEnding e t) :
    contents (e ++ t) = [] :: contents t := by
  rw [contents, lines_ending_append he, List.map_cons]
  rfl

theorem exists_contents_eq_cons (t : Text) : ∃ a as, contents t = a :: as := by
  obtain ⟨l, ls, hls⟩ := List.exists_cons_of_ne_nil (lines_ne_nil t)
  exact ⟨l.content, ls.map Line.content, by rw [contents, hls, List.map_cons]⟩

/-- A character at the front belongs to the first line, unless it is a line break. -/
theorem contents_cons {c : Char} (hc : isBreak c = false) {a : Text} {as : List Text}
    (h : contents t = a :: as) : contents (c :: t) = (c :: a) :: as := by
  rw [contents, lines_cons hc]
  cases hls : lines t with
  | nil => exact absurd hls (lines_ne_nil t)
  | cons l ls =>
      rw [contents, hls, List.map_cons, List.cons.injEq] at h
      rw [consLine, List.map_cons, h.1, h.2]

/-- Texts with the same contents of lines have equally many lines. -/
theorem lineCount_eq_of_contents (h : contents s = contents t) : lineCount s = lineCount t := by
  simpa [contents, lineCount] using congrArg List.length h

/-! ## The front of a text -/

/-- A text with one empty line as its contents is empty. -/
theorem eq_nil_of_contents (h : contents [] = contents t) : t = [] := by
  cases t using lineInduction with
  | nil => rfl
  | ending e t he =>
      rw [contents_ending_append he] at h
      obtain ⟨a, as, has⟩ := exists_contents_eq_cons t
      rw [has] at h
      cases h
  | char c t hc =>
      obtain ⟨a, as, has⟩ := exists_contents_eq_cons t
      rw [contents_cons hc has] at h
      cases h

/-- Where one text has a line break, the other has one. -/
theorem exists_of_contents_ending {e : Text} (he : IsEnding e s)
    (h : contents (e ++ s) = contents t) :
    ∃ f u, t = f ++ u ∧ IsEnding f u ∧ contents s = contents u := by
  rw [contents_ending_append he] at h
  cases t using lineInduction with
  | nil =>
      obtain ⟨a, as, has⟩ := exists_contents_eq_cons s
      rw [has] at h
      cases h
  | ending f u hf =>
      rw [contents_ending_append hf, List.cons.injEq] at h
      exact ⟨f, u, rfl, hf, h.2⟩
  | char c u hc =>
      obtain ⟨a, as, has⟩ := exists_contents_eq_cons u
      rw [contents_cons hc has] at h
      cases h

/-- Where one text has a character that belongs to no line break, the other has it too. -/
theorem exists_of_contents_cons {c : Char} (hc : isBreak c = false)
    (h : contents (c :: s) = contents t) : ∃ u, t = c :: u ∧ contents s = contents u := by
  obtain ⟨a, as, has⟩ := exists_contents_eq_cons s
  rw [contents_cons hc has] at h
  cases t using lineInduction with
  | nil => cases h
  | ending f u hf =>
      rw [contents_ending_append hf] at h
      cases h
  | char d u hd =>
      obtain ⟨b, bs, hbs⟩ := exists_contents_eq_cons u
      rw [contents_cons hd hbs, List.cons.injEq, List.cons.injEq] at h
      obtain ⟨⟨rfl, rfl⟩, rfl⟩ := h
      exact ⟨u, rfl, has.trans hbs.symm⟩

/-- Characters without line breaks stand in front of both of two texts with equal contents. -/
theorem exists_of_contents_append {a : Text} (ha : ∀ c ∈ a, isBreak c = false)
    (h : contents (a ++ s) = contents t) : ∃ u, t = a ++ u ∧ contents s = contents u := by
  induction a generalizing t with
  | nil => exact ⟨t, rfl, h⟩
  | cons c a ih =>
      obtain ⟨u, rfl, hu⟩ := exists_of_contents_cons (ha c List.mem_cons_self) h
      obtain ⟨v, rfl, hv⟩ := ih (fun d hd => ha d (List.mem_cons_of_mem _ hd)) hu
      exact ⟨v, rfl, hv⟩

/-! ## Heads -/

/-- Where the arguments of one text go on to a closing parenthesis, those of the other do. -/
theorem exists_of_contents_arguments {a : Text} (ha : ')' ∉ a)
    (h : contents (a ++ ')' :: s) = contents t) :
    ∃ b u, t = b ++ ')' :: u ∧ ')' ∉ b ∧ contents s = contents u := by
  induction a using lineInduction generalizing t with
  | nil =>
      obtain ⟨u, rfl, hu⟩ := exists_of_contents_cons rfl h
      exact ⟨[], u, rfl, List.not_mem_nil, hu⟩
  | ending e a he ih =>
      rw [List.append_assoc] at h
      obtain ⟨f, u, rfl, hf, hu⟩ :=
        exists_of_contents_ending (he.append_cons (by decide) s) h
      obtain ⟨b, v, rfl, hb, hv⟩ := ih (fun hmem => ha (List.mem_append_right e hmem)) hu
      refine ⟨f ++ b, v, (List.append_assoc f b _).symm, fun hmem => ?_, hv⟩
      rcases List.mem_append.1 hmem with hmem | hmem
      · cases hf.isBreak_of_mem hmem
      · exact hb hmem
  | char c a hc ih =>
      obtain ⟨u, rfl, hu⟩ := exists_of_contents_cons hc h
      obtain ⟨b, v, rfl, hb, hv⟩ := ih (fun hmem => ha (List.mem_cons_of_mem c hmem)) hu
      refine ⟨c :: b, v, rfl, fun hmem => ?_, hv⟩
      rcases List.mem_cons.1 hmem with rfl | hmem
      · exact ha List.mem_cons_self
      · exact hb hmem

/-- An argument list in front of one text stands, perhaps with other line breaks, in front of every
other text with equal contents. -/
theorem exists_of_contents_argumentList {l : Text} (hl : IsArgumentList l)
    (h : contents (l ++ s) = contents t) :
    ∃ m u, t = m ++ u ∧ IsArgumentList m ∧ contents s = contents u := by
  cases hl with
  | absent => exact ⟨[], t, rfl, .absent, h⟩
  | @present a ha =>
      rw [List.cons_append, List.append_assoc] at h
      obtain ⟨u, rfl, hu⟩ := exists_of_contents_cons rfl h
      obtain ⟨b, v, rfl, hb, hv⟩ := exists_of_contents_arguments ha hu
      exact ⟨'(' :: (b ++ [')']), v, by simp, .present hb, hv⟩

/-- Where one text has a head, the other has a head with the same name. -/
theorem exists_of_contents_chars {w : WrittenHead} (h : contents (w.chars ++ s) = contents t) :
    ∃ (v : WrittenHead) (u : Text), t = v.chars ++ u ∧ v.name = w.name ∧
      contents s = contents u := by
  have hchars : w.chars ++ s =
      w.indent ++ (w.name ++ (w.gap ++ (w.list ++ (w.space ++ ([':', '-'] ++ s))))) := by
    simp [WrittenHead.chars, WrittenHead.afterName]
  have hblanks : ∀ {b : Text}, (∀ c ∈ b, isBlank c = true) → ∀ c ∈ b, isBreak c = false :=
    fun hb c hc => isBreak_eq_false_of_isBlank (hb c hc)
  rw [hchars] at h
  obtain ⟨u₁, rfl, h₁⟩ := exists_of_contents_append (hblanks w.indent_blank) h
  obtain ⟨u₂, rfl, h₂⟩ :=
    exists_of_contents_append (fun _ => w.isName.isBreak_eq_false_of_mem) h₁
  obtain ⟨u₃, rfl, h₃⟩ := exists_of_contents_append (hblanks w.gap_blank) h₂
  obtain ⟨l, u₄, rfl, hl, h₄⟩ := exists_of_contents_argumentList w.isArgumentList h₃
  obtain ⟨u₅, rfl, h₅⟩ := exists_of_contents_append (hblanks w.space_blank) h₄
  obtain ⟨u, rfl, hu⟩ := exists_of_contents_append (a := [':', '-']) (by simp [isBreak]) h₅
  exact ⟨{ w with list := l, isArgumentList := hl }, u,
    by simp [WrittenHead.chars, WrittenHead.afterName], rfl, hu⟩

end Text
end LmntalServer
