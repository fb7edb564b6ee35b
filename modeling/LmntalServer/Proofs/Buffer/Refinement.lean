import LmntalServer.Document
import LmntalServer.Proofs.Buffer.Basic
import LmntalServer.Proofs.Text.Offset

/-!
# Texts follow the buffers of their clients

A text is edited by characters and its client's buffer by code units, and the two never drift
apart: the lines, the places of positions and the changes of a buffer are those of the text,
measured in code units.

Main results:

* `Buffer.lines_encode`: a buffer has the lines of its text.
* `Buffer.resolve_encode`: a position falls on the same place in both.
* `Buffer.edit_encode`: changes of a buffer follow the changes of its text.
* `Buffer.edit_document`: accepted changes of a document leave the text that its client sees.
-/

namespace LmntalServer
namespace Buffer

/-! ## Lines -/

/-- The extent of a line of a text. -/
def extentOf (l : Line) : Extent :=
  ⟨l.content.units, l.ending.units⟩

/-- A carriage return with its line feed ends an empty line of a buffer. -/
theorem lines_crlf (b : Buffer) :
    lines (carriageReturn :: lineFeed :: b) = ⟨0, 2⟩ :: lines b := by
  rw [lines, if_pos ⟨rfl, rfl⟩]

/-- A code unit of a line break that is not cut in two ends a line. -/
theorem lines_cons_of_break {u : UInt16} {b : Buffer} (hu : u = carriageReturn ∨ u = lineFeed)
    (h : u = carriageReturn → b.head? ≠ some lineFeed) : lines (u :: b) = ⟨0, 1⟩ :: lines b := by
  cases b with
  | nil => exact if_pos hu
  | cons v b =>
      have hcut : ¬(u = carriageReturn ∧ v = lineFeed) := by
        rintro ⟨hcr, rfl⟩
        exact h hcr rfl
      rw [lines, if_neg hcut, if_pos hu]

/-- Any other code unit belongs to the content of its line. -/
theorem lines_cons_of_not_break {u : UInt16} {b : Buffer}
    (hu : ¬(u = carriageReturn ∨ u = lineFeed)) : lines (u :: b) = widen (lines b) := by
  cases b with
  | nil => exact if_neg hu
  | cons v b =>
      have hcut : ¬(u = carriageReturn ∧ v = lineFeed) := fun h => hu (Or.inl h.1)
      rw [lines, if_neg hcut, if_neg hu]

/-- The characters of line breaks are single code units. -/
theorem ofChar_of_isBreak {c : Char} (h : isBreak c = true) :
    c = '\r' ∧ ofChar c = [carriageReturn] ∨ c = '\n' ∧ ofChar c = [lineFeed] := by
  rcases (by simpa [isBreak] using h : c = '\n' ∨ c = '\r') with rfl | rfl
  · exact Or.inr ⟨rfl, rfl⟩
  · exact Or.inl ⟨rfl, rfl⟩

theorem eq_of_toNat_eq {c d : Char} (h : c.toNat = d.toNat) : c = d := by
  rw [← Char.ofNat_toNat c, h, Char.ofNat_toNat]

/-- No other character has a code unit of a line break. -/
theorem not_break_of_mem_ofChar {c : Char} (h : isBreak c = false) {u : UInt16}
    (hu : u ∈ ofChar c) : ¬(u = carriageReturn ∨ u = lineFeed) := by
  by_cases hlt : c.toNat < 0x10000
  · obtain ⟨v, hv, hnat, -, -⟩ := ofChar_of_lt hlt
    rw [hv, List.mem_singleton] at hu
    subst hu
    rintro (rfl | rfl)
    · rw [eq_of_toNat_eq (d := '\r') hnat.symm] at h
      cases h
    · rw [eq_of_toNat_eq (d := '\n') hnat.symm] at h
      cases h
  · obtain ⟨v, w, hvw, -, hhigh, hlow⟩ := ofChar_of_ge (Nat.not_lt.1 hlt)
    have hsurrogate : isHigh u = true ∨ isLow u = true := by
      rw [hvw] at hu
      rcases List.mem_cons.1 hu with rfl | hu
      · exact Or.inl hhigh
      · rw [List.mem_singleton.1 hu]
        exact Or.inr hlow
    rintro (rfl | rfl)
    · exact absurd hsurrogate (by decide)
    · exact absurd hsurrogate (by decide)

/-- A buffer starts with a line feed only if its text does. -/
theorem exists_eq_of_head?_encode {t : Text} (h : (encode t).head? = some lineFeed) :
    ∃ s, t = '\n' :: s := by
  cases t with
  | nil => cases h
  | cons c t =>
      have hmem : lineFeed ∈ ofChar c := by
        rw [encode_cons] at h
        cases hc : ofChar c with
        | nil =>
            unfold ofChar at hc
            split at hc <;> cases hc
        | cons u b =>
            rw [hc, List.cons_append, List.head?_cons, Option.some.injEq] at h
            rw [h]
            exact List.mem_cons_self
      cases hbreak : isBreak c with
      | false => exact absurd (Or.inr rfl) (not_break_of_mem_ofChar hbreak hmem)
      | true =>
          rcases ofChar_of_isBreak hbreak with ⟨-, hcr⟩ | ⟨rfl, -⟩
          · rw [hcr] at hmem
            cases List.mem_singleton.1 hmem
          · exact ⟨t, rfl⟩

/-- A character that is no line break makes the first line longer by its code units. -/
theorem lines_ofChar_append {c : Char} (h : isBreak c = false) (ls : List Line) (b : Buffer)
    (hb : lines b = ls.map extentOf) (hls : ls ≠ []) :
    lines (ofChar c ++ b) = (Text.consLine c ls).map extentOf := by
  obtain ⟨l, ks, rfl⟩ := List.exists_cons_of_ne_nil hls
  by_cases hlt : c.toNat < 0x10000
  · obtain ⟨u, hu, -⟩ := ofChar_of_lt hlt
    have hu' := not_break_of_mem_ofChar h (u := u) (by rw [hu]; exact List.mem_cons_self)
    rw [hu, List.singleton_append, lines_cons_of_not_break hu', hb]
    simp [widen, Text.consLine, extentOf, charUnits, hlt, Nat.add_comm]
  · obtain ⟨u, v, huv, -⟩ := ofChar_of_ge (Nat.not_lt.1 hlt)
    have hu := not_break_of_mem_ofChar h (u := u) (by rw [huv]; exact List.mem_cons_self)
    have hv := not_break_of_mem_ofChar h (u := v) (by rw [huv]; simp)
    rw [huv, List.cons_append, List.singleton_append, lines_cons_of_not_break hu,
      lines_cons_of_not_break hv, hb]
    simp [widen, Text.consLine, extentOf, charUnits, hlt, Nat.add_comm 2]

/-- A buffer has the lines of its text. -/
theorem lines_encode (t : Text) : lines (encode t) = (Text.lines t).map extentOf := by
  fun_induction Text.lines t with
  | case1 => rfl
  | case2 t ih =>
      rw [encode_cons, encode_cons, List.map_cons, ← ih]
      exact lines_crlf (encode t)
  | case3 c t hcut hc ih =>
      rw [encode_cons, List.map_cons, ← ih]
      rcases ofChar_of_isBreak hc with ⟨rfl, hcr⟩ | ⟨rfl, hlf⟩
      · rw [hcr]
        refine lines_cons_of_break (Or.inl rfl) fun _ hhead => ?_
        obtain ⟨s, hs⟩ := exists_eq_of_head?_encode hhead
        exact hcut s rfl hs
      · rw [hlf]
        refine lines_cons_of_break (Or.inr rfl) fun hcr => ?_
        cases hcr
  | case4 c t _ hc ih =>
      rw [encode_cons]
      exact lines_ofChar_append (Bool.eq_false_iff.2 hc) _ _ ih (Text.lines_ne_nil t)

/-- Some lines have as many code units as their extents say. -/
theorem foldr_size_extentOf (ls : List Line) :
    (ls.map extentOf).foldr (fun e size => e.size + size) 0 =
      Text.units (ls.flatMap Line.chars) := by
  induction ls with
  | nil => rfl
  | cons l ls ih =>
      rw [List.map_cons, List.foldr_cons, ih, List.flatMap_cons, Text.units_append, Line.chars,
        Text.units_append]
      rfl

/-- A line starts after as many code units as stand before it in the text. -/
theorem lineStart_encode (t : Text) (n : Nat) :
    lineStart (encode t) n = Text.units (t.take (t.lineStart n)) := by
  rw [lineStart, lines_encode, ← List.map_take, foldr_size_extentOf, Text.take_lineStart]

/-! ## Positions -/

@[simp]
theorem floor_zero (b : Buffer) : floor b 0 = 0 := by
  simp [floor]

/-- From the third code unit on, the one in front of the buffer does not matter. -/
theorem floor_cons_succ_succ (u : UInt16) (b : Buffer) (i : Nat) :
    floor (u :: b) (i + 2) = floor b (i + 1) + 1 := by
  simp only [floor, Nat.add_sub_cancel, List.getElem?_cons_succ, Nat.zero_lt_succ, true_and,
    show i + 2 - 1 = i + 1 by omega]
  split <;> rfl

/-- No pair begins with a code unit that is not a first half. -/
theorem floor_cons_of_not_high {u : UInt16} (h : isHigh u = false) (b : Buffer) (i : Nat) :
    floor (u :: b) (i + 1) = floor b i + 1 := by
  cases i with
  | zero => simp [floor, h]
  | succ i => exact floor_cons_succ_succ u b i

theorem isHigh_eq_false_of_isLow {u : UInt16} (h : isLow u = true) : isHigh u = false := by
  simp only [isLow, isHigh, Bool.and_eq_true, decide_eq_true_eq, Bool.and_eq_false_iff,
    decide_eq_false_iff_not] at h ⊢
  omega

/-- A code unit is moved down to the start of the character that holds it.  The first character is
one unit or two, and behind it both sides go on with the rest of the text. -/
theorem floor_encode {t : Text} {u : Nat} (h : u ≤ t.units) :
    floor (encode t) u = Text.units (t.take (t.indexOfUnit u)) := by
  induction t generalizing u with
  | nil =>
      rw [Nat.le_zero.1 h]
      exact floor_zero _
  | cons c t ih =>
      rw [Text.units_cons] at h
      rw [encode_cons]
      by_cases hlt : c.toNat < 0x10000
      · obtain ⟨x, hx, -, hhigh, -⟩ := ofChar_of_lt hlt
        have hc : charUnits c = 1 := if_pos hlt
        rw [hc] at h
        rw [hx, List.singleton_append, Text.indexOfUnit, hc]
        cases u with
        | zero => exact floor_zero _
        | succ u =>
            rw [if_pos (by omega), floor_cons_of_not_high hhigh, ih (by omega),
              List.take_succ_cons, Text.units_cons, hc, Nat.add_sub_cancel, Nat.add_comm]
      · obtain ⟨x, y, hxy, -, hhigh, hlow⟩ := ofChar_of_ge (Nat.not_lt.1 hlt)
        have hc : charUnits c = 2 := if_neg hlt
        rw [hc] at h
        rw [hxy, List.cons_append, List.singleton_append, Text.indexOfUnit, hc]
        cases u with
        | zero => exact floor_zero _
        | succ u =>
            cases u with
            | zero => simp [floor, hhigh, hlow]
            | succ u =>
                rw [if_pos (by omega), floor_cons_succ_succ,
                  floor_cons_of_not_high (isHigh_eq_false_of_isLow hlow), ih (by omega),
                  List.take_succ_cons, Text.units_cons, hc, show u + 1 + 1 - 2 = u by omega]
                omega

/-- A position falls on the same place in a buffer and in its text. -/
theorem resolve_encode (t : Text) (p : Position) :
    resolve (encode t) p = Text.units (t.take (t.offset p)) := by
  unfold resolve
  rw [lines_encode, List.getElem?_map]
  cases hl : (Text.lines t)[p.line.toNat]? with
  | none =>
      rw [Text.offset_eq_length hl, List.take_length]
      exact length_encode t
  | some l =>
      have hend := Text.units_take_lineStart_add_content hl
      have hle := Text.units_take_le t (t.lineStart p.line.toNat + l.content.length)
      rw [Text.offset_eq_indexOfUnit hl, Option.map_some]
      simp only [lineStart_encode, extentOf]
      exact floor_encode (by omega)

/-! ## Changes -/

/-- The code units in front of a character are those of the characters in front of it. -/
theorem take_encode (t : Text) (i : Nat) :
    (encode t).take (Text.units (t.take i)) = encode (t.take i) := by
  have hsplit := congrArg encode (List.take_append_drop i t)
  rw [encode_append] at hsplit
  rw [← hsplit, ← length_encode, List.take_left]

/-- The code units from a character on are those of the characters from there on. -/
theorem drop_encode (t : Text) (i : Nat) :
    (encode t).drop (Text.units (t.take i)) = encode (t.drop i) := by
  have hsplit := congrArg encode (List.take_append_drop i t)
  rw [encode_append] at hsplit
  rw [← hsplit, ← length_encode, List.drop_left]

/-- The larger of two places has the more code units before it. -/
theorem max_units_take (t : Text) (i j : Nat) :
    max (Text.units (t.take i)) (Text.units (t.take j)) = Text.units (t.take (max i j)) := by
  rcases Nat.le_total i j with h | h
  · rw [Nat.max_eq_right h, Nat.max_eq_right (Text.units_take_mono t h)]
  · rw [Nat.max_eq_left h, Nat.max_eq_left (Text.units_take_mono t h)]

/-- A change of a buffer follows the change of its text. -/
theorem change_encode (t : Text) (c : Change) : change (encode t) c = encode (c.apply t) := by
  obtain ⟨range, text⟩ := c
  cases range with
  | none => rfl
  | some r =>
      rw [Change.apply_some, Text.splice, encode_append, encode_append]
      simp only [change]
      rw [resolve_encode, resolve_encode, max_units_take, take_encode, drop_encode]

/-- The changes of a buffer follow the changes of its text, one after another. -/
theorem edit_encode (t : Text) (changes : List Change) :
    edit (encode t) changes = encode (t.edit changes) := by
  induction changes generalizing t with
  | nil => rfl
  | cons c changes ih =>
      rw [Text.edit_cons, ← ih, ← change_encode]
      rfl

/-- Accepted changes of a document leave exactly the text that its client sees, whose buffer takes
the same changes in code units; and this buffer never holds half of a surrogate pair. -/
theorem edit_document (d : Document) (changes : List Change) {version : Int}
    (h : d.version < version) :
    ∃ e, d.edit changes version = .ok e ∧ e.version = version ∧
      edit (encode d.text) changes = encode e.text ∧
      decode? (edit (encode d.text) changes) = some e.text ∧
      WellFormed (edit (encode d.text) changes) := by
  refine ⟨_, Document.edit_of_lt h changes, rfl, ?_, ?_, ?_⟩
  · exact edit_encode d.text changes
  · rw [edit_encode, decode?_encode]
  · rw [edit_encode]
    exact wellFormed_encode _

/-- A change that starts inside a surrogate pair and ends behind its line. -/
theorem edit_document_of_surrogate_pair :
    let d : Document :=
      ⟨0, ⟨"untitled", none, "a", none, none⟩, "lmntal", "f\r\n𝑥g\rh".toList, 1⟩
    let changes : List Change := [⟨some ⟨⟨1, 1⟩, ⟨1, 9⟩⟩, "é".toList⟩]
    d.version < 2 ∧
      ∃ e, d.edit changes 2 = .ok e ∧ e.version = 2 ∧
        edit (encode d.text) changes = encode e.text ∧
        decode? (edit (encode d.text) changes) = some e.text ∧
        WellFormed (edit (encode d.text) changes) := by
  intro d changes
  have hnewer : d.version < 2 := by decide
  exact ⟨hnewer, edit_document d changes hnewer⟩

example : edit (encode "f\r\n𝑥g\rh".toList) [⟨some ⟨⟨1, 1⟩, ⟨1, 9⟩⟩, "é".toList⟩] =
    encode "f\r\né\rh".toList := by decide +kernel

end Buffer
end LmntalServer
