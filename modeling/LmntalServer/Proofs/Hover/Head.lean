import LmntalServer.Hover
import LmntalServer.Proofs.Symbol.Leftmost

/-!
# Hovers over heads

Heads and words are cut from a text in different ways: heads from the whole text, words from one
line by their columns.  On the name of a head the two agree.  A position anywhere in the name, or
directly after it, has this name as its word; so after a scan a hover over a head always finds
something.

Main results:

* `Text.indexOfColumnFrom_append`: columns among characters of one code unit.
* `Text.exists_runsFrom_append`: the first run of a class in a text.
* `Text.wordAt_of_content`: the first word of a line.
* `Text.exists_line_of_mem_heads`: the line of a head begins with its blanks and its name.
* `Text.lines_markdown`, `Text.markdown_entryOf`: what a hover shows of a library entry and of the
  atom of a head.
* `Text.hover_of_mem_heads`: words and hovers over the names of heads.
-/

namespace LmntalServer

/-! ## Characters of names -/

/-- Name characters have one code unit each. -/
theorem charUnits_of_isNameChar {c : Char} (h : isNameChar c = true) : charUnits c = 1 :=
  if_pos (Nat.lt_trans (toNat_lt_of_isNameChar h) (by decide))

theorem charUnits_of_isBlank {c : Char} (h : isBlank c = true) : charUnits c = 1 := by
  rcases eq_of_isBlank h with rfl | rfl <;> rfl

theorem isWordPart_eq_false_of_isBlank {c : Char} (h : isBlank c = true) :
    isWordPart c = false := by
  rcases eq_of_isBlank h with rfl | rfl <;> rfl

namespace IsName

variable {n : Text} {c : Char}

/-- The characters of a name may stand in words, its points too. -/
theorem isWordPart_of_mem (h : IsName n) (hc : c ∈ n) : isWordPart c = true := by
  rcases h.isNameChar_or_eq_of_mem hc with hname | rfl
  · rw [isWordPart, hname, Bool.true_or]
  · rfl

/-- The characters of a name have one code unit each. -/
theorem charUnits_of_mem (h : IsName n) (hc : c ∈ n) : charUnits c = 1 := by
  rcases h.isNameChar_or_eq_of_mem hc with hname | rfl
  · exact charUnits_of_isNameChar hname
  · rfl

end IsName

namespace Text

/-! ## Columns -/

/-- A column among characters of one code unit each is found after as many characters.  Up to there
the column is behind every character, so the sum does not wrap. -/
theorem indexOfColumnFrom_append {column units : UInt32} {a : Text}
    (ha : ∀ c ∈ a, charUnits c = 1) (hlow : units.toNat ≤ column.toNat)
    (hhigh : column.toNat ≤ units.toNat + a.length) (t : Text) :
    indexOfColumnFrom column units (a ++ t) = column.toNat - units.toNat := by
  induction a generalizing units with
  | nil =>
      have heq : column.toNat = units.toNat := Nat.le_antisymm hhigh hlow
      rw [heq, Nat.sub_self, List.nil_append]
      cases t with
      | nil => rfl
      | cons c t => exact if_pos (UInt32.le_iff_toNat_le.2 (Nat.le_of_eq heq))
  | cons c a ih =>
      rw [List.cons_append, indexOfColumnFrom]
      by_cases hle : column ≤ units
      · rw [if_pos hle]
        have := UInt32.le_iff_toNat_le.1 hle
        omega
      · rw [if_neg hle]
        have hlt : units.toNat < column.toNat := by
          rw [UInt32.le_iff_toNat_le] at hle
          omega
        have hcolumn := column.toNat_lt
        have hone : charUnits32 c = 1 := by
          rw [charUnits32, ha c List.mem_cons_self]
          rfl
        have hnext : (units + charUnits32 c).toNat = units.toNat + 1 := by
          rw [hone, UInt32.toNat_add, UInt32.toNat_one]
          exact Nat.mod_eq_of_lt (by omega)
        rw [List.length_cons] at hhigh
        rw [ih (fun d hd => ha d (List.mem_cons_of_mem _ hd)) (by omega) (by omega), hnext]
        omega

/-! ## Words -/

/-- The first run of a class in a text lies behind the characters of other classes, and goes up to
the next one of these. -/
theorem exists_runsFrom_append {p : Char → Bool} {a n : Text} {d : Char}
    (ha : ∀ c ∈ a, p c = false) (hn : ∀ c ∈ n, p c = true) (hne : n ≠ []) (hd : p d = false)
    (before : Option Char) (start : Nat) (t : Text) :
    ∃ prior rs, runsFrom p before start (a ++ (n ++ d :: t)) =
      ⟨prior, start + a.length, n⟩ :: rs := by
  induction a generalizing before start with
  | nil =>
      obtain ⟨c, n, rfl⟩ := List.exists_cons_of_ne_nil hne
      have htail : ∀ c ∈ n, p c = true := fun e he => hn e (List.mem_cons_of_mem _ he)
      rw [List.nil_append, List.cons_append, runsFrom_cons_of_pos (hn c List.mem_cons_self),
        List.takeWhile_append_of_pos htail, List.takeWhile_cons_of_neg (by simp [hd]),
        List.append_nil]
      exact ⟨before, _, rfl⟩
  | cons c a ih =>
      obtain ⟨prior, rs, hruns⟩ :=
        ih (fun e he => ha e (List.mem_cons_of_mem _ he)) (some c) (start + 1)
      refine ⟨prior, rs, ?_⟩
      rw [List.cons_append, runsFrom_cons_of_neg (ha c List.mem_cons_self), hruns,
        List.length_cons, Nat.add_right_comm, Nat.add_assoc]

/-- The word at a position in the first word of a line, if no character up to its end has two code
units. -/
theorem wordAt_of_content {t : Text} {p : Position} {l : Line} {a n s : Text} {d : Char}
    (hl : (lines t)[p.line.toNat]? = some l) (hcontent : l.content = a ++ (n ++ d :: s))
    (ha : ∀ c ∈ a, isWordPart c = false) (hn : ∀ c ∈ n, isWordPart c = true) (hne : n ≠ [])
    (hd : isWordPart d = false) (haUnits : ∀ c ∈ a, charUnits c = 1)
    (hnUnits : ∀ c ∈ n, charUnits c = 1) (hlow : a.length ≤ p.column.toNat)
    (hhigh : p.column.toNat ≤ a.length + n.length) :
    wordAt t p = some ⟨n, ⟨⟨p.line, a.length.toUInt32⟩,
      ⟨p.line, (a.length + n.length).toUInt32⟩⟩⟩ := by
  have hunits : ∀ c ∈ a ++ n, charUnits c = 1 := fun c hc =>
    (List.mem_append.1 hc).elim (haUnits c) (hnUnits c)
  have hcursor : indexOfColumn l.content p.column = p.column.toNat := by
    rw [indexOfColumn, hcontent, ← List.append_assoc]
    exact indexOfColumnFrom_append hunits (Nat.zero_le _)
      (by rw [List.length_append]; exact Nat.le_add_left_of_le hhigh) (d :: s)
  obtain ⟨prior, rs, hruns⟩ := exists_runsFrom_append ha hn hne hd none 0 s
  rw [Nat.zero_add] at hruns
  have hrange : rangeOfRun p.line l.content ⟨prior, a.length, n⟩ =
      ⟨⟨p.line, a.length.toUInt32⟩, ⟨p.line, (a.length + n.length).toUInt32⟩⟩ := by
    have hstart : units32 (l.content.take a.length) = a.length.toUInt32 := by
      rw [units32, hcontent, List.take_left, units_eq_length haUnits]
    have hlength : units32 n = n.length.toUInt32 := by
      rw [units32, units_eq_length hnUnits]
    simp only [rangeOfRun, hstart, hlength]
    rw [← UInt32.ofNat_add]
  simp only [wordAt, hl, hcursor, Option.bind_eq_bind, Option.bind_some]
  rw [runs, hcontent, hruns, List.find?_cons_of_pos]
  · rw [← hcontent]
    simp only [Option.bind_some, hrange]
    rfl
  · simp [hlow, hhigh]

/-! ## Heads -/

/-- The line of a head begins with the blanks and the name of the head, and no word goes on behind
them. -/
theorem exists_line_of_mem_heads {t : Text} {h : Head} (hh : h ∈ heads t) :
    ∃ (w : WrittenHead) (l : Line) (d : Char) (s : Text), w.shape = h.toHeadShape ∧
      (lines t)[h.line]? = some l ∧ l.content = w.indent ++ (w.name ++ d :: s) ∧
      isWordPart d = false := by
  obtain ⟨w, pre, rest, rfl, hstart, hshape, -, hline⟩ := exists_of_mem_heads hh
  obtain ⟨d, after, hafter, hd⟩ := w.exists_afterName_eq_cons
  have hchars : w.chars ++ rest = (w.indent ++ (w.name ++ [d])) ++ (after ++ rest) := by
    rw [WrittenHead.chars, hafter]
    simp
  obtain ⟨l, ls, hls⟩ := List.exists_cons_of_ne_nil (lines_ne_nil (after ++ rest))
  have hbreaks : ∀ c ∈ w.indent ++ (w.name ++ [d]), isBreak c = false := by
    intro c hc
    rcases List.mem_append.1 hc with hc | hc
    · exact isBreak_eq_false_of_isBlank (w.indent_blank c hc)
    rcases List.mem_append.1 hc with hc | hc
    · exact w.isName.isBreak_eq_false_of_mem hc
    rw [List.mem_singleton.1 hc]
    rcases hd with hd | rfl | rfl
    · exact isBreak_eq_false_of_isBlank hd
    · rfl
    · rfl
  refine ⟨w, ⟨w.indent ++ (w.name ++ [d]) ++ l.content, l.ending⟩, d, l.content, hshape, ?_, ?_, ?_⟩
  · have hget := getElem?_lines_append hstart 0
    rw [Nat.add_zero] at hget
    rw [hline, hget, hchars, lines_append_of_not_isBreak hbreaks hls]
    rfl
  · simp
  · rcases hd with hd | rfl | rfl
    · exact isWordPart_eq_false_of_isBlank hd
    · rfl
    · rfl

/-- A position in the name of a head, or directly after it, has this name as its word. -/
theorem wordAt_of_mem_heads {t : Text} {h : Head} (hh : h ∈ heads t) {p : Position}
    (hline : p.line.toNat = h.line) (hlow : h.indent ≤ p.column.toNat)
    (hhigh : p.column.toNat ≤ h.indent + h.name.length) :
    wordAt t p = some ⟨h.name, ⟨⟨p.line, h.indent.toUInt32⟩,
      ⟨p.line, (h.indent + h.name.length).toUInt32⟩⟩⟩ := by
  obtain ⟨w, l, d, s, hshape, hl, hcontent, hd⟩ := exists_line_of_mem_heads hh
  have hindent : w.indent.length = h.indent := congrArg HeadShape.indent hshape
  have hname : w.name = h.name := congrArg HeadShape.name hshape
  rw [← hline] at hl
  rw [← hindent] at hlow
  rw [← hindent, ← hname] at hhigh ⊢
  obtain ⟨c, n, hcn, -⟩ := w.isName.exists_eq_cons
  have hne : w.name ≠ [] := by
    rw [hcn]
    exact List.cons_ne_nil c n
  exact wordAt_of_content hl hcontent
    (fun c hc => isWordPart_eq_false_of_isBlank (w.indent_blank c hc))
    (fun c hc => w.isName.isWordPart_of_mem hc) hne hd
    (fun c hc => charUnits_of_isBlank (w.indent_blank c hc))
    (fun c hc => w.isName.charUnits_of_mem hc) hlow hhigh

/-- A hover over a word shows what is known of it. -/
theorem hover_of_wordAt {library : Library} {symbols : SymbolTable} {t : Text} {p : Position}
    {w : Word} {markdown : String} (hword : wordAt t p = some w)
    (hknown : describe? library symbols (String.ofList w.text) = some markdown) :
    hover library symbols t p = some ⟨markdown, w.range⟩ := by
  simp only [hover, hword, hknown, Option.bind_eq_bind, Option.bind_some]
  rfl

/-- The text that a hover shows of a library entry with a signature on one line: the signature
between the marks of a block of code in the language, a rule between empty lines, and the lines of
the description. -/
theorem lines_markdown {e : LibraryEntry} (h : ∀ c ∈ e.signature.toList, isBreak c = false) :
    lines e.markdown.toList =
      ⟨"```lmntal".toList, ['\n']⟩ :: ⟨e.signature.toList, ['\n']⟩ :: ⟨"```".toList, ['\n']⟩ ::
        ⟨[], ['\n']⟩ :: ⟨"---".toList, ['\n']⟩ :: ⟨[], ['\n']⟩ :: lines e.description.toList := by
  have hmarkdown : e.markdown.toList =
      "```lmntal".toList ++ '\n' :: (e.signature.toList ++ '\n' :: ("```".toList ++ '\n' ::
        ([] ++ '\n' :: ("---".toList ++ '\n' :: ([] ++ '\n' :: e.description.toList))))) := by
    simp [LibraryEntry.markdown, languageId]
  rw [hmarkdown, lines_append_lineFeed (by simp [isBreak]), lines_append_lineFeed h,
    lines_append_lineFeed (by simp [isBreak]), lines_append_lineFeed (by simp),
    lines_append_lineFeed (by simp [isBreak]), lines_append_lineFeed (by simp)]

/-- The text that a hover shows of the atom of a head. -/
theorem markdown_entryOf (u : Uri) (h : Head) :
    (SymbolTable.entryOf u h).markdown =
      "**" ++ String.ofList h.name ++ "** is a user-defined atom.\n\nDefined in `" ++
        u.fileName?.getD u.render ++ "` at line " ++
        toString ((h.line + 1) % UInt32.size) ++ "." := by
  have hline : (h.line.toUInt32 + 1).toNat = (h.line + 1) % UInt32.size := by
    rw [UInt32.toNat_add, Nat.toUInt32, UInt32.toNat_ofNat', UInt32.toNat_one, Nat.mod_add_mod]
  rw [← hline]
  rfl

/-- A head ends within its text, so its columns and its line are smaller than the text is long. -/
theorem lt_length_of_mem_heads {t : Text} {h : Head} (hh : h ∈ heads t) :
    h.indent + h.name.length < t.length ∧ h.line + 1 < t.length := by
  obtain ⟨w, pre, rest, ht, -, hshape, -, hline⟩ := exists_of_mem_heads hh
  have hindent : w.indent.length = h.indent := congrArg HeadShape.indent hshape
  have hname : w.name = h.name := congrArg HeadShape.name hshape
  have hle := breaksUpTo_le t pre.length
  have hlength := congrArg List.length ht
  rw [List.length_append, List.length_append, w.length_chars, hindent, hname] at hlength
  constructor
  · omega
  · omega

/-- A position in the name of a head, or directly after it, has this name as its word.  After a
scan a hover there shows the library entry of the name, or without one the atom of the name with
the line, counted from one, of the last head of this name.  Columns and lines are 32-bit words,
which is exact for texts of fewer than `UInt32.size` characters. -/
theorem hover_of_mem_heads (library : Library) (t : Text) (u : Uri) {h : Head}
    (hh : h ∈ heads t) (p : Position) (hline : p.line.toNat = h.line)
    (hlow : h.indent ≤ p.column.toNat) (hhigh : p.column.toNat ≤ h.indent + h.name.length) :
    let name := String.ofList h.name
    let range : Range :=
      ⟨⟨p.line, h.indent.toUInt32⟩, ⟨p.line, (h.indent + h.name.length).toUInt32⟩⟩
    wordAt t p = some ⟨h.name, range⟩ ∧
    (∀ e, library.get? name = some e →
      hover library (SymbolTable.scan t u) t p = some ⟨e.markdown, range⟩) ∧
    (library.get? name = none → ∃ k,
      ((heads t).filter fun k => k.name = h.name).getLast? = some k ∧
      hover library (SymbolTable.scan t u) t p =
        some ⟨"**" ++ name ++ "** is a user-defined atom.\n\nDefined in `" ++
          u.fileName?.getD u.render ++ "` at line " ++ toString ((k.line + 1) % UInt32.size) ++ ".",
          range⟩ ∧
      (t.length < UInt32.size → (k.line + 1) % UInt32.size = k.line + 1)) ∧
    (t.length < UInt32.size → h.indent.toUInt32.toNat = h.indent ∧
      (h.indent + h.name.length).toUInt32.toNat = h.indent + h.name.length) := by
  intro name range
  have hword : wordAt t p = some ⟨h.name, range⟩ := wordAt_of_mem_heads hh hline hlow hhigh
  refine ⟨hword, fun e he => ?_, fun hnone => ?_, fun hsmall => ?_⟩
  · exact hover_of_wordAt hword (describe?_of_library he _)
  · obtain ⟨k, hmem, hname, hk, hatom⟩ := SymbolTable.exists_lookup?_scan_of_mem_heads hh u
    have hdescribe : describe? library (SymbolTable.scan t u) (String.ofList h.name) =
        some (SymbolTable.entryOf u k).markdown := by
      rw [describe?, show library.get? (String.ofList h.name) = none from hnone]
      exact congrArg (Option.map SymbolEntry.markdown) hatom
    refine ⟨k, hk, ?_, fun hsmall => ?_⟩
    · rw [hover_of_wordAt hword hdescribe, markdown_entryOf, hname]
    · have := (lt_length_of_mem_heads hmem).2
      exact Nat.mod_eq_of_lt (by omega)
  · have := (lt_length_of_mem_heads hh).1
    exact ⟨UInt32.toNat_ofNat_of_lt' (show _ < UInt32.size by omega),
      UInt32.toNat_ofNat_of_lt' (show _ < UInt32.size by omega)⟩

/-- A position directly after a name with two segments, which has an argument list on two lines and
a later head, with a library that has the name and with one that has not. -/
theorem hover_of_mem_heads_of_two_segments :
    let t : Text := "g.\r\n  a.b(X,\n Y) :- c.\na.b :- d.".toList
    let u : Uri := ⟨"file", none, "/x.lmn", none, none⟩
    let h : Head := ⟨⟨2, "a.b".toList, 15⟩, 4, 1⟩
    let p : Position := ⟨1, 5⟩
    let e : LibraryEntry := ⟨"a.b", "a.b(X)", "An atom."⟩
    let library : Library := Dictionary.ofList [("a.b", e)]
    h ∈ heads t ∧ p.line.toNat = h.line ∧ h.indent ≤ p.column.toNat ∧
      p.column.toNat ≤ h.indent + h.name.length ∧ library.get? "a.b" = some e ∧
      hover library (SymbolTable.scan t u) t p = some ⟨e.markdown, ⟨⟨1, 2⟩, ⟨1, 5⟩⟩⟩ ∧
      (Dictionary.empty : Library).get? "a.b" = none ∧
      (∃ k, ((heads t).filter fun k => k.name = h.name).getLast? = some k ∧
        hover Dictionary.empty (SymbolTable.scan t u) t p =
          some ⟨"**a.b** is a user-defined atom.\n\nDefined in `x.lmn` at line " ++
            toString ((k.line + 1) % UInt32.size) ++ ".", ⟨⟨1, 2⟩, ⟨1, 5⟩⟩⟩) ∧
      t.length < UInt32.size := by
  intro t u h p e library
  have hh : h ∈ heads t := by decide +kernel
  have hentry : library.get? "a.b" = some e := by decide +kernel
  have hnone : (Dictionary.empty : Library).get? "a.b" = none := rfl
  have hlow : h.indent ≤ p.column.toNat := by decide
  have hhigh : p.column.toNat ≤ h.indent + h.name.length := by decide
  obtain ⟨-, hlibrary, -, -⟩ := hover_of_mem_heads library t u hh p rfl hlow hhigh
  obtain ⟨-, -, hatom, -⟩ := hover_of_mem_heads Dictionary.empty t u hh p rfl hlow hhigh
  obtain ⟨k, hk, hhover, -⟩ := hatom hnone
  have htext : "**" ++ String.ofList h.name ++ "** is a user-defined atom.\n\nDefined in `" ++
      u.fileName?.getD u.render ++ "` at line " =
        "**a.b** is a user-defined atom.\n\nDefined in `x.lmn` at line " := by decide +kernel
  rw [htext] at hhover
  exact ⟨hh, rfl, hlow, hhigh, hentry, hlibrary e hentry, hnone, ⟨k, hk, hhover⟩, by decide⟩

end Text
end LmntalServer
