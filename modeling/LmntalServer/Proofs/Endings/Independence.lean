import LmntalServer.Hover
import LmntalServer.Proofs.Completion.Tokens
import LmntalServer.Proofs.Endings.Contents
import LmntalServer.Proofs.Symbol.Scan

/-!
# Independence of line breaks

How the lines of a text end makes no difference to what is known of it: texts with the same contents
of lines have the same symbol table, the same words and hovers at all positions, and the same
completion candidates.  This holds although all offsets in such texts differ, and although heads may
go on over several lines.

Main definitions:

* `Text.InStep`: two scans side by side.

Main results:

* `Text.InStep.map_headsFrom`: the heads that two scans find side by side.
* `Text.tokens_append_congr`, `Text.wordAt_congr`: tokens and words.
* `Text.features_eq_of_contents`: symbol tables, words, hovers and candidates.
-/

namespace LmntalServer
namespace Text

variable {s t : Text}

/-! ## Symbol tables -/

/-- Two scans side by side: what is in front of them has the same contents of lines, they are on the
same line, and either both or none at the start of it. -/
structure InStep (p : Place) (s : Text) (q : Place) (t : Text) : Prop where
  contents_eq : contents s = contents t
  line_eq : p.line = q.line
  startsLine_eq : startsLine p.before s = startsLine q.before t

namespace InStep

variable {p q : Place}

/-- Two scans that go on over equally many line breaks are again on the same line. -/
theorem of_lineCount (h : InStep p s q t) {p' q' : Place} {s' t' : Text}
    (hcontents : contents s' = contents t') (hp : p'.line + lineCount s' = p.line + lineCount s)
    (hq : q'.line + lineCount t' = q.line + lineCount t)
    (hstart : startsLine p'.before s' = startsLine q'.before t') : InStep p' s' q' t' := by
  have hcount := lineCount_eq_of_contents h.contents_eq
  have hcount' := lineCount_eq_of_contents hcontents
  have hline := h.line_eq
  exact ⟨hcontents, by omega, hstart⟩

/-- A line break brings both scans to the start of the next line. -/
theorem step_ending {e : Text} (he : IsEnding e s) (h : InStep p (e ++ s) q t) :
    ∃ p' q' t', headsFrom p 0 (e ++ s) = headsFrom p' 0 s ∧
      headsFrom q 0 t = headsFrom q' 0 t' ∧ InStep p' s q' t' := by
  obtain ⟨f, t', rfl, hf, hcontents⟩ := exists_of_contents_ending he h.contents_eq
  obtain ⟨p', hp, hpline, hpstart⟩ := exists_headsFrom_ending_append he p
  obtain ⟨q', hq, hqline, hqstart⟩ := exists_headsFrom_ending_append hf q
  exact ⟨p', q', t', hp, hq, h.of_lineCount hcontents hpline hqline (hpstart.trans hqstart.symm)⟩

/-- Both scans find heads with the same name on the same line. -/
theorem step_head {w : WrittenHead} (h : InStep p (w.chars ++ s) q t)
    (hstart : startsLine p.before (w.chars ++ s) = true) :
    ∃ p' q' t' k l, headsFrom p 0 (w.chars ++ s) = k :: headsFrom p' 0 s ∧
      headsFrom q 0 t = l :: headsFrom q' 0 t' ∧ k.name = l.name ∧ k.line = l.line ∧
      InStep p' s q' t' := by
  obtain ⟨v, t', rfl, hname, hcontents⟩ := exists_of_contents_chars h.contents_eq
  obtain ⟨p', hp, hpline, hpbefore⟩ := exists_headsFrom_chars_append hstart
  obtain ⟨q', hq, hqline, hqbefore⟩ :=
    exists_headsFrom_chars_append (h.startsLine_eq ▸ hstart)
  have hbefore : startsLine p'.before s = startsLine q'.before t' := by
    rw [hpbefore, hqbefore]
    rfl
  exact ⟨p', q', t', ⟨w.shape, p.index, p.line⟩, ⟨v.shape, q.index, q.line⟩, hp, hq, hname.symm,
    h.line_eq, h.of_lineCount hcontents hpline hqline hbefore⟩

/-- Neither scan finds a head where the first one finds none. -/
theorem step_char {c : Char} (hc : isBreak c = false) (h : InStep p (c :: s) q t)
    (hnone : startsLine p.before (c :: s) = true →
      ∀ (w : WrittenHead) (r : Text), c :: s ≠ w.chars ++ r) :
    ∃ p' q' t', headsFrom p 0 (c :: s) = headsFrom p' 0 s ∧
      headsFrom q 0 t = headsFrom q' 0 t' ∧ InStep p' s q' t' := by
  obtain ⟨t', rfl, hcontents⟩ := exists_of_contents_cons hc h.contents_eq
  have hnone' : startsLine q.before (c :: t') = true →
      ∀ (w : WrittenHead) (r : Text), c :: t' ≠ w.chars ++ r := by
    intro hq w r hw
    obtain ⟨v, r', hv, -, -⟩ := exists_of_contents_chars (hw ▸ h.contents_eq.symm)
    exact hnone (h.startsLine_eq.trans hq) v r' hv
  have hbefore : startsLine (some c) s = startsLine (some c) t' := by
    rw [startsLine_of_not_isBreak hc, startsLine_of_not_isBreak hc]
  exact ⟨p.advance c s, q.advance c t', t', headsFrom_cons_of_not_written hnone,
    headsFrom_cons_of_not_written hnone',
    h.of_lineCount hcontents (p.line_advance_add_lineCount c s)
      (q.line_advance_add_lineCount c t') hbefore⟩

/-- Two scans side by side find heads with the same names on the same lines. -/
theorem map_headsFrom (h : InStep p s q t) :
    (headsFrom p 0 s).map (fun k => (k.name, k.line)) =
      (headsFrom q 0 t).map fun k => (k.name, k.line) := by
  -- On the length of the first text: a step passes a line break, a head, or another character.
  induction hn : s.length using Nat.strongRecOn generalizing s t p q with
  | _ n ih =>
      cases s using lineInduction with
      | nil =>
          rw [eq_nil_of_contents h.contents_eq]
          rfl
      | ending e s he =>
          obtain ⟨p', q', t', hp, hq, hnext⟩ := h.step_ending he
          have hpos := he.length_pos
          rw [List.length_append] at hn
          rw [hp, hq]
          exact ih s.length (by omega) hnext rfl
      | char c s hc =>
          by_cases hhead : startsLine p.before (c :: s) = true ∧
              ∃ (w : WrittenHead) (r : Text), c :: s = w.chars ++ r
          · obtain ⟨hstart, w, r, hw⟩ := hhead
            rw [hw] at h hstart hn ⊢
            obtain ⟨p', q', t', k, l, hp, hq, hname, hline, hnext⟩ := h.step_head hstart
            have hlength := w.length_chars
            rw [List.length_append] at hn
            rw [hp, hq, List.map_cons, List.map_cons, hname, hline,
              ih r.length (by omega) hnext rfl]
          · obtain ⟨p', q', t', hp, hq, hnext⟩ :=
              h.step_char hc fun hstart w r hw => hhead ⟨hstart, w, r, hw⟩
            rw [List.length_cons] at hn
            rw [hp, hq]
            exact ih s.length (by omega) hnext rfl

end InStep

/-- The kind of the line breaks does not matter to a scan, because the atom of a head is made of its
name and its line. -/
theorem scan_congr (h : contents s = contents t) (u : Uri) :
    SymbolTable.scan s u = SymbolTable.scan t u := by
  have hstart : InStep Place.start s Place.start t := ⟨h, rfl, rfl⟩
  have hentries :
      (heads s).map (SymbolTable.entryOf u) = (heads t).map (SymbolTable.entryOf u) := by
    have hnames := congrArg
      (List.map fun k : Text × Nat => (⟨String.ofList k.1, k.2.toUInt32, u⟩ : SymbolEntry))
      hstart.map_headsFrom
    rwa [List.map_map, List.map_map] at hnames
  rw [SymbolTable.scan, SymbolTable.scan, hentries]

/-! ## Tokens -/

/-- A line break separates tokens. -/
theorem tokens_append_ending {e : Text} (he : IsEnding e t) (a : Text) :
    tokens (a ++ (e ++ t)) = tokens a ++ tokens t := by
  cases he with
  | lineFeed => exact tokens_append_cons (by decide) a t
  | pair =>
      have hfeed : tokens ('\n' :: t) = tokens t := by
        simpa using tokens_append_cons (c := '\n') (by decide) [] t
      exact (tokens_append_cons (by decide) a ('\n' :: t)).trans (congrArg (tokens a ++ ·) hfeed)
  | carriageReturn => exact tokens_append_cons (by decide) a t

/-- The kind of the line breaks does not matter to the tokens behind a common front. -/
theorem tokens_append_congr (h : contents s = contents t) (a : Text) :
    tokens (a ++ s) = tokens (a ++ t) := by
  induction s using lineInduction generalizing t a with
  | nil => rw [eq_nil_of_contents h]
  | ending e s he ih =>
      obtain ⟨f, t, rfl, hf, h'⟩ := exists_of_contents_ending he h
      have htokens : tokens s = tokens t := ih h' []
      rw [tokens_append_ending he, tokens_append_ending hf, htokens]
  | char c s hc ih =>
      obtain ⟨t, rfl, h'⟩ := exists_of_contents_cons hc h
      simpa using ih h' (a ++ [c])

/-- The kind of the line breaks does not matter to the candidates. -/
theorem candidates_congr (h : contents s = contents t) : candidates s = candidates t := by
  have htokens : tokens s = tokens t := tokens_append_congr h []
  rw [candidates, candidates, htokens]

/-! ## Words and hovers -/

/-- A word is found in the contents of its line. -/
theorem wordAt_congr (h : contents s = contents t) (p : Position) : wordAt s p = wordAt t p := by
  have hline : (lines s)[p.line.toNat]?.map Line.content =
      (lines t)[p.line.toNat]?.map Line.content := by
    rw [← List.getElem?_map, ← List.getElem?_map]
    exact congrArg (·[p.line.toNat]?) h
  cases hs : (lines s)[p.line.toNat]? with
  | none =>
      cases ht : (lines t)[p.line.toNat]? with
      | none => simp [wordAt, hs, ht]
      | some l =>
          rw [hs, ht] at hline
          cases hline
  | some k =>
      cases ht : (lines t)[p.line.toNat]? with
      | none =>
          rw [hs, ht] at hline
          cases hline
      | some l =>
          rw [hs, ht] at hline
          have hcontent : k.content = l.content := Option.some.inj hline
          simp [wordAt, hs, ht, hcontent]

/-- The kind of the line breaks does not matter to a hover. -/
theorem hover_congr (h : contents s = contents t) (library : Library) (symbols : SymbolTable)
    (p : Position) : hover library symbols s p = hover library symbols t p := by
  rw [hover, hover, wordAt_congr h]

/-- Texts with the same contents of lines have the same symbol table, the same words and hovers at
all positions, and the same completion candidates, whatever line breaks end their lines. -/
theorem features_eq_of_contents (h : contents s = contents t) (library : Library) (u : Uri) :
    SymbolTable.scan s u = SymbolTable.scan t u ∧
    (∀ p, wordAt s p = wordAt t p) ∧
    (∀ p, hover library (SymbolTable.scan s u) s p =
      hover library (SymbolTable.scan t u) t p) ∧
    candidates s = candidates t := by
  refine ⟨scan_congr h u, wordAt_congr h, fun p => ?_, candidates_congr h⟩
  rw [scan_congr h u, hover_congr h]

/-- A head with an argument list on two lines and another one behind an empty line, with line
breaks of all kinds. -/
theorem features_eq_of_contents_of_mixed_breaks :
    let s : Text := "p(A,\r\nB) :- q.\n\r\r\n\tfoo.bar:-p.".toList
    let t : Text := "p(A,\rB) :- q.\r\n\n\r\tfoo.bar:-p.".toList
    let u : Uri := ⟨"file", none, "/x.lmn", none, none⟩
    s ≠ t ∧ contents s = contents t ∧
      SymbolTable.scan s u = SymbolTable.scan t u ∧
      (SymbolTable.scan t u).lookup? "foo.bar" = some ⟨"foo.bar", 4, u⟩ ∧
      wordAt s ⟨4, 3⟩ = wordAt t ⟨4, 3⟩ ∧
      hover Dictionary.empty (SymbolTable.scan s u) s ⟨4, 3⟩ =
        hover Dictionary.empty (SymbolTable.scan t u) t ⟨4, 3⟩ ∧
      candidates s = candidates t := by
  intro s t u
  have hcontents : contents s = contents t := by decide +kernel
  obtain ⟨hscan, hword, hhover, hcandidates⟩ :=
    features_eq_of_contents hcontents Dictionary.empty u
  exact ⟨by decide, hcontents, hscan, by decide +kernel, hword ⟨4, 3⟩, hhover ⟨4, 3⟩,
    hcandidates⟩

end Text
end LmntalServer
