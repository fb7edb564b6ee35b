import LmntalServer.Proofs.Position.RoundTrip
import LmntalServer.Proofs.Symbol.Nested
import LmntalServer.Proofs.Symbol.Scan

/-!
# Scans of whole lines in front of a text

Whole lines can be put in front of a text without disturbing its heads, if every parenthesis that
they open is closed in them: no head begins in these lines and ends behind them, since a head goes
over a line break only inside its argument list.  So the scan of both parts finds the heads of the
lines in front and then those of the text, moved down by as many lines as have been put in front.

Main definitions:

* `Text.IsClosed`: every opening parenthesis of a text is followed by a closing one.
* `Head.shift`: a head further down in a longer text.

Main results:

* `Text.headShape?_append_of_isClosed`: heads at the front of closed lines.
* `Text.headsFrom_append`: a scan over closed lines and the text behind them.
* `Text.heads_append`: the heads of both.
* `SymbolTable.scan_append`: the symbol table of both.
-/

namespace LmntalServer

namespace Head

/-- A head in a longer text, by so many characters and lines further down. -/
def shift (length lines : Nat) (h : Head) : Head :=
  { h with start := h.start + length, line := h.line + lines }

end Head

namespace Text

variable {a t : Text} {c : Char}

/-- Every opening parenthesis of a text is followed by a closing one. -/
def IsClosed (t : Text) : Prop :=
  ∀ front back, t = front ++ '(' :: back → ')' ∈ back

theorem isClosed_nil : IsClosed [] := by
  intro front back h
  cases front <;> cases h

/-- A text is closed if what follows its first character is, and if it closes the parenthesis that
it may open there. -/
theorem isClosed_cons_iff : IsClosed (c :: t) ↔ (c = '(' → ')' ∈ t) ∧ IsClosed t := by
  constructor
  · intro h
    refine ⟨fun hc => h [] t (by rw [hc]; rfl), fun front back ht => h (c :: front) back ?_⟩
    rw [ht, List.cons_append]
  · rintro ⟨hhead, htail⟩ front back h
    cases front with
    | nil =>
        cases h
        exact hhead rfl
    | cons d front =>
        cases h
        exact htail front back rfl

instance decidableIsClosed : (t : Text) → Decidable (IsClosed t)
  | [] => isTrue isClosed_nil
  | c :: t =>
      have := decidableIsClosed t
      decidable_of_iff ((c = '(' → ')' ∈ t) ∧ IsClosed t) isClosed_cons_iff.symm

/-- A closed text that opens a parenthesis closes one. -/
theorem IsClosed.closing_mem (h : IsClosed t) (hmem : '(' ∈ t) : ')' ∈ t := by
  obtain ⟨front, back, rfl⟩ := List.append_of_mem hmem
  exact List.mem_append_right _ (List.mem_cons_of_mem _ (h front back rfl))

/-! ## Line starts at the seam -/

/-- Where a line starts behind some characters, it starts behind their last ones too. -/
theorem startsLine_getLast?_of_cons (h : startsLine (c :: a).getLast? t = true) :
    startsLine a.getLast? t = true := by
  cases a with
  | nil => rfl
  | cons d a => rwa [List.getLast?_cons_cons] at h

/-- Whether a line starts inside whole lines does not depend on the text behind them. -/
theorem startsLine_some_append (h : startsLine (c :: a).getLast? t = true) :
    startsLine (some c) (a ++ t) = startsLine (some c) a := by
  cases a with
  | cons d a => rfl
  | nil =>
      have hc : isBreak c = true := isBreak_of_startsLine h
      have halone : startsLine (some c) [] = true :=
        startsLine_of_isBreak hc fun u _ hu => by cases hu
      rw [List.nil_append, halone]
      exact h

/-- Whole lines in front of a text add their line breaks. -/
theorem lineCount_append_of_startsLine (h : startsLine a.getLast? t = true) :
    lineCount (a ++ t) = breakCount a + lineCount t := by
  induction a with
  | nil => simp [breakCount]
  | cons c a ih =>
      have htail := ih (startsLine_getLast?_of_cons h)
      have hcount := breakCount_add_one a
      have hcount' := breakCount_add_one (c :: a)
      rw [lineCount_cons] at hcount'
      rw [List.cons_append, lineCount_cons, startsLine_some_append h]
      omega

/-! ## Heads at the front of whole lines -/

/-- A prefix without a character ends before the character. -/
theorem isPrefix_of_not_mem {d : Char} {s : Text} (h : a <+: t ++ d :: s) (hd : d ∉ a) :
    a <+: t := by
  have hfront : t ++ [d] <+: t ++ d :: s := ⟨s, by simp⟩
  rcases List.prefix_or_prefix_of_prefix h hfront with hshort | hlong
  · rcases List.prefix_concat_iff.1 hshort with rfl | hshort
    · exact absurd (List.mem_append_right _ List.mem_cons_self) hd
    · exact hshort
  · exact absurd (hlong.subset (List.mem_append_right _ List.mem_cons_self)) hd

/-- A head opens its argument list before it goes over a line break, because only characters of an
argument list belong to line breaks. -/
theorem opening_mem_of_isPrefix {w : WrittenHead} (h : a <+: w.chars)
    (hlast : a.getLast? = some c) (hc : isBreak c = true) : '(' ∈ a := by
  by_contra hopen
  have hmem : c ∈ a := List.mem_of_getLast? hlast
  have hblanks : ∀ {b : Text}, (∀ d ∈ b, isBlank d = true) → c ∉ b := fun hb hmem => by
    rw [isBreak_eq_false_of_isBlank (hb c hmem)] at hc
    cases hc
  have hname : c ∉ w.name := fun hmem => by
    rw [w.isName.isBreak_eq_false_of_mem hmem] at hc
    cases hc
  have hfront : c ∉ w.indent ++ (w.name ++ w.gap) := by
    simp only [List.mem_append, not_or]
    exact ⟨hblanks w.indent_blank, hname, hblanks w.gap_blank⟩
  have hlist := w.isArgumentList
  cases hl : w.list with
  | nil =>
      have hchars : w.chars = (w.indent ++ (w.name ++ w.gap)) ++ (w.space ++ [':', '-']) := by
        simp [WrittenHead.chars, WrittenHead.afterName, hl]
      rcases List.mem_append.1 (hchars ▸ h.subset hmem) with hmem | hmem
      · exact hfront hmem
      · rcases List.mem_append.1 hmem with hmem | hmem
        · exact hblanks w.space_blank hmem
        · rcases List.mem_cons.1 hmem with rfl | hmem
          · cases hc
          · rw [List.mem_singleton.1 hmem] at hc
            cases hc
  | cons d l =>
      rw [hl] at hlist
      cases hlist with
      | @present arguments harguments =>
          have hchars : w.chars = (w.indent ++ (w.name ++ w.gap)) ++
              '(' :: (arguments ++ [')'] ++ (w.space ++ [':', '-'])) := by
            simp [WrittenHead.chars, WrittenHead.afterName, hl]
          rw [hchars] at h
          exact hfront ((isPrefix_of_not_mem h hopen).subset hmem)

/-- No head goes on behind closed lines, so the head at their front is the same whatever stands
behind them.  The line break at the end of the lines would stand before the first closing
parenthesis of a head that goes on. -/
theorem headShape?_append_of_isClosed (hclosed : IsClosed a) (hlast : a.getLast? = some c)
    (hc : isBreak c = true) (t : Text) : headShape? (a ++ t) = headShape? a := by
  refine Option.ext fun h => ?_
  rw [headShape?_eq_some_iff, headShape?_eq_some_iff]
  constructor
  · rintro ⟨w, hw, rfl⟩
    refine ⟨w, ?_, rfl⟩
    rcases List.prefix_or_prefix_of_prefix hw (List.prefix_append a t) with hshort | hlong
    · exact hshort
    · have hparen := hclosed.closing_mem (opening_mem_of_isPrefix hlong hlast hc)
      have hne : 0 < a.length := List.length_pos_of_mem (List.mem_of_getLast? hlast)
      have hi : w.chars[a.length - 1]? = some c := by
        have hlt : a.length - 1 < a.length := by omega
        rw [List.getLast?_eq_getElem?, List.getElem?_eq_getElem hlt] at hlast
        rw [← hlast]
        exact List.prefix_iff_getElem?.1 hlong _ hlt
      obtain ⟨front, hchars, hfront, hlt⟩ := w.exists_of_isBreak hi hc
      have hinside : a <+: front :=
        List.prefix_of_prefix_length_le hlong ⟨_, hchars.symm⟩ (by omega)
      exact absurd (hinside.subset hparen) hfront
  · rintro ⟨w, hw, rfl⟩
    exact ⟨w, hw.trans (List.prefix_append a t), rfl⟩

/-! ## Scans -/

/-- The place behind a character does not depend on what stands behind the lines. -/
theorem Place.advance_append (p : Place) (h : startsLine (c :: a).getLast? t = true) :
    p.advance c (a ++ t) = p.advance c a := by
  rw [Place.advance, Place.advance, startsLine_some_append h]

/-- A scan over closed lines finds their heads and goes on behind them. -/
theorem headsFrom_append (hclosed : IsClosed a) (hstart : startsLine a.getLast? t = true)
    (p : Place) {skip : Nat} (hskip : skip ≤ a.length) :
    ∃ q : Place, headsFrom p skip (a ++ t) = headsFrom p skip a ++ headsFrom q 0 t ∧
      q.before = a.getLast?.or p.before ∧ q.index = p.index + a.length ∧
      q.line + lineCount t = p.line + lineCount (a ++ t) := by
  induction a generalizing p skip with
  | nil =>
      rw [List.length_nil, Nat.le_zero] at hskip
      subst hskip
      exact ⟨p, rfl, rfl, rfl, rfl⟩
  | cons c a ih =>
      have hnext : ∀ {skip : Nat}, skip ≤ a.length → ∃ q : Place,
          headsFrom (p.advance c (a ++ t)) skip (a ++ t) =
            headsFrom (p.advance c a) skip a ++ headsFrom q 0 t ∧
          q.before = (c :: a).getLast?.or p.before ∧ q.index = p.index + (c :: a).length ∧
          q.line + lineCount t = p.line + lineCount (c :: a ++ t) := by
        intro skip hskip
        obtain ⟨q, hheads, hbefore, hindex, hline⟩ :=
          ih (isClosed_cons_iff.1 hclosed).2 (startsLine_getLast?_of_cons hstart)
            (p.advance c (a ++ t)) hskip
        refine ⟨q, ?_, ?_, ?_, ?_⟩
        · rw [hheads, Place.advance_append p hstart]
        · rw [hbefore, List.getLast?_cons]
          cases a.getLast? <;> rfl
        · rw [hindex, Place.index_advance, List.length_cons]
          omega
        · rw [hline, Place.line_advance_add_lineCount]
          rfl
      cases skip with
      | succ skip => exact hnext (Nat.le_of_succ_le_succ hskip)
      | zero =>
          obtain ⟨d, hlast⟩ : ∃ d, (c :: a).getLast? = some d := by
            rw [List.getLast?_cons]
            exact ⟨_, rfl⟩
          have hd : isBreak d = true := isBreak_of_startsLine (hlast ▸ hstart)
          have hshape := headShape?_append_of_isClosed hclosed hlast hd t
          have hline : startsLine p.before (c :: (a ++ t)) = startsLine p.before (c :: a) := rfl
          rw [List.cons_append] at hshape ⊢
          rw [headsFrom, headsFrom, hshape, hline]
          split
          · next h hfound =>
              have hle : h.length - 1 ≤ a.length := by
                split at hfound
                · have hlength := (headShape?_length hfound).2
                  rw [List.length_cons] at hlength
                  omega
                · cases hfound
              obtain ⟨q, hheads, hq⟩ := hnext hle
              exact ⟨q, by rw [hheads, List.cons_append], hq⟩
          · exact hnext (Nat.zero_le _)

/-- A scan finds the same heads wherever the text stands, if a line starts at the front of it. -/
theorem headsFrom_eq_map_shift {p q : Place} {length lines : Nat}
    (hstart : startsLine p.before t = startsLine q.before t)
    (hindex : p.index = q.index + length) (hline : p.line = q.line + lines) (skip : Nat) :
    headsFrom p skip t = (headsFrom q skip t).map (Head.shift length lines) := by
  induction t generalizing p q skip with
  | nil => rfl
  | cons c t ih =>
      have hnext : ∀ skip, headsFrom (p.advance c t) skip t =
          (headsFrom (q.advance c t) skip t).map (Head.shift length lines) := by
        intro skip
        have hbefore : startsLine (p.advance c t).before t = startsLine (q.advance c t).before t :=
          rfl
        refine ih hbefore ?_ ?_ skip
        · rw [Place.index_advance, Place.index_advance, hindex]
          omega
        · simp only [Place.advance]
          split
          · omega
          · exact hline
      cases skip with
      | succ skip => exact hnext skip
      | zero =>
          rw [headsFrom, headsFrom, hstart]
          split
          · rw [hnext, List.map_cons, hindex, hline]
            rfl
          · exact hnext 0

/-- The heads of closed lines and a text behind them. -/
theorem heads_append (hclosed : IsClosed a) (hstart : startsLine a.getLast? t = true) :
    heads (a ++ t) = heads a ++ (heads t).map (Head.shift a.length (breakCount a)) := by
  obtain ⟨q, hheads, hbefore, hindex, hline⟩ :=
    headsFrom_append hclosed hstart Place.start (Nat.zero_le _)
  have hcount := lineCount_append_of_startsLine hstart
  have hseam : startsLine q.before t = startsLine Place.start.before t := by
    rw [hbefore, show Place.start.before = none from rfl, Option.or_none, hstart]
    rfl
  have hline : q.line = Place.start.line + breakCount a := by
    rw [show Place.start.line = 0 from rfl] at hline ⊢
    omega
  rw [heads, hheads, headsFrom_eq_map_shift hseam (by rw [hindex]) hline 0]
  rfl

end Text

namespace SymbolTable

open Text

variable {a t : Text}

/-- The atom of a name in closed lines with a text behind them is that of the text, moved down, or
else that of the lines. -/
theorem lookup?_scan_append (hclosed : IsClosed a) (hstart : startsLine a.getLast? t = true)
    (u : Uri) (name : String) :
    (scan (a ++ t) u).lookup? name =
      (((scan t u).lookup? name).map fun e =>
        { e with line := e.line + (breakCount a).toUInt32 }).or ((scan a u).lookup? name) := by
  have hname : ((fun h : Head => decide (String.ofList h.name = name)) ∘
      Head.shift a.length (breakCount a)) = fun h => decide (String.ofList h.name = name) := rfl
  have hentry (h : Head) : entryOf u (h.shift a.length (breakCount a)) =
      { entryOf u h with line := (entryOf u h).line + (breakCount a).toUInt32 } := by
    simp only [entryOf, Head.shift, Nat.toUInt32, UInt32.ofNat_add]
  rw [lookup?_scan, lookup?_scan, lookup?_scan, heads_append hclosed hstart, List.filter_append,
    List.filter_map, hname, List.getLast?_append, List.getLast?_map]
  cases (t.heads.filter fun h => String.ofList h.name = name).getLast? with
  | none => rfl
  | some h => simp only [Option.map_some, Option.some_or, hentry]

/-- In a text whose length a 32-bit word can hold, the line of an atom is below this length. -/
theorem line_of_lookup?_scan {u : Uri} {name : String} {e : SymbolEntry}
    (he : (scan t u).lookup? name = some e) (hsmall : t.length < UInt32.size) :
    e.line.toNat < t.length := by
  rw [lookup?_scan] at he
  obtain ⟨h, hh, rfl⟩ := Option.map_eq_some_iff.1 he
  have hmem := (List.mem_filter.1 (List.mem_of_getLast? hh)).1
  have hline : h.line < t.length := by
    rw [line_eq_breaksUpTo hmem]
    exact Nat.lt_of_le_of_lt (breaksUpTo_le t h.start) (standsIn_spanOf hmem).start_lt_length
  have hexact : (entryOf u h).line.toNat = h.line :=
    UInt32.toNat_ofNat_of_lt' (Nat.lt_trans hline hsmall)
  rwa [hexact]

/-- Whole lines in front of a text, in which every opening parenthesis is followed by a closing one,
move the atoms of the text down by as many lines as they have line breaks, and add their own atoms
under the names that the text does not define.  Lines are counted in 32-bit words, which is exact if
both together have fewer than `UInt32.size` characters. -/
theorem scan_append (hbreak : ∃ c, a.getLast? = some c ∧ isBreak c = true)
    (hpair : ¬(a.getLast? = some '\r' ∧ t.head? = some '\n')) (hclosed : IsClosed a) (u : Uri) :
    (scan (a ++ t) u).document = some u ∧
    (∀ name, (scan (a ++ t) u).lookup? name =
      (((scan t u).lookup? name).map fun e =>
        { e with line := e.line + (breakCount a).toUInt32 }).or ((scan a u).lookup? name)) ∧
    (∀ name, name ∈ (scan (a ++ t) u).names ↔ name ∈ (scan t u).names ∨ name ∈ (scan a u).names) ∧
    ((a ++ t).length < UInt32.size → ∀ name e, (scan t u).lookup? name = some e →
      (e.line + (breakCount a).toUInt32).toNat = e.line.toNat + breakCount a) := by
  obtain ⟨c, hlast, hc⟩ := hbreak
  have hstart : startsLine a.getLast? t = true := by
    rw [hlast]
    apply startsLine_of_isBreak hc
    rintro s rfl rfl
    exact hpair ⟨hlast, rfl⟩
  refine ⟨rfl, lookup?_scan_append hclosed hstart u, fun name => ?_, fun hsmall name e he => ?_⟩
  · rw [mem_names_scan, mem_names_scan, mem_names_scan, heads_append hclosed hstart,
      List.map_append, List.map_map, List.mem_append, or_comm]
    rfl
  · have hbreaks : breakCount a ≤ a.length := by
      rw [← breaksUpTo_length]
      exact breaksUpTo_le a a.length
    rw [List.length_append] at hsmall
    have hline : e.line.toNat < t.length := line_of_lookup?_scan he (by omega)
    have hcount : (breakCount a).toUInt32.toNat = breakCount a :=
      UInt32.toNat_ofNat_of_lt' (show breakCount a < UInt32.size by omega)
    rw [UInt32.toNat_add, hcount]
    exact Nat.mod_eq_of_lt (show e.line.toNat + breakCount a < UInt32.size by omega)

/-- Lines with an argument list over a line break and a parenthesis in a body, in front of a text
that defines one of their atoms again. -/
theorem scan_append_of_two_lines :
    let a : Text := "f(X,\r\nY) :- g(X).\nk :- f.\r".toList
    let t : Text := "\rm :- k.\n f:-m(".toList
    let u : Uri := ⟨"untitled", none, "a", none, none⟩
    (∃ c, a.getLast? = some c ∧ isBreak c = true) ∧
      ¬(a.getLast? = some '\r' ∧ t.head? = some '\n') ∧ IsClosed a ∧ (a ++ t).length < UInt32.size ∧
      (scan t u).lookup? "f" = some ⟨"f", 2, u⟩ ∧ (scan (a ++ t) u).lookup? "f" = some ⟨"f", 5, u⟩ ∧
      (scan (a ++ t) u).lookup? "k" = some ⟨"k", 2, u⟩ ∧ "g" ∉ (scan (a ++ t) u).names ∧
      ((2 : UInt32) + (breakCount a).toUInt32).toNat = (2 : UInt32).toNat + breakCount a := by
  intro a t u
  have hbreak : ∃ c, a.getLast? = some c ∧ isBreak c = true := ⟨'\r', by decide, rfl⟩
  have hpair : ¬(a.getLast? = some '\r' ∧ t.head? = some '\n') := by decide
  have hclosed : IsClosed a := by decide
  obtain ⟨-, hlookup, hnames, hexact⟩ := scan_append hbreak hpair hclosed u
  have hsmall : (a ++ t).length < UInt32.size := by decide
  have hf : (scan t u).lookup? "f" = some ⟨"f", 2, u⟩ := by decide +kernel
  have hk : (scan t u).lookup? "k" = none := by decide +kernel
  have hcount : breakCount a = 3 := by decide +kernel
  refine ⟨hbreak, hpair, hclosed, hsmall, hf, ?_, ?_, ?_, hexact hsmall "f" _ hf⟩
  · rw [hlookup, hf, hcount]
    rfl
  · rw [hlookup, hk]
    decide +kernel
  · rw [hnames]
    decide +kernel

end SymbolTable
end LmntalServer
