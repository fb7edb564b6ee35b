import LmntalServer.Proofs.Symbol.Leftmost
import LmntalServer.Proofs.Text.LineStarts
import LmntalServer.Proofs.Text.Runs

/-!
# Heads that begin inside other heads

An argument list goes on to the first closing parenthesis, over any number of lines.  So a head can
begin a line that belongs to the argument list of an earlier head, and a scan, which takes heads
that do not overlap, does not take it.  These are all the heads that a scan does not take: whatever
else stands in a text, such as an opening parenthesis that is never closed, hides no head.

The reason is that a head on several lines is cut by the first closing parenthesis behind each of
these lines.  If it begins inside another head, both end with the same parenthesis and the same
rule sign, and it hides no line that the other one does not hide.

Main definitions:

* `Text.BeginsHead`: the content of a line begins with a whole head.
* `Text.IsHidden`: a line that starts inside a head.

Main results:

* `HeadSpan.StandsIn.stop_eq_of_nested`: a head on several lines that begins inside another head
  ends with it.
* `Text.mem_spans_iff`: a scan takes the heads that begin inside no other head.
* `SymbolTable.scan_beginsHead`: the atom of a name for which a line begins a head.
-/

namespace LmntalServer

/-! ## Heads on several lines -/

/-- A text is cut in one way only at the first place of a character. -/
theorem Text.eq_of_append_cons_eq {c : Char} {a b s t : Text} (ha : c ∉ a) (hb : c ∉ b)
    (h : a ++ c :: s = b ++ c :: t) : a = b ∧ s = t := by
  have htake : ∀ {d : Text}, c ∉ d → d.takeWhile (· ≠ c) = d := fun {d} hd =>
    List.takeWhile_eq_self_iff.2 fun e he => by
      simpa using fun heq : e = c => hd (heq ▸ he)
  have hfront := congrArg (List.takeWhile (· ≠ c)) h
  rw [takeWhile_append_cons (by simp), takeWhile_append_cons (by simp), htake ha,
    htake hb] at hfront
  subst hfront
  exact ⟨rfl, List.tail_eq_of_cons_eq (List.append_cancel_left h)⟩

/-- Names hold no parentheses. -/
theorem IsName.closing_not_mem {n : Text} (h : IsName n) : ')' ∉ n := by
  intro hmem
  rcases h.isNameChar_or_eq_of_mem hmem with hname | hpoint
  · cases hname
  · cases hpoint

/-- A line break in a head stands before its first closing parenthesis, behind which there are
blanks and the rule sign only. -/
theorem WrittenHead.exists_of_isBreak (w : WrittenHead) {i : Nat} {c : Char}
    (hi : w.chars[i]? = some c) (hc : isBreak c = true) :
    ∃ front, w.chars = front ++ ')' :: (w.space ++ [':', '-']) ∧ ')' ∉ front ∧
      i < front.length := by
  obtain ⟨indent, name, gap, list, space, hindent, hname, hgap, hlist, hspace⟩ := w
  have hblanks : ∀ {b : Text}, (∀ d ∈ b, isBlank d = true) → c ∉ b := fun hb hmem => by
    rw [isBreak_eq_false_of_isBlank (hb c hmem)] at hc
    cases hc
  have hsign : c ∉ [':', '-'] := by
    rintro (_ | ⟨_, _ | ⟨_, ⟨⟩⟩⟩) <;> cases hc
  cases hlist with
  | absent =>
      have hmem := List.mem_of_getElem? hi
      simp only [chars, afterName, List.nil_append, List.mem_append] at hmem
      rcases hmem with hmem | hmem | hmem | hmem | hmem
      · exact absurd hmem (hblanks hindent)
      · rw [hname.isBreak_eq_false_of_mem hmem] at hc
        cases hc
      · exact absurd hmem (hblanks hgap)
      · exact absurd hmem (hblanks hspace)
      · exact absurd hmem hsign
  | @present arguments harguments =>
      have hchars : chars ⟨indent, name, gap, '(' :: (arguments ++ [')']), space, hindent, hname,
          hgap, .present harguments, hspace⟩ =
            (indent ++ (name ++ (gap ++ '(' :: arguments))) ++ ')' :: (space ++ [':', '-']) := by
        simp [chars, afterName]
      have hparen : ∀ {b : Text}, (∀ d ∈ b, isBlank d = true) → ')' ∉ b := fun hb hmem => by
        cases hb ')' hmem
      refine ⟨_, hchars, ?_, ?_⟩
      · simp only [List.mem_append, List.mem_cons]
        rintro (hmem | hmem | hmem | hmem | hmem)
        · exact hparen hindent hmem
        · exact hname.closing_not_mem hmem
        · exact hparen hgap hmem
        · cases hmem
        · exact harguments hmem
      · by_contra hle
        rw [hchars, List.getElem?_append_right (Nat.le_of_not_lt hle)] at hi
        rcases List.mem_cons.1 (List.mem_of_getElem? hi) with rfl | hmem
        · cases hc
        · rcases List.mem_append.1 hmem with hmem | hmem
          · exact hblanks hspace hmem
          · exact hsign hmem

namespace HeadSpan.StandsIn

variable {t : Text} {r s : HeadSpan} {k : Nat}

/-- The start of a line inside a head stands before the first closing parenthesis of the head,
because the line break before it is a character of the argument list. -/
theorem exists_closing (hs : s.StandsIn t) (hk : t.lineStartsAt k = true) (hlow : s.start < k)
    (hhigh : k < s.stop) :
    ∃ front space rest, t.drop s.start = front ++ ')' :: (space ++ ':' :: '-' :: rest) ∧
      ')' ∉ front ∧ (∀ c ∈ space, isBlank c = true) ∧ k ≤ s.start + front.length ∧
      s.stop = s.start + front.length + space.length + 3 := by
  obtain ⟨-, w, -, hstop, rest, hrest⟩ := hs
  obtain ⟨i, rfl⟩ := Nat.exists_eq_add_of_lt hlow
  have hi : i < w.chars.length := by omega
  obtain ⟨c, hc⟩ : ∃ c, w.chars[i]? = some c := ⟨_, List.getElem?_eq_getElem hi⟩
  have hct : t[s.start + i]? = some c := by
    rw [← List.getElem?_drop, ← hrest, List.getElem?_append_left hi, hc]
  obtain ⟨front, hchars, hfront, hlt⟩ :=
    w.exists_of_isBreak hc (Text.isBreak_of_lineStartsAt hk hct)
  refine ⟨front, w.space, rest, ?_, hfront, w.space_blank, by omega, ?_⟩
  · rw [← hrest, hchars]
    simp
  · rw [hstop, hchars]
    simp only [List.length_append, List.length_cons, List.length_nil]
    omega

/-- A head that reaches over the start of a line and begins inside another head ends with it,
because both are cut by the first closing parenthesis behind the start of the inner one. -/
theorem stop_eq_of_nested (hr : r.StandsIn t) (hs : s.StandsIn t) (hbehind : s.start < r.start)
    (hinside : r.start < s.stop) (hk : t.lineStartsAt k = true) (hlow : r.start < k)
    (hhigh : k < r.stop) : r.stop = s.stop := by
  obtain ⟨front, space, rest, hdrop, hfront, hspace, hle, hstop⟩ :=
    hs.exists_closing hr.startsLine hbehind hinside
  obtain ⟨front', space', rest', hdrop', hfront', hspace', -, hstop'⟩ :=
    hr.exists_closing hk hlow hhigh
  obtain ⟨i, hi⟩ := Nat.exists_eq_add_of_le (Nat.le_of_lt hbehind)
  have hcolon : ∀ {b : Text}, (∀ c ∈ b, isBlank c = true) → ':' ∉ b := fun hb hmem => by
    cases hb ':' hmem
  have hinner : front' ++ ')' :: (space' ++ ':' :: '-' :: rest') =
      front.drop i ++ ')' :: (space ++ ':' :: '-' :: rest) := by
    rw [← hdrop', hi, ← List.drop_drop, hdrop, List.drop_append_of_le_length (by omega)]
  obtain ⟨hfronts, htail⟩ :=
    Text.eq_of_append_cons_eq hfront' (fun h => hfront (List.mem_of_mem_drop h)) hinner
  obtain ⟨hspaces, -⟩ := Text.eq_of_append_cons_eq (hcolon hspace') (hcolon hspace) htail
  have hlength := congrArg List.length hfronts
  rw [List.length_drop] at hlength
  rw [hstop, hstop', hspaces]
  omega

end HeadSpan.StandsIn

/-! ## The heads that a scan takes -/

namespace LeftmostHeads

variable {t : Text} {bound : Nat} {r : HeadSpan} {ss : List HeadSpan}

/-- The leftmost heads stand in the text. -/
theorem standsIn_of_mem (h : LeftmostHeads t bound ss) (hr : r ∈ ss) : r.StandsIn t := by
  induction h with
  | nil => cases hr
  | cons hs _ _ _ ih =>
      rcases List.mem_cons.1 hr with rfl | hr
      · exact hs
      · exact ih hr

/-- A head that a scan does not take begins inside one that it takes. -/
theorem mem_or_exists_of_standsIn (h : LeftmostHeads t bound ss) (hr : r.StandsIn t)
    (hbound : bound ≤ r.start) : r ∈ ss ∨ ∃ s ∈ ss, s.start < r.start ∧ r.start < s.stop := by
  induction h with
  | nil hnone => exact absurd (hnone r hr) (Nat.not_lt.2 hbound)
  | @cons bound s ss hs hfrom hfirst hss ih =>
      have hle := hfirst r hr hbound
      by_cases hstart : s.start = r.start
      · exact Or.inl (hs.unique hr hstart ▸ List.mem_cons_self)
      by_cases hstop : r.start < s.stop
      · exact Or.inr ⟨s, List.mem_cons_self, by omega, hstop⟩
      rcases ih (Nat.le_of_not_lt hstop) with hmem | ⟨q, hq, hinside⟩
      · exact Or.inl (List.mem_cons_of_mem _ hmem)
      · exact Or.inr ⟨q, List.mem_cons_of_mem _ hq, hinside⟩

end LeftmostHeads

namespace Text

variable {t : Text} {n : Nat} {name : Text}

theorem standsIn_spanOf {h : Head} (hh : h ∈ heads t) : (spanOf h).StandsIn t :=
  (leftmostHeads_heads t).standsIn_of_mem (List.mem_map_of_mem hh)

/-- No head of a scan begins inside another. -/
theorem stop_le_of_mem_heads {h k : Head} (hh : h ∈ heads t) (hk : k ∈ heads t)
    (hlt : h.start < k.start) : h.stop ≤ k.start := by
  have hne : h ≠ k := by
    rintro rfl
    exact Nat.lt_irrefl _ hlt
  rcases rel_or_rel_of_mem (pairwise_heads t) hh hk hne with hle | hle
  · exact hle
  · have hstop : k.start ≤ k.stop := Nat.le_add_right _ _
    omega

/-- Of the heads of a scan that a filter lets pass, the last one starts last. -/
theorem start_le_of_getLast?_filter {p : Head → Bool} {h k : Head} (hh : h ∈ (heads t).filter p)
    (hk : ((heads t).filter p).getLast? = some k) : h.start ≤ k.start := by
  obtain ⟨front, hfront⟩ := List.getLast?_eq_some_iff.1 hk
  have hpairwise := (pairwise_heads t).filter p
  rw [hfront] at hh hpairwise
  rcases List.mem_append.1 hh with hh | hh
  · have hstop := (List.pairwise_append.1 hpairwise).2.2 h hh k List.mem_cons_self
    exact Nat.le_of_add_right_le hstop
  · rw [List.mem_singleton.1 hh]

/-- A scan takes the heads that begin inside no other head of the text. -/
theorem mem_spans_iff {s : HeadSpan} (hs : s.StandsIn t) :
    s ∈ (heads t).map spanOf ↔
      ¬∃ r : HeadSpan, r.StandsIn t ∧ r.start < s.start ∧ s.start < r.stop := by
  have hall : ∀ {r : HeadSpan}, r.StandsIn t → r ∈ (heads t).map spanOf ∨
      ∃ q ∈ (heads t).map spanOf, q.start < r.start ∧ r.start < q.stop := fun hr =>
    (leftmostHeads_heads t).mem_or_exists_of_standsIn hr (Nat.zero_le _)
  constructor
  · rintro hmem ⟨r, hr, hlow, hhigh⟩
    obtain ⟨k, hk, rfl⟩ := List.mem_map.1 hmem
    -- If the head around it is not taken itself, then one that ends at the same index is.
    obtain ⟨h, hh, hlow, hhigh⟩ :
        ∃ h ∈ heads t, h.start < k.start ∧ k.start < h.stop := by
      rcases hall hr with hmem | ⟨q, hq, hbehind, hinside⟩
      · obtain ⟨h, hh, rfl⟩ := List.mem_map.1 hmem
        exact ⟨h, hh, hlow, hhigh⟩
      · obtain ⟨h, hh, rfl⟩ := List.mem_map.1 hq
        have hstop := hr.stop_eq_of_nested (standsIn_spanOf hh) hbehind hinside hs.startsLine
          hlow hhigh
        exact ⟨h, hh, Nat.lt_trans hbehind hlow, Nat.lt_of_lt_of_eq hhigh hstop⟩
    have := stop_le_of_mem_heads hh hk hlow
    omega
  · intro hnone
    rcases hall hs with hmem | ⟨q, hq, hinside⟩
    · exact hmem
    · obtain ⟨h, hh, rfl⟩ := List.mem_map.1 hq
      exact absurd ⟨spanOf h, standsIn_spanOf hh, hinside⟩ hnone

/-! ## Lines that begin heads -/

/-- The content of a line, taken alone, begins with a whole head. -/
def BeginsHead (t : Text) (n : Nat) (name : Text) : Prop :=
  ∃ (l : Line) (w : WrittenHead), (lines t)[n]? = some l ∧ w.chars <+: l.content ∧ w.name = name

/-- A line starts inside a head that begins on an earlier line. -/
def IsHidden (t : Text) (n : Nat) : Prop :=
  ∃ r : HeadSpan, r.StandsIn t ∧ r.start < lineStart t n ∧ lineStart t n < r.stop

/-- A head on a line of its own stands in the text. -/
theorem BeginsHead.exists_standsIn (h : BeginsHead t n name) :
    ∃ s : HeadSpan, s.StandsIn t ∧ s.start = lineStart t n ∧ s.name = name := by
  obtain ⟨l, w, hl, hw, hname⟩ := h
  refine ⟨⟨lineStart t n, name, lineStart t n + w.chars.length⟩, ⟨?_, w, hname, rfl, ?_⟩, rfl, rfl⟩
  · exact lineStartsAt_lineStart hl
  · rw [content_eq_takeWhile hl] at hw
    exact hw.trans (List.takeWhile_prefix _)

/-- A scan takes the head that a line begins, if the line does not start inside another head. -/
theorem BeginsHead.exists_mem_heads_iff (h : BeginsHead t n name) :
    (∃ k ∈ heads t, k.start = lineStart t n ∧ k.name = name) ↔ ¬IsHidden t n := by
  obtain ⟨s, hs, hstart, hname⟩ := h.exists_standsIn
  rw [IsHidden, ← hstart, ← mem_spans_iff hs, List.mem_map]
  constructor
  · rintro ⟨k, hk, hkstart, -⟩
    exact ⟨k, hk, (standsIn_spanOf hk).unique hs hkstart⟩
  · rintro ⟨k, hk, rfl⟩
    exact ⟨k, hk, rfl, hname⟩

/-- A head of a scan starts where its line does. -/
theorem start_eq_lineStart_of_mem_heads {k : Head} (hk : k ∈ heads t) :
    k.start = lineStart t k.line := by
  have hs := standsIn_spanOf hk
  rw [line_eq_breaksUpTo hk]
  exact (lineStart_breaksUpTo (Nat.le_of_lt hs.start_lt_length) hs.startsLine).symm

/-- The line of a head of a scan starts inside no other head. -/
theorem not_isHidden_of_mem_heads {k : Head} (hk : k ∈ heads t) : ¬IsHidden t k.line := by
  rw [IsHidden, ← start_eq_lineStart_of_mem_heads hk]
  exact (mem_spans_iff (standsIn_spanOf hk)).1 (List.mem_map_of_mem hk)

end Text

namespace SymbolTable

open Text

/-- A scan takes the head that a line begins exactly if the line does not start inside a head that
begins earlier.  Then the name has an atom, whatever else stands in the text.  The line of the atom
is one on which a head of this name begins, and no later line that does not start inside a head
begins a head of this name. -/
theorem scan_beginsHead (t : Text) (u : Uri) {n : Nat} {name : Text} (h : t.BeginsHead n name) :
    ((∃ k ∈ t.heads, k.start = t.lineStart n ∧ k.name = name) ↔ ¬t.IsHidden n) ∧
    (¬t.IsHidden n → ∃ d,
      (scan t u).lookup? (String.ofList name) = some ⟨String.ofList name, d.toUInt32, u⟩ ∧
      (t.length < UInt32.size → d.toUInt32.toNat = d) ∧
      (∀ m, t.BeginsHead m name → ¬t.IsHidden m → m ≤ d) ∧
      ¬t.IsHidden d ∧
      ∃ s : HeadSpan, s.StandsIn t ∧ s.start = t.lineStart d ∧ s.name = name) := by
  refine ⟨h.exists_mem_heads_iff, fun hshown => ?_⟩
  obtain ⟨first, hfirst, -, rfl⟩ := h.exists_mem_heads_iff.2 hshown
  obtain ⟨k, hk, hname, hlast, hlookup⟩ := exists_lookup?_scan_of_mem_heads hfirst u
  refine ⟨k.line, ?_, ?_, ?_, not_isHidden_of_mem_heads hk, spanOf k, standsIn_spanOf hk,
    start_eq_lineStart_of_mem_heads hk, hname⟩
  · rw [hlookup, entryOf, hname]
  · intro hsmall
    have hle := breaksUpTo_le t k.start
    have hlt : k.start < t.length := (standsIn_spanOf hk).start_lt_length
    rw [line_eq_breaksUpTo hk]
    exact UInt32.toNat_ofNat_of_lt' (show _ < UInt32.size by omega)
  · intro m hm hmshown
    obtain ⟨q, hq, hqstart, hqname⟩ := hm.exists_mem_heads_iff.2 hmshown
    obtain ⟨l, -, hl, -⟩ := hm
    have hle : q.start ≤ k.start :=
      start_le_of_getLast?_filter (List.mem_filter.2 ⟨hq, decide_eq_true hqname⟩) hlast
    have hmono := breaksUpTo_mono t hle
    rwa [hqstart, breaksUpTo_lineStart hl, ← line_eq_breaksUpTo hk] at hmono

/-- A head in the argument list of an earlier head, and one behind an opening parenthesis that is
never closed. -/
theorem scan_beginsHead_of_open_list :
    let t : Text := "g(\nf(X) :- b.\nd(\nf :- c.".toList
    let u : Uri := ⟨"untitled", none, "a", none, none⟩
    t.BeginsHead 1 "f".toList ∧ t.IsHidden 1 ∧ t.BeginsHead 3 "f".toList ∧ ¬t.IsHidden 3 ∧
      (∃ d, 3 ≤ d ∧ (scan t u).lookup? "f" = some ⟨"f", d.toUInt32, u⟩ ∧
        ∃ s : HeadSpan, s.StandsIn t ∧ s.start = t.lineStart d ∧ s.name = "f".toList) ∧
      (scan t u).lookup? "f" = some ⟨"f", 3, u⟩ := by
  intro t u
  have hname : IsName ['f'] := @IsName.mk 'f' [] [] rfl (by simp) (by simp)
  have hone : t.BeginsHead 1 "f".toList :=
    ⟨⟨"f(X) :- b.".toList, ['\n']⟩, ⟨[], ['f'], [], "(X)".toList, [' '], by simp, hname, by simp,
      @IsArgumentList.present ['X'] (by decide), by simp [isBlank]⟩, by decide +kernel,
      ⟨" b.".toList, rfl⟩, rfl⟩
  have hthree : t.BeginsHead 3 "f".toList :=
    ⟨⟨"f :- c.".toList, []⟩, ⟨[], ['f'], [], [], [' '], by simp, hname, by simp, .absent,
      by simp [isBlank]⟩, by decide +kernel, ⟨" c.".toList, rfl⟩, rfl⟩
  obtain ⟨hiff, hfound⟩ := scan_beginsHead t u hthree
  have hshown : ¬t.IsHidden 3 := hiff.1 (by decide +kernel)
  have hhidden : t.IsHidden 1 := by
    by_contra hshown
    exact absurd ((scan_beginsHead t u hone).1.2 hshown) (by decide +kernel)
  obtain ⟨d, hlookup, -, hlast, -, hstands⟩ := hfound hshown
  exact ⟨hone, hhidden, hthree, hshown, ⟨d, hlast 3 hthree hshown, hlookup, hstands⟩,
    by decide +kernel⟩

/-- A line can begin a whole head, and the text still have no atom of its name: behind an opening
parenthesis the head is taken for the argument list of an earlier one. -/
theorem no_atom_of_hidden_head :
    let t : Text := "a(\nf(X) :- b.".toList
    let u : Uri := ⟨"untitled", none, "a", none, none⟩
    t.BeginsHead 1 "f".toList ∧ (scan t u).lookup? "f" = none := by
  intro t u
  have hname : IsName ['f'] := @IsName.mk 'f' [] [] rfl (by simp) (by simp)
  exact ⟨⟨⟨"f(X) :- b.".toList, []⟩, ⟨[], ['f'], [], "(X)".toList, [' '], by simp, hname, by simp,
    @IsArgumentList.present ['X'] (by decide), by simp [isBlank]⟩, by decide +kernel,
    ⟨" b.".toList, rfl⟩, rfl⟩, by decide +kernel⟩

end SymbolTable
end LmntalServer
