import LmntalServer.Completion
import LmntalServer.Proofs.Text.Runs

/-!
# Where tokens stand

Tokens are found by a search for a pattern: a word boundary, a letter or an underscore, and all
name characters that follow.  The search goes from left to right and takes up behind each match.
Although the boundary is one of Unicode words and the characters are those of ASCII, a match is
always a whole run of name characters: inside a run there is no boundary, so that a run which
begins with a digit, or is glued to a word character before it, has no match at all.

Main definitions:

* `Text.IsTokenMatch`: a match of the pattern of tokens.
* `LeftmostMatches`: the matches that a search takes.
* `Text.IsTokenOccurrence`: a token at its place in a text.

Main results:

* `Text.isTokenMatch_iff`: the matches of the pattern are the occurrences of tokens.
* `Text.leftmostMatches_of_pairwise`: a search takes all matches if no two of them meet.
* `Text.eraseDups_map`: without repetitions, an ordered list keeps its first occurrences.
* `Text.candidates_occurrences`: the candidates are the tokens, each at its first occurrence.
-/

namespace LmntalServer

/-- The characters with which a token begins: ASCII letters and the underscore. -/
def isTokenStart (c : Char) : Bool :=
  c.isAlpha || c = '_'

/-- A word boundary between two characters, either of which may be absent: exactly one of them is a
word character. -/
def IsBoundary (before after : Option Char) : Prop :=
  before.any isWordChar ≠ after.any isWordChar

/-- The matches of a pattern that a search takes from an index on: the first one that does not start
before this index, and the leftmost matches from the end of it on. -/
inductive LeftmostMatches (IsMatch : Run → Prop) : Nat → List Run → Prop
  | nil {bound : Nat} (hnone : ∀ r, IsMatch r → r.start < bound) : LeftmostMatches IsMatch bound []
  | cons {bound : Nat} {r : Run} {rs : List Run} (hr : IsMatch r) (hfrom : bound ≤ r.start)
      (hfirst : ∀ q, IsMatch q → bound ≤ q.start → r.start ≤ q.start)
      (hrs : LeftmostMatches IsMatch r.stop rs) : LeftmostMatches IsMatch bound (r :: rs)

namespace Text

/-- A match of the pattern of tokens: at a word boundary a letter or an underscore, and all name
characters behind it. -/
def IsTokenMatch (t : Text) (r : Run) : Prop :=
  ∃ pre post c s, t = pre ++ (r.text ++ post) ∧ r.start = pre.length ∧
    r.before = pre.getLast? ∧ r.text = c :: s ∧ IsBoundary r.before (some c) ∧
    isTokenStart c = true ∧ s.all isNameChar = true ∧ post.head?.all (!isNameChar ·) = true

/-- A token at its place: a maximal run of name characters that does not begin with a digit and that
no word character precedes. -/
structure IsTokenOccurrence (t : Text) (r : Run) : Prop where
  maximal : IsMaximalRun isNameChar t r
  noDigit : ∀ c, r.text.head? = some c → c.isDigit = false
  apart : ∀ c, r.before = some c → isWordChar c = false

/-! ## Matches and runs -/

theorem toNat_le_of_isAlpha {c : Char} (h : c.isAlpha = true) : 'A'.toNat ≤ c.toNat := by
  rcases Bool.or_eq_true_iff.1 h with h | h
  · exact UInt32.le_iff_toNat_le.1 (of_decide_eq_true h).1
  · have hlower : 'a'.toNat ≤ c.toNat :=
      UInt32.le_iff_toNat_le.1 (of_decide_eq_true (Bool.and_eq_true_iff.1 h).1)
    exact Nat.le_trans (by decide) hlower

theorem isDigit_eq_false_of_isAlpha {c : Char} (h : c.isAlpha = true) : c.isDigit = false := by
  rw [Bool.eq_false_iff]
  intro hdigit
  have hnine : c.toNat ≤ '9'.toNat :=
    UInt32.le_iff_toNat_le.1 (of_decide_eq_true (Bool.and_eq_true_iff.1 hdigit).2)
  exact absurd (Nat.le_trans (toNat_le_of_isAlpha h) hnine) (by decide)

/-- Tokens begin with the name characters that are no digits. -/
theorem isTokenStart_iff {c : Char} :
    isTokenStart c = true ↔ isNameChar c = true ∧ c.isDigit = false := by
  simp only [isTokenStart, isNameChar, Char.isAlphanum, Bool.or_eq_true, decide_eq_true_eq]
  constructor
  · rintro (halpha | rfl)
    · exact ⟨Or.inl (Or.inl halpha), isDigit_eq_false_of_isAlpha halpha⟩
    · exact ⟨Or.inr rfl, rfl⟩
  · rintro ⟨(halpha | hdigit) | hunderscore, hnot⟩
    · exact Or.inl halpha
    · rw [hdigit] at hnot
      cases hnot
    · exact Or.inr hunderscore

/-- In front of a word character there is a boundary unless another one precedes it. -/
theorem isBoundary_iff {before : Option Char} {c : Char} (hc : isWordChar c = true) :
    IsBoundary before (some c) ↔ before.all (!isWordChar ·) = true := by
  cases before with
  | none => simp [IsBoundary, hc]
  | some b => simp [IsBoundary, hc]

/-- What no word character precedes, no name character precedes. -/
theorem all_not_isNameChar {before : Option Char} (h : before.all (!isWordChar ·) = true) :
    before.all (!isNameChar ·) = true := by
  cases before with
  | none => rfl
  | some b =>
      cases hb : isNameChar b with
      | false => simp [hb]
      | true => simp [isWordChar_of_isNameChar hb] at h

variable {t : Text} {r : Run}

/-- A match of the pattern is a whole run: in front of it there is no name character, since no word
character precedes it. -/
theorem isTokenMatch_iff : IsTokenMatch t r ↔ IsTokenOccurrence t r := by
  constructor
  · rintro ⟨pre, post, c, s, ht, hstart, hbefore, htext, hboundary, hc, hs, hpost⟩
    obtain ⟨hname, hdigit⟩ := isTokenStart_iff.1 hc
    have hapart := (isBoundary_iff (isWordChar_of_isNameChar hname)).1 hboundary
    refine ⟨⟨?_, ?_, pre, post, ?_, hstart, hbefore, all_not_isNameChar hapart, hpost⟩, ?_, ?_⟩
    · rw [htext]
      exact List.cons_ne_nil c s
    · rw [htext, List.all_cons, hname, hs]
      rfl
    · rw [ht, List.append_assoc]
    · intro d hd
      rw [htext] at hd
      cases hd
      exact hdigit
    · intro d hd
      rw [hd] at hapart
      simpa using hapart
  · rintro ⟨⟨hne, hall, pre, post, ht, hstart, hbefore, -, hpost⟩, hdigit, hapart⟩
    obtain ⟨c, s, htext⟩ := List.exists_cons_of_ne_nil hne
    rw [htext, List.all_cons, Bool.and_eq_true] at hall
    obtain ⟨hname, hs⟩ := hall
    have hboundary : IsBoundary r.before (some c) := by
      apply (isBoundary_iff (isWordChar_of_isNameChar hname)).2
      cases hr : r.before with
      | none => rfl
      | some d => simp [hapart d hr]
    have hc : isTokenStart c = true :=
      isTokenStart_iff.2 ⟨hname, hdigit c (by rw [htext]; rfl)⟩
    exact ⟨pre, post, c, s, by rw [ht, List.append_assoc], hstart, hbefore, htext, hboundary, hc,
      hs, hpost⟩

/-- The runs that are tokens. -/
theorem mem_filter_isToken_iff :
    r ∈ (runs isNameChar t).filter Run.isToken ↔ IsTokenOccurrence t r := by
  rw [List.mem_filter, mem_runs_iff, Run.isToken, Bool.and_eq_true]
  constructor
  · rintro ⟨hr, hhead, hbefore⟩
    refine ⟨hr, fun c hc => ?_, fun c hc => ?_⟩
    · rw [hc] at hhead
      simpa using hhead
    · rw [hc] at hbefore
      simpa using hbefore
  · rintro ⟨hr, hdigit, hapart⟩
    refine ⟨hr, ?_, ?_⟩
    · cases hhead : r.text.head? with
      | none => rfl
      | some c => simp [hdigit c hhead]
    · cases hbefore : r.before with
      | none => rfl
      | some c => simp [hapart c hbefore]

/-! ## Searching -/

/-- If no two matches meet, a search takes all of them. -/
theorem leftmostMatches_of_pairwise {IsMatch : Run → Prop} {bound : Nat} {rs : List Run}
    (hrs : rs.Pairwise fun r s => r.stop < s.start)
    (hmatch : ∀ r ∈ rs, IsMatch r ∧ r.start < r.stop ∧ bound ≤ r.start)
    (hall : ∀ r, IsMatch r → bound ≤ r.start → r ∈ rs) : LeftmostMatches IsMatch bound rs := by
  induction rs generalizing bound with
  | nil =>
      refine .nil fun r hr => ?_
      by_contra hle
      cases hall r hr (Nat.le_of_not_lt hle)
  | cons r rs ih =>
      obtain ⟨hr, hlt, hfrom⟩ := hmatch r List.mem_cons_self
      have hbehind : ∀ q ∈ rs, r.stop < q.start := fun q hq => List.rel_of_pairwise_cons hrs hq
      refine .cons hr hfrom (fun q hq hle => ?_)
        (ih hrs.of_cons (fun q hq => ?_) fun q hq hle => ?_)
      · rcases List.mem_cons.1 (hall q hq hle) with rfl | hmem
        · exact Nat.le_refl _
        · have := hbehind q hmem
          omega
      · obtain ⟨hq', hqlt, -⟩ := hmatch q (List.mem_cons_of_mem _ hq)
        exact ⟨hq', hqlt, Nat.le_of_lt (hbehind q hq)⟩
      · rcases List.mem_cons.1 (hall q hq (by omega)) with rfl | hmem
        · omega
        · exact hmem

/-! ## First occurrences -/

/-- A run of a list is the first one with its text. -/
def IsFirstOf (rs : List Run) (r : Run) : Prop :=
  ∀ q ∈ rs, q.text = r.text → r.start ≤ q.start

instance (rs : List Run) (r : Run) : Decidable (IsFirstOf rs r) :=
  inferInstanceAs (Decidable (∀ q ∈ rs, q.text = r.text → r.start ≤ q.start))

/-- Behind the first run of an ordered list, the first ones of their texts are those among the runs
with other texts. -/
theorem isFirstOf_cons_iff {rs : List Run} (h : ∀ q ∈ rs, r.start < q.start) {q : Run}
    (hq : q ∈ rs) :
    IsFirstOf (r :: rs) q ↔ q.text ≠ r.text ∧ IsFirstOf (rs.filter (·.text ≠ r.text)) q := by
  constructor
  · intro hfirst
    have hne : q.text ≠ r.text := fun htext => by
      have hle := hfirst r List.mem_cons_self htext.symm
      have hlt := h q hq
      omega
    exact ⟨hne, fun s hs htext =>
      hfirst s (List.mem_cons_of_mem _ (List.mem_filter.1 hs).1) htext⟩
  · rintro ⟨hne, hfirst⟩ s hs htext
    rcases List.mem_cons.1 hs with rfl | hs
    · exact absurd htext.symm hne
    · refine hfirst s (List.mem_filter.2 ⟨hs, ?_⟩) htext
      rw [htext]
      exact decide_eq_true hne

/-- The texts of an ordered list of runs without repetitions are those of the first runs with their
texts. -/
theorem eraseDups_map {rs : List Run} (h : rs.Pairwise fun r s => r.start < s.start) :
    (rs.map (String.ofList ·.text)).eraseDups =
      (rs.filter fun r => IsFirstOf rs r).map (String.ofList ·.text) := by
  induction hn : rs.length using Nat.strongRecOn generalizing rs with
  | _ n ih =>
      cases rs with
      | nil => rfl
      | cons r rs =>
          rw [List.length_cons] at hn
          have hlater : ∀ q ∈ rs, r.start < q.start := fun q hq => List.rel_of_pairwise_cons h hq
          have hself : IsFirstOf (r :: rs) r := by
            intro q hq _
            rcases List.mem_cons.1 hq with rfl | hq
            · exact Nat.le_refl _
            · exact Nat.le_of_lt (hlater q hq)
          have hothers :
              (rs.map (String.ofList ·.text)).filter (fun s => !s == String.ofList r.text) =
              (rs.filter (·.text ≠ r.text)).map (String.ofList ·.text) := by
            rw [List.filter_map]
            congr 1
            refine List.filter_congr fun q _ => ?_
            rw [Bool.eq_iff_iff]
            simp [String.ofList_inj]
          have hfirsts : rs.filter (fun q => IsFirstOf (r :: rs) q) =
              (rs.filter (·.text ≠ r.text)).filter
                fun q => IsFirstOf (rs.filter (·.text ≠ r.text)) q := by
            rw [List.filter_filter]
            refine List.filter_congr fun q hq => ?_
            rw [Bool.eq_iff_iff, decide_eq_true_eq, isFirstOf_cons_iff hlater hq]
            simp [and_comm]
          have hle := List.length_filter_le (fun q : Run => q.text ≠ r.text) rs
          rw [List.map_cons, List.eraseDups_cons, hothers, ih _ (by omega) (h.of_cons.filter _) rfl,
            List.filter_cons_of_pos (by simpa using hself), List.map_cons, hfirsts]

/-! ## Candidates -/

/-- The candidates of a text are its tokens from left to right, each where it occurs first.  The
occurrences of tokens are just the matches that a search for their pattern takes; so no candidate
is offered twice, and what is offered are the texts of the occurrences of tokens. -/
theorem candidates_occurrences (t : Text) :
    ∃ rs : List Run, LeftmostMatches (IsTokenMatch t) 0 rs ∧
      (∀ r, r ∈ rs ↔ IsTokenOccurrence t r) ∧
      rs.Pairwise (fun r s => r.stop < s.start) ∧
      candidates t = (rs.filter fun r => IsFirstOf rs r).map (String.ofList ·.text) ∧
      (candidates t).Nodup ∧
      ∀ s, s ∈ candidates t ↔ ∃ r, IsTokenOccurrence t r ∧ String.ofList r.text = s := by
  have hpairwise : ((runs isNameChar t).filter Run.isToken).Pairwise
      fun r s => r.stop < s.start := (pairwise_runs isNameChar t).filter _
  refine ⟨(runs isNameChar t).filter Run.isToken, ?_, fun _ => mem_filter_isToken_iff, hpairwise,
    ?_, nodup_candidates t, fun s => ?_⟩
  · refine leftmostMatches_of_pairwise hpairwise (fun r hr => ?_) fun r hr _ =>
      mem_filter_isToken_iff.2 (isTokenMatch_iff.1 hr)
    have hoccurrence := mem_filter_isToken_iff.1 hr
    have hpos := List.length_pos_iff.2 hoccurrence.maximal.ne_nil
    exact ⟨isTokenMatch_iff.2 hoccurrence, Nat.lt_add_of_pos_right hpos, Nat.zero_le _⟩
  · refine eraseDups_map (hpairwise.imp fun {r s} hlt => ?_)
    have hle : r.start ≤ r.stop := Nat.le_add_right _ _
    omega
  · rw [mem_candidates_iff, tokens, List.mem_map]
    simp only [mem_filter_isToken_iff]

/-- A repetition, a run that begins with a digit, and runs behind a letter, a mark and a digit that
are not of ASCII. -/
example : candidates "b_1, X b_1 2ab éc \u0301d ٣e f.X".toList = ["b_1", "X", "f"] := by
  decide +kernel

end Text
end LmntalServer
