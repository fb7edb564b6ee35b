import LmntalServer.Proofs.Completion.Occurrences
import LmntalServer.Proofs.Symbol.Leftmost

/-!
# The segments of indexed names

The names of heads and the tokens of a text are found by different patterns.  A name is one or more
segments with points between them, and a token is a run of name characters.  In front of a segment
stands the start of the text, a line break, a blank or a point, and none of these is a word
character; behind it stands a point or what follows the name in its head, and that is never a name
character.  So every segment is a whole run, and a token unless it begins with a digit.

Main results:

* `IsName.exists_splitOn`: the segments of a name are what stands between its points.
* `Text.exists_of_mem_segments`: a segment, and what stands on both sides of it in its name.
* `Text.isTokenOccurrence_of_append`: a token between characters that cannot belong to it.
* `Text.exists_isTokenOccurrence`: a segment of the name of a head is a token.
* `SymbolTable.segments_mem_candidates`: the segments of indexed names are offered.
-/

namespace LmntalServer

/-! ## Characters -/

theorem isDigit_eq_false_of_isNameStart {c : Char} (h : isNameStart c = true) :
    c.isDigit = false := by
  rcases Bool.or_eq_true_iff.1 h with hlower | hunderscore
  · refine Text.isDigit_eq_false_of_isAlpha ?_
    change (c.isUpper || c.isLower) = true
    rw [hlower, Bool.or_true]
  · rw [of_decide_eq_true hunderscore]
    rfl

/-- A break or a blank is no word character. -/
theorem isWordChar_eq_false_of_isBreak {c : Char} (h : isBreak c = true) :
    isWordChar c = false := by
  rcases (by simpa [isBreak] using h : c = '\n' ∨ c = '\r') with rfl | rfl
  · decide
  · decide

/-- Blanks are no word characters, so a token may stand directly behind them. -/
theorem isWordChar_eq_false_of_isBlank {c : Char} (h : isBlank c = true) :
    isWordChar c = false := by
  rcases eq_of_isBlank h with rfl | rfl
  · decide
  · decide

/-- Segments are cut at points, so they hold none. -/
theorem IsSegment.point_not_mem {s : Text} (h : IsSegment s) : '.' ∉ s := fun hmem => by
  have hpoint := h.2 '.' hmem
  revert hpoint
  decide

namespace Text

/-! ## Segments of a name -/

/-- The pieces between the points are the segments. -/
theorem splitOn_segments {first : Text} {segments : List Text} (hfirst : '.' ∉ first)
    (hsegments : ∀ s ∈ segments, '.' ∉ s) :
    (first ++ segments.flatMap ('.' :: ·)).splitOn '.' = first :: segments := by
  have hwhole {s : Text} (hs : '.' ∉ s) : s.splitOn '.' = [s] := by
    rw [List.splitOn_eq_splitOnP, List.splitOnP_eq_singleton]
    intro c hc
    exact beq_eq_false_iff_ne.2 fun heq => hs (heq ▸ hc)
  induction segments generalizing first with
  | nil => rw [List.flatMap_nil, List.append_nil, hwhole hfirst]
  | cons s segments ih =>
      have hrest := ih (hsegments s List.mem_cons_self)
        fun r hr => hsegments r (List.mem_cons_of_mem _ hr)
      rw [List.flatMap_cons, List.cons_append, List.splitOn_eq_splitOnP,
        List.splitOnP_append_cons _ _ (by rfl), ← List.splitOn_eq_splitOnP,
        ← List.splitOn_eq_splitOnP, hwhole hfirst, hrest, List.singleton_append]

/-- A segment of a name has nothing in front of it or a point, and nothing behind it or a point. -/
theorem exists_of_mem_segments {first s : Text} {segments : List Text}
    (hs : s ∈ first :: segments) :
    ∃ a b, first ++ segments.flatMap ('.' :: ·) = a ++ (s ++ b) ∧
      (a = [] ∨ a.getLast? = some '.') ∧ (b = [] ∨ b.head? = some '.') := by
  have hback (rest : List Text) :
      rest.flatMap ('.' :: ·) = [] ∨ (rest.flatMap ('.' :: ·)).head? = some '.' := by
    cases rest with
    | nil => exact Or.inl rfl
    | cons r rest => exact Or.inr rfl
  rcases List.mem_cons.1 hs with rfl | hs
  · exact ⟨[], _, rfl, Or.inl rfl, hback segments⟩
  · obtain ⟨front, rest, rfl⟩ := List.append_of_mem hs
    refine ⟨first ++ front.flatMap ('.' :: ·) ++ ['.'], rest.flatMap ('.' :: ·), ?_,
      Or.inr List.getLast?_concat, hback rest⟩
    simp

end Text

/-- A name is made of its segments: the first one begins like the name, and no other is empty. -/
theorem IsName.exists_splitOn {n : Text} (h : IsName n) :
    ∃ c first segments, isNameStart c = true ∧ IsSegment (c :: first) ∧
      (∀ s ∈ segments, IsSegment s) ∧
      n = c :: first ++ segments.flatMap ('.' :: ·) ∧
      n.splitOn '.' = (c :: first) :: segments := by
  cases h with
  | @mk c first segments hc hfirst hsegments =>
      have hsegment : IsSegment (c :: first) := by
        refine ⟨List.cons_ne_nil _ _, fun d hd => ?_⟩
        rcases List.mem_cons.1 hd with rfl | hd
        · exact isNameChar_of_isNameStart hc
        · exact hfirst d hd
      refine ⟨c, first, segments, hc, hsegment, hsegments, rfl, ?_⟩
      exact Text.splitOn_segments hsegment.point_not_mem
        fun s hs => (hsegments s hs).point_not_mem

namespace Text

/-! ## Tokens -/

/-- Name characters of which the first is no digit are a token, if no word character stands before
them and no name character behind them. -/
theorem isTokenOccurrence_of_append {pre s post : Text} (hs : IsSegment s)
    (hdigit : ∀ c, s.head? = some c → c.isDigit = false)
    (hpre : ∀ c, pre.getLast? = some c → isWordChar c = false)
    (hpost : ∀ c, post.head? = some c → isNameChar c = false) :
    IsTokenOccurrence (pre ++ (s ++ post)) ⟨pre.getLast?, pre.length, s⟩ := by
  obtain ⟨hne, hchars⟩ := hs
  have hbefore : pre.getLast?.all (!isWordChar ·) = true := by
    cases hlast : pre.getLast? with
    | none => rfl
    | some c => simp [hpre c hlast]
  have hbehind : post.head?.all (!isNameChar ·) = true := by
    cases hhead : post.head? with
    | none => rfl
    | some c => simp [hpost c hhead]
  refine ⟨⟨hne, List.all_eq_true.2 hchars, pre, post, ?_, rfl, rfl, all_not_isNameChar hbefore,
    hbehind⟩, hdigit, hpre⟩
  rw [List.append_assoc]

/-- In front of a head stands no word character, nor behind its blanks. -/
theorem isWordChar_eq_false_of_getLast? {pre indent rest : Text}
    (hstart : startsLine pre.getLast? rest = true) (hindent : ∀ c ∈ indent, isBlank c = true)
    {c : Char} (hc : (pre ++ indent).getLast? = some c) : isWordChar c = false := by
  rcases List.eq_nil_or_concat' indent with rfl | ⟨indent, d, rfl⟩
  · rw [List.append_nil] at hc
    rw [hc] at hstart
    exact isWordChar_eq_false_of_isBreak (isBreak_of_startsLine hstart)
  · rw [← List.append_assoc, List.getLast?_concat] at hc
    cases hc
    exact isWordChar_eq_false_of_isBlank
      (hindent c (List.mem_append_right _ List.mem_cons_self))

/-- A segment of the name of a head is a token, which stands in the name, unless it begins with a
digit. -/
theorem exists_isTokenOccurrence {t s : Text} {h : Head} (hh : h ∈ heads t)
    (hs : s ∈ h.name.splitOn '.') (hdigit : ∀ c, s.head? = some c → c.isDigit = false) :
    ∃ r, IsTokenOccurrence t r ∧ r.text = s ∧ h.start + h.indent ≤ r.start ∧
      r.stop ≤ h.start + h.indent + h.name.length := by
  obtain ⟨w, pre, rest, ht, hstart, hshape, hpre, -⟩ := exists_of_mem_heads hh
  have hname : h.name = w.name := (congrArg HeadShape.name hshape).symm
  have hindent : h.indent = w.indent.length := (congrArg HeadShape.indent hshape).symm
  obtain ⟨c, first, segments, hc, hfirst, hsegments, hw, hsplit⟩ := w.isName.exists_splitOn
  rw [hname, hsplit] at hs
  have hsegment : IsSegment s := by
    rcases List.mem_cons.1 hs with rfl | hs
    · exact hfirst
    · exact hsegments s hs
  obtain ⟨a, b, hab, hfront, hback⟩ := exists_of_mem_segments hs
  have hwab : w.name = a ++ (s ++ b) := hw.trans hab
  have htext : t = pre ++ w.indent ++ a ++ (s ++ (b ++ (w.afterName ++ rest))) := by
    rw [ht, WrittenHead.chars, hwab]
    simp only [List.append_assoc]
  have hbefore : ∀ d, (pre ++ w.indent ++ a).getLast? = some d → isWordChar d = false := by
    intro d hd
    rcases hfront with rfl | hpoint
    · rw [List.append_nil] at hd
      exact isWordChar_eq_false_of_getLast? hstart w.indent_blank hd
    · rw [List.getLast?_append, hpoint] at hd
      cases hd
      decide
  have hbehind : ∀ d, (b ++ (w.afterName ++ rest)).head? = some d → isNameChar d = false := by
    intro d hd
    rcases hback with rfl | hpoint
    · obtain ⟨e, u, hafter, he⟩ := w.exists_afterName_eq_cons
      rw [List.nil_append, hafter] at hd
      cases hd
      rcases he with he | rfl | rfl
      · exact isNameChar_eq_false_of_isBlank he
      · rfl
      · rfl
    · rw [List.head?_append, hpoint] at hd
      cases hd
      rfl
  refine ⟨_, htext ▸ isTokenOccurrence_of_append hsegment hdigit hbefore hbehind, rfl, ?_, ?_⟩
  · simp only [List.length_append]
    omega
  · have hlength := congrArg List.length hwab
    rw [hname]
    simp only [Run.stop, List.length_append] at hlength ⊢
    omega

/-- A token that stands in a text is offered. -/
theorem mem_candidates_of_isTokenOccurrence {t : Text} {r : Run} (h : IsTokenOccurrence t r) :
    String.ofList r.text ∈ candidates t :=
  mem_candidates_iff.2 (List.mem_map.2 ⟨r, mem_filter_isToken_iff.2 h, rfl⟩)

end Text

namespace SymbolTable

/-- Every segment of an indexed name is offered for completion, as it is, unless it begins with a
digit; in each head with this name it stands as a token of its own.  The first segment of a name
never begins with a digit. -/
theorem segments_mem_candidates {t : Text} {u : Uri} {name : String}
    (hname : name ∈ (scan t u).names) :
    (∀ s ∈ name.toList.splitOn '.', (∀ c, s.head? = some c → c.isDigit = false) →
      String.ofList s ∈ t.candidates ∧
      ∀ h ∈ t.heads, String.ofList h.name = name →
        ∃ r, Text.IsTokenOccurrence t r ∧ r.text = s ∧ h.start + h.indent ≤ r.start ∧
          r.stop ≤ h.start + h.indent + h.name.length) ∧
    ∃ first, (name.toList.splitOn '.').head? = some first ∧
      String.ofList first ∈ t.candidates := by
  obtain ⟨h, hh, rfl⟩ := List.mem_map.1 (mem_names_scan.1 hname)
  have hoffered : ∀ s ∈ h.name.splitOn '.', (∀ c, s.head? = some c → c.isDigit = false) →
      String.ofList s ∈ t.candidates := by
    intro s hs hdigit
    obtain ⟨r, hr, rfl, -⟩ := Text.exists_isTokenOccurrence hh hs hdigit
    exact Text.mem_candidates_of_isTokenOccurrence hr
  rw [String.toList_ofList]
  refine ⟨fun s hs hdigit => ⟨hoffered s hs hdigit, fun k hk hkname => ?_⟩, ?_⟩
  · rw [String.ofList_inj] at hkname
    exact Text.exists_isTokenOccurrence hk (hkname ▸ hs) hdigit
  · obtain ⟨w, -, -, -, -, hshape, -⟩ := Text.exists_of_mem_heads hh
    have hwname : h.name = w.name := (congrArg HeadShape.name hshape).symm
    obtain ⟨c, first, segments, hc, -, -, -, hsplit⟩ := w.isName.exists_splitOn
    rw [← hwname] at hsplit
    refine ⟨c :: first, by rw [hsplit]; rfl, hoffered _ ?_ fun d hd => ?_⟩
    · rw [hsplit]
      exact List.mem_cons_self
    · cases hd
      exact isDigit_eq_false_of_isNameStart hc

/-- A name of three segments behind a lone carriage return, with a gap and an argument list on two
lines behind it; the segment that begins with a digit is not offered. -/
theorem segments_mem_candidates_of_three_segments :
    let t : Text := "x\r\tf.2a.g_1 (X,\nY) :- b.".toList
    let u : Uri := ⟨"untitled", none, "a", none, none⟩
    "f.2a.g_1" ∈ (scan t u).names ∧ "f.2a.g_1".toList.splitOn '.' =
        ["f".toList, "2a".toList, "g_1".toList] ∧
      "g_1" ∈ t.candidates ∧ "f" ∈ t.candidates ∧ "2a" ∉ t.candidates ∧ "a" ∉ t.candidates := by
  intro t u
  have hname : "f.2a.g_1" ∈ (scan t u).names := by decide +kernel
  have hsplit : "f.2a.g_1".toList.splitOn '.' = ["f".toList, "2a".toList, "g_1".toList] := by
    decide +kernel
  obtain ⟨hsegments, first, hhead, hfirst⟩ := segments_mem_candidates hname
  rw [hsplit] at hsegments hhead
  obtain ⟨hlast, -⟩ := hsegments "g_1".toList (by simp) fun c hc => by
    cases hc
    rfl
  obtain rfl : "f".toList = first := Option.some.inj hhead
  rw [String.ofList_toList] at hlast hfirst
  exact ⟨hname, hsplit, hlast, hfirst, by decide +kernel, by decide +kernel⟩

end SymbolTable
end LmntalServer
