import LmntalServer.Proofs.Text.LineBreaks
import LmntalServer.Proofs.Text.Offset
import LmntalServer.Proofs.Text.Runs
import LmntalServer.Word

/-!
# The word that touches a position

A position on a line counts the characters that begin before its column.  The word at the position
is found by a search among all words of the line, where a word counts also if the position is
directly behind its last character.  Since two words never meet, the first word found is the only
one; and there is one unless the characters on both sides of the position, as far as they exist,
can not stand in words.

The columns and the sums are words of 32 bits.  They are exact on every line whose code units words
can count, and wrap on longer ones: there the search for the greatest column can miss the column.

Main definitions:

* `Text.charsBefore`: the characters of a line that begin before a column.
* `Text.IsTouchedBy`: a position in a line stands next to a character of words.
* `Text.overlongLine`: a line that words cannot measure.

Main results:

* `Text.indexOfColumnFrom_append_of_lt`: the characters that begin before a column are passed.
* `Text.indexOfColumn_eq_charsBefore`: the sum of code units taken on the way does not matter.
* `Text.rangeOfRun_eq`: the columns of a run.
* `Text.wordAt_eq_some_iff`: the word at a position is the maximal run that touches it.
* `Text.wordAt_touching`: when there is a word, which one it is, and that it is the only one.
* `Text.wordAt_of_overlongLine`: a word that is found without being touched, on a line that words
  cannot measure.
-/

namespace LmntalServer
namespace Text

/-- The number of characters of a line that begin before a column. -/
def charsBefore (content : Text) (column : Nat) : Nat :=
  (List.range content.length).countP fun i => units (content.take i) < column

/-! ## Sums of code units -/

/-- Words hold the code units of a character. -/
@[simp]
theorem toNat_charUnits32 (c : Char) : (charUnits32 c).toNat = charUnits c := by
  have h := charUnits_le_two c
  exact UInt32.toNat_ofNat_of_lt' (Nat.lt_of_le_of_lt h (by decide))

/-- A sum that a word can hold does not wrap. -/
theorem toNat_add_of_lt {u v : UInt32} (h : u.toNat + v.toNat < UInt32.size) :
    (u + v).toNat = u.toNat + v.toNat := by
  rw [UInt32.toNat_add]
  exact Nat.mod_eq_of_lt h

/-- One more character does not wrap a sum that a word can hold. -/
theorem toNat_add_charUnits32 {u : UInt32} {c : Char} (h : u.toNat + charUnits c < UInt32.size) :
    (u + charUnits32 c).toNat = u.toNat + charUnits c := by
  rw [toNat_add_of_lt, toNat_charUnits32]
  rwa [toNat_charUnits32]

/-! ## The search for a column -/

section Search

variable {content : Text} {column u : UInt32} {k : Nat}

/-- A search whose sum has reached the column passes no character. -/
theorem indexOfColumnFrom_of_le (h : column ≤ u) (t : Text) :
    indexOfColumnFrom column u t = 0 := by
  cases t with
  | nil => rfl
  | cons c t => exact if_pos h

/-- The characters that begin before a column are passed, and the search goes on behind them with
the sum of their code units, which may have wrapped at the last of them. -/
theorem indexOfColumnFrom_append_of_lt {a : Text}
    (ha : ∀ i < a.length, u.toNat + units (a.take i) < column.toNat) (b : Text) :
    indexOfColumnFrom column u (a ++ b) =
      a.length + indexOfColumnFrom column (u + units32 a) b := by
  induction a generalizing u with
  | nil => simp [units32]
  | cons c a ih =>
      have hlt : u.toNat < column.toNat := ha 0 (Nat.zero_lt_succ _)
      have hle : ¬column ≤ u := by
        rw [UInt32.le_iff_toNat_le]
        omega
      have hnext : ∀ i < a.length,
          (u + charUnits32 c).toNat + units (a.take i) < column.toNat := by
        intro i hi
        have hbefore := ha (i + 1) (Nat.succ_lt_succ hi)
        have hcolumn : column.toNat < UInt32.size := column.toNat_lt
        rw [List.take_succ_cons, units_cons] at hbefore
        rw [toNat_add_charUnits32 (by omega)]
        omega
      have hsum : u + charUnits32 c + units32 a = u + units32 (c :: a) := by
        rw [UInt32.add_assoc, units32, units32, charUnits32, units_cons]
        simp only [Nat.toUInt32, UInt32.ofNat_add]
      rw [List.cons_append, indexOfColumnFrom, if_neg hle, ih hnext, hsum, List.length_cons]
      omega

/-- The search for a column passes the characters before an index, if the last of them begins
before the column. -/
theorem indexOfColumn_eq_add (hk : k ≤ content.length)
    (h : ∀ i < k, units (content.take i) < column.toNat) :
    indexOfColumn content column =
      k + indexOfColumnFrom column (units32 (content.take k)) (content.drop k) := by
  have hlength : (content.take k).length = k := by
    rw [List.length_take, Nat.min_eq_left hk]
  have hpassed : ∀ i < (content.take k).length,
      (0 : UInt32).toNat + units ((content.take k).take i) < column.toNat := by
    intro i hi
    rw [hlength] at hi
    rw [List.take_take, Nat.min_eq_left (Nat.le_of_lt hi)]
    simpa using h i hi
  have hsearch := indexOfColumnFrom_append_of_lt hpassed (content.drop k)
  rwa [List.take_append_drop, hlength, UInt32.zero_add] at hsearch

/-- The sum of code units does not wrap before it has passed the column: as long as the column is
behind the start of a character, words can count the end of the character, too. -/
theorem indexOfColumnFrom_eq {t : Text}
    (h : column.toNat + 1 < UInt32.size ∨ u.toNat + units t < UInt32.size) :
    indexOfColumnFrom column u t =
      (List.range t.length).countP fun i => u.toNat + units (t.take i) < column.toNat := by
  induction t generalizing u with
  | nil => rfl
  | cons c t ih =>
      rw [indexOfColumnFrom, List.length_cons, List.range_succ_eq_map, List.countP_cons,
        List.countP_map, List.take_zero, units_nil, Nat.add_zero]
      by_cases hle : column ≤ u
      · have hnat : column.toNat ≤ u.toNat := UInt32.le_iff_toNat_le.1 hle
        rw [if_pos hle, if_neg (by simpa using hnat), Nat.add_zero]
        refine (List.countP_eq_zero.2 fun i _ => ?_).symm
        simp only [Function.comp_apply, decide_eq_true_eq]
        omega
      · have hlt : u.toNat < column.toNat := by
          rw [UInt32.le_iff_toNat_le] at hle
          omega
        have htwo := charUnits_le_two c
        have hsize : UInt32.size = 4294967296 := rfl
        rw [units_cons] at h
        have hnext : (u + charUnits32 c).toNat = u.toNat + charUnits c :=
          toNat_add_charUnits32 (by omega)
        rw [if_neg hle, ih (by omega), hnext, if_pos (by simpa using hlt)]
        congr 1
        refine List.countP_congr fun i _ => ?_
        rw [Function.comp_apply, List.take_succ_cons, units_cons, Nat.add_assoc]

/-- A column that is the greatest word can be passed by a sum that wraps, on a line of that
length only. -/
theorem indexOfColumn_eq_charsBefore
    (h : column.toNat + 1 < UInt32.size ∨ units content < UInt32.size) :
    indexOfColumn content column = charsBefore content column.toNat := by
  rw [indexOfColumn, indexOfColumnFrom_eq (by simpa using h)]
  simp [charsBefore]

/-- As many characters begin before a column as stand before the first one that does not. -/
theorem charsBefore_eq {column : Nat} (hk : k ≤ content.length)
    (hlow : ∀ i < k, units (content.take i) < column)
    (hhigh : column ≤ units (content.take k)) : charsBefore content column = k := by
  obtain ⟨n, hn⟩ := Nat.exists_eq_add_of_le hk
  have hfront : (List.range k).countP (fun i => units (content.take i) < column) = k := by
    rw [List.countP_eq_length.2, List.length_range]
    intro i hi
    exact decide_eq_true (hlow i (List.mem_range.1 hi))
  have hback : ((List.range n).map (k + ·)).countP
      (fun i => units (content.take i) < column) = 0 := by
    rw [List.countP_map, List.countP_eq_zero]
    intro i _
    have hmono := units_take_mono content (Nat.le_add_right k i)
    simp only [Function.comp_apply, decide_eq_true_eq]
    omega
  rw [charsBefore, hn, List.range_add, List.countP_append, hfront, hback, Nat.add_zero]

end Search

/-- A maximal run reaches from the column of its first character to the column behind its last. -/
theorem rangeOfRun_eq {p : Char → Bool} {line : UInt32} {content : Text} {r : Run}
    (hr : IsMaximalRun p content r) :
    rangeOfRun line content r =
      ⟨⟨line, (units (content.take r.start)).toUInt32⟩,
        ⟨line, (units (content.take r.stop)).toUInt32⟩⟩ := by
  obtain ⟨-, -, pre, post, rfl, hstart, -, -, -⟩ := hr
  have hfront : (pre ++ r.text ++ post).take r.start = pre := by
    rw [hstart, List.append_assoc, List.take_left]
  have hback : (pre ++ r.text ++ post).take r.stop = pre ++ r.text := by
    rw [Run.stop, hstart, ← List.length_append, List.take_left]
  rw [rangeOfRun, hfront, hback, units_append, units32, units32]
  simp only [Nat.toUInt32, UInt32.ofNat_add]

/-! ## The word at a position -/

/-- A character of words stands before or behind an index of a line. -/
def IsTouchedBy (content : Text) (k : Nat) : Prop :=
  ∃ c, isWordPart c = true ∧ (0 < k ∧ content[k - 1]? = some c ∨ content[k]? = some c)

/-- The word at a position is the maximal run that touches it. -/
theorem wordAt_eq_some_iff {t : Text} {p : Position} {l : Line} {w : Word}
    (hl : (lines t)[p.line.toNat]? = some l) :
    wordAt t p = some w ↔
      ∃ r, IsMaximalRun isWordPart l.content r ∧ r.start ≤ indexOfColumn l.content p.column ∧
        indexOfColumn l.content p.column ≤ r.stop ∧
        w = ⟨r.text, rangeOfRun p.line l.content r⟩ := by
  let touches : Run → Bool := fun r =>
    r.start ≤ indexOfColumn l.content p.column && indexOfColumn l.content p.column ≤ r.stop
  have htouches (r : Run) : touches r = true ↔
      r.start ≤ indexOfColumn l.content p.column ∧
        indexOfColumn l.content p.column ≤ r.stop := by
    simp [touches]
  have hword : wordAt t p = ((runs isWordPart l.content).find? touches).map
      fun r => ⟨r.text, rangeOfRun p.line l.content r⟩ := by
    simp only [wordAt, hl, Option.bind_eq_bind, Option.bind_some, Option.map_eq_bind]
    rfl
  rw [hword, Option.map_eq_some_iff]
  constructor
  · rintro ⟨r, hfound, rfl⟩
    have hr := mem_runs_iff.1 (List.mem_of_find?_eq_some hfound)
    obtain ⟨hlow, hhigh⟩ := (htouches r).1 (List.find?_some hfound)
    exact ⟨r, hr, hlow, hhigh, rfl⟩
  · rintro ⟨r, hr, hlow, hhigh, rfl⟩
    have hsome : ((runs isWordPart l.content).find? touches).isSome := by
      rw [List.find?_isSome]
      exact ⟨r, mem_runs_iff.2 hr, (htouches r).2 ⟨hlow, hhigh⟩⟩
    obtain ⟨s, hfound⟩ := Option.isSome_iff_exists.1 hsome
    have hs := mem_runs_iff.1 (List.mem_of_find?_eq_some hfound)
    have hunique : s = r :=
      eq_of_isMaximalRun hs hr ((htouches s).1 (List.find?_some hfound)) ⟨hlow, hhigh⟩
    exact ⟨r, hunique ▸ hfound, rfl⟩

/-- The word at a position is the one maximal run of word characters that touches it, with the
columns of that run; there is none only if no word character touches the position, or if its line
does not exist.  The condition on the column leaves out a single one, the greatest word, on lines
longer than words can count; and on shorter lines the columns of the range are exact. -/
theorem wordAt_touching (t : Text) (p : Position) :
    (lineCount t ≤ p.line.toNat → wordAt t p = none) ∧
    ∀ l, (lines t)[p.line.toNat]? = some l →
      p.column.toNat + 1 < UInt32.size ∨ units l.content < UInt32.size →
      (wordAt t p = none ↔ ¬IsTouchedBy l.content (charsBefore l.content p.column.toNat)) ∧
      (IsTouchedBy l.content (charsBefore l.content p.column.toNat) →
        ∃ r, (∀ s, s = r ↔ IsMaximalRun isWordPart l.content s ∧
            s.start ≤ charsBefore l.content p.column.toNat ∧
            charsBefore l.content p.column.toNat ≤ s.stop) ∧
          wordAt t p = some ⟨r.text, ⟨⟨p.line, (units (l.content.take r.start)).toUInt32⟩,
            ⟨p.line, (units (l.content.take r.stop)).toUInt32⟩⟩⟩) ∧
      (units l.content < UInt32.size → ∀ i,
        (units (l.content.take i)).toUInt32.toNat = units (l.content.take i)) := by
  refine ⟨wordAt_eq_none_of_lineCount_le, fun l hl hcolumn => ?_⟩
  have hword : ∀ w, wordAt t p = some w ↔ _ := fun w => wordAt_eq_some_iff hl
  rw [indexOfColumn_eq_charsBefore hcolumn] at hword
  have hexists : (∃ r, IsMaximalRun isWordPart l.content r ∧
      r.start ≤ charsBefore l.content p.column.toNat ∧
      charsBefore l.content p.column.toNat ≤ r.stop) ↔
        IsTouchedBy l.content (charsBefore l.content p.column.toNat) := exists_isMaximalRun_iff
  refine ⟨?_, ?_, ?_⟩
  · rw [Option.eq_none_iff_forall_ne_some, ← hexists]
    constructor
    · rintro hnone ⟨r, hr, hlow, hhigh⟩
      exact hnone _ ((hword _).2 ⟨r, hr, hlow, hhigh, rfl⟩)
    · intro hapart w hw
      obtain ⟨r, hr, hlow, hhigh, -⟩ := (hword w).1 hw
      exact hapart ⟨r, hr, hlow, hhigh⟩
  · intro htouched
    obtain ⟨r, hr, hlow, hhigh⟩ := hexists.2 htouched
    refine ⟨r, fun s => ⟨?_, fun hs => eq_of_isMaximalRun hs.1 hr hs.2 ⟨hlow, hhigh⟩⟩, ?_⟩
    · rintro rfl
      exact ⟨hr, hlow, hhigh⟩
    · rw [← rangeOfRun_eq hr]
      exact (hword _).2 ⟨r, hr, hlow, hhigh, rfl⟩
  · intro hsmall i
    have hle := units_take_le l.content i
    exact UInt32.toNat_ofNat_of_lt' (Nat.lt_of_le_of_lt hle hsmall)

/-- A column inside a surrogate pair counts the pair, so the word behind it is touched; a position
between a word's end and a semicolon touches the word, and one before a semicolon that follows
another does not. -/
theorem wordAt_touching_of_pair :
    let t : Text := "x\n😀ab.c;;d".toList
    let l : Line := ⟨"😀ab.c;;d".toList, []⟩
    (lines t)[1]? = some l ∧ units l.content < UInt32.size ∧ (7 : UInt32).toNat + 1 < UInt32.size ∧
      charsBefore l.content 1 = 1 ∧ IsTouchedBy l.content 1 ∧
      wordAt t ⟨1, 1⟩ = some ⟨"ab.c".toList, ⟨⟨1, 2⟩, ⟨1, 6⟩⟩⟩ ∧
      ¬IsTouchedBy l.content (charsBefore l.content 7) ∧ wordAt t ⟨1, 7⟩ = none ∧
      wordAt t ⟨2, 0⟩ = none := by
  intro t l
  obtain ⟨hbehind, hon⟩ := wordAt_touching t ⟨1, 1⟩
  have hl : (lines t)[1]? = some l := by decide +kernel
  have hsmall : units l.content < UInt32.size := by decide +kernel
  have hseven : charsBefore l.content 7 = 6 := by decide +kernel
  have hone : charsBefore l.content (1 : UInt32).toNat = 1 := by decide +kernel
  obtain ⟨-, hsome, -⟩ := hon l hl (Or.inr hsmall)
  rw [hone] at hsome
  have htouched : IsTouchedBy l.content 1 := ⟨'a', by decide, Or.inr rfl⟩
  have hrun : IsMaximalRun isWordPart l.content ⟨some '😀', 1, "ab.c".toList⟩ :=
    ⟨by decide, by decide, ['😀'], ";;d".toList, rfl, rfl, rfl, by decide, by decide⟩
  obtain ⟨r, hr, hword⟩ := hsome htouched
  have hthis := (hr _).2 ⟨hrun, by decide, by decide⟩
  subst hthis
  have hapart : ¬IsTouchedBy l.content 6 := by
    rintro ⟨c, hc, ⟨-, hleft⟩ | hright⟩
    · cases hleft
      exact absurd hc (by decide)
    · cases hright
      exact absurd hc (by decide)
  have hnone := ((wordAt_touching t ⟨1, 7⟩).2 l hl (Or.inr hsmall)).1
  refine ⟨hl, hsmall, by decide, hone, htouched, hword, ?_, hnone.2 ?_, ?_⟩
  · rwa [hseven]
  · exact hseven ▸ hapart
  · exact (wordAt_touching t ⟨2, 0⟩).1 (by decide +kernel)

/-! ## A line that words cannot measure -/

/-- A line on which the second half of a surrogate pair is the last code unit that words can count,
and a letter stands behind the pair. -/
def overlongLine : Text :=
  List.replicate (UInt32.size - 2) 'a' ++ "😀 b".toList

/-- The characters in front of the pair have a code unit each. -/
theorem units_take_overlongLine_of_le {i : Nat} (hi : i ≤ UInt32.size - 2) :
    units (overlongLine.take i) = i := by
  have hletters : overlongLine.take i = List.replicate i 'a' := by
    rw [overlongLine, List.take_append_of_le_length, List.take_replicate, Nat.min_eq_left hi]
    rwa [List.length_replicate]
  rw [hletters, units_replicate rfl]

/-- Behind the letters the code units of the pair and of what follows are added. -/
theorem units_take_overlongLine (j : Nat) :
    units (overlongLine.take (UInt32.size - 2 + j)) =
      UInt32.size - 2 + units ("😀 b".toList.take j) := by
  have hfront := units_take_overlongLine_of_le (Nat.le_refl _)
  rw [overlongLine, List.take_left' List.length_replicate] at hfront
  rw [overlongLine, List.take_append, List.take_of_length_le, List.length_replicate,
    Nat.add_sub_cancel_left, units_append, hfront]
  rw [List.length_replicate]
  exact Nat.le_add_right _ _

/-- Behind the letters stand the pair, a blank and a letter. -/
theorem getElem?_overlongLine (j : Nat) :
    overlongLine[UInt32.size - 2 + j]? = "😀 b".toList[j]? := by
  rw [overlongLine, List.getElem?_append_right, List.length_replicate, Nat.add_sub_cancel_left]
  rw [List.length_replicate]
  exact Nat.le_add_right _ _

/-- Behind the letters stand three characters. -/
theorem length_overlongLine : overlongLine.length = UInt32.size - 2 + 3 := by
  rw [overlongLine, List.length_append, List.length_replicate]
  rfl

/-- The line is a text without line breaks. -/
theorem lines_overlongLine : lines overlongLine = [⟨overlongLine, []⟩] := by
  have hbehind : "😀 b".toList.all (!isBreak ·) = true := by decide
  refine lines_of_not_isBreak fun c hc => ?_
  rcases List.mem_append.1 hc with hletter | hrest
  · rw [List.eq_of_mem_replicate hletter]
    rfl
  · simpa using List.all_eq_true.1 hbehind c hrest

/-- The letters and the pair begin before the greatest column. -/
theorem units_take_overlongLine_lt {i : Nat} (hi : i < UInt32.size - 2 + 1) :
    units (overlongLine.take i) < (0xFFFFFFFF : UInt32).toNat := by
  rw [units_take_overlongLine_of_le (Nat.le_of_lt_succ hi)]
  exact Nat.lt_of_lt_of_le hi (by decide)

/-- The letters and the pair are all that begins before the greatest column. -/
theorem charsBefore_overlongLine :
    charsBefore overlongLine (0xFFFFFFFF : UInt32).toNat = UInt32.size - 2 + 1 := by
  apply charsBefore_eq
  · rw [length_overlongLine]
    omega
  · exact fun i hi => units_take_overlongLine_lt hi
  · rw [units_take_overlongLine]
    decide

/-- The search for the greatest column does not end at the pair, where its sum has wrapped, but at
the end of the line. -/
theorem indexOfColumn_overlongLine :
    indexOfColumn overlongLine 0xFFFFFFFF = UInt32.size - 2 + 3 := by
  have hwrapped : units32 (overlongLine.take (UInt32.size - 2 + 1)) = 0 := by
    rw [units32, units_take_overlongLine]
    decide
  have hbehind : overlongLine.drop (UInt32.size - 2 + 1) = " b".toList := by
    apply List.ext_getElem?
    intro j
    rw [List.getElem?_drop, Nat.add_assoc, getElem?_overlongLine, Nat.add_comm 1 j]
    rfl
  have hle : UInt32.size - 2 + 1 ≤ overlongLine.length := by
    rw [length_overlongLine]
    omega
  rw [indexOfColumn_eq_add hle fun i hi => units_take_overlongLine_lt hi, hwrapped, hbehind]
  rfl

/-- The pair stands in front of the greatest column, and the blank behind it. -/
theorem not_isTouchedBy_overlongLine :
    ¬IsTouchedBy overlongLine (charsBefore overlongLine (0xFFFFFFFF : UInt32).toNat) := by
  have hpair : overlongLine[UInt32.size - 2 + 1 - 1]? = some '😀' := getElem?_overlongLine 0
  have hblank : overlongLine[UInt32.size - 2 + 1]? = some ' ' := getElem?_overlongLine 1
  rw [charsBefore_overlongLine]
  rintro ⟨c, hc, ⟨-, hleft⟩ | hright⟩
  · obtain rfl := Option.some.inj (hpair.symm.trans hleft)
    exact absurd hc (by decide)
  · obtain rfl := Option.some.inj (hblank.symm.trans hright)
    exact absurd hc (by decide)

/-- The last letter is a word, the columns of which have wrapped. -/
theorem isMaximalRun_overlongLine :
    IsMaximalRun isWordPart overlongLine ⟨some ' ', UInt32.size - 2 + 2, ['b']⟩ := by
  refine ⟨by decide, by decide, List.replicate (UInt32.size - 2) 'a' ++ "😀 ".toList, [], ?_, ?_,
    ?_, by decide, rfl⟩
  · rw [overlongLine, List.append_nil, List.append_assoc]
    rfl
  · rw [List.length_append, List.length_replicate]
    rfl
  · rw [List.getLast?_append]
    rfl

/-- On a line that words cannot measure, the search for the greatest column ends at a word that the
position does not touch, and the columns of this word have wrapped as well. -/
theorem wordAt_of_overlongLine :
    lines overlongLine = [⟨overlongLine, []⟩] ∧
      ¬IsTouchedBy overlongLine (charsBefore overlongLine (0xFFFFFFFF : UInt32).toNat) ∧
      wordAt overlongLine ⟨0, 0xFFFFFFFF⟩ = some ⟨['b'], ⟨⟨0, 1⟩, ⟨0, 2⟩⟩⟩ ∧
      units (overlongLine.take (overlongLine.length - 1)) = UInt32.size + 1 := by
  have hl : (lines overlongLine)[(⟨0, 0xFFFFFFFF⟩ : Position).line.toNat]? =
      some ⟨overlongLine, []⟩ := by
    rw [lines_overlongLine]
    rfl
  have hstart : units (overlongLine.take (UInt32.size - 2 + 2)) = UInt32.size + 1 :=
    units_take_overlongLine 2
  have hstop : units (overlongLine.take (UInt32.size - 2 + 3)) = UInt32.size + 2 :=
    units_take_overlongLine 3
  refine ⟨lines_overlongLine, not_isTouchedBy_overlongLine, ?_, ?_⟩
  · refine (wordAt_eq_some_iff hl).2 ⟨_, isMaximalRun_overlongLine, ?_, ?_, ?_⟩
    · rw [indexOfColumn_overlongLine]
      exact Nat.add_le_add_left (by decide) _
    · rw [indexOfColumn_overlongLine]
      exact Nat.le_refl _
    · rw [rangeOfRun_eq isMaximalRun_overlongLine, Run.stop]
      change _ = (⟨_, ⟨⟨_, (units (overlongLine.take (UInt32.size - 2 + 2))).toUInt32⟩,
        ⟨_, (units (overlongLine.take (UInt32.size - 2 + 3))).toUInt32⟩⟩⟩ : Word)
      rw [hstart, hstop]
      rfl
  · rw [length_overlongLine]
    exact hstart

end Text
end LmntalServer
