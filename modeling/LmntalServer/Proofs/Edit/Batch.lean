import LmntalServer.Document
import LmntalServer.Proofs.Text.LineStarts
import LmntalServer.Proofs.Text.Offset
import Mathlib.Data.List.Chain

/-!
# Batches of edits

An editor with several cursors sends one replacement for each of them, from right to left, with
ranges that it has all found in the same text.  The changes apply one after another, and each range
is resolved on the text that the one before it left.  Nevertheless they act as if all slices were
replaced at once: what stands in front of a replaced slice keeps its lines and its offsets, whatever
is put in the place of the slice.  This holds strictly in front of it, not for an offset that touches
it, since the end of a line may move away from such an offset.

Main definitions:

* `Slice`, `Text.replaceSlices`: slices of a text that are replaced at once.
* `Replacement`, `Replacement.slice`: a change of a range and the slice that it stands for.

Main results:

* `Text.offset_append_congr`: offsets do not depend on what stands behind them.
* `Text.edit_take_append`: a batch on a text that has already changed behind an index.
* `Document.edit_eq_replaceSlices`: a batch from right to left acts at once.
-/

namespace LmntalServer

/-- A stretch of a text from one index up to another, and the characters to put in its place. -/
structure Slice where
  start : Nat
  stop : Nat
  text : Text
deriving DecidableEq, Repr

/-- A change of the characters in a range. -/
structure Replacement where
  range : Range
  text : Text
deriving DecidableEq, Repr

namespace Replacement

/-- A replacement as a client sends it. -/
def change (r : Replacement) : Change :=
  ⟨some r.range, r.text⟩

/-- The slice of a text that a replacement stands for; it is empty if the range ends before it
starts. -/
def slice (t : Text) (r : Replacement) : Slice :=
  ⟨t.offset r.range.start, max (t.offset r.range.start) (t.offset r.range.stop), r.text⟩

end Replacement

namespace Text

/-- The part of a text up to an index, in which some slices, listed from right to left, are
replaced at once: between them the characters of the text stand as they were. -/
def replaceUpTo (t : Text) (bound : Nat) : List Slice → Text
  | [] => t.take bound
  | s :: ss => replaceUpTo t s.start ss ++ (s.text ++ (t.take bound).drop s.stop)

/-- A text in which some slices, listed from right to left, are replaced at once. -/
def replaceSlices (t : Text) (ss : List Slice) : Text :=
  replaceUpTo t t.length ss

/-! ## Places in front of an edit -/

/-- Whether a line starts at an index depends only on the text up to the next character. -/
theorem lineStartsAt_append_congr {pre : Text} {i : Nat} (hi : i < pre.length) (s t : Text) :
    lineStartsAt (pre ++ s) i = lineStartsAt (pre ++ t) i := by
  have hle : i ≤ pre.length := Nat.le_of_lt hi
  rw [lineStartsAt, lineStartsAt, List.take_append_of_le_length hle,
    List.take_append_of_le_length hle, List.drop_append_of_le_length hle,
    List.drop_append_of_le_length hle, List.drop_eq_getElem_cons hi]
  cases (pre.take i).getLast? with
  | none => rfl
  | some c => rfl

/-- The line breaks up to an index do not depend on what stands behind the next character. -/
theorem breaksUpTo_append_congr {pre : Text} {i : Nat} (hi : i < pre.length) (s t : Text) :
    breaksUpTo (pre ++ s) i = breaksUpTo (pre ++ t) i := by
  refine List.countP_congr fun j hj => ?_
  have hj : j + 1 < pre.length := by
    have := List.mem_range.1 hj
    omega
  rw [lineStartsAt_append_congr hj s t]

/-- A code unit that is found in the first part of a text, on its first line, is found there
whatever stands behind this part. -/
theorem indexOfUnit_takeWhile_append {pre s : Text} {u : Nat}
    (h : indexOfUnit ((pre ++ s).takeWhile (!isBreak ·)) u < pre.length) (t : Text) :
    indexOfUnit ((pre ++ t).takeWhile (!isBreak ·)) u =
      indexOfUnit ((pre ++ s).takeWhile (!isBreak ·)) u := by
  induction pre generalizing u with
  | nil => cases h
  | cons c pre ih =>
      rw [List.cons_append, List.takeWhile_cons] at h
      rw [List.cons_append, List.cons_append, List.takeWhile_cons, List.takeWhile_cons]
      cases hc : isBreak c with
      | true => rfl
      | false =>
          simp only [hc, Bool.not_false, if_true, indexOfUnit] at h ⊢
          by_cases hu : charUnits c ≤ u
          · rw [if_pos hu] at h
            rw [if_pos hu, if_pos hu, ih (Nat.lt_of_succ_lt_succ h)]
          · rw [if_neg hu, if_neg hu]

/-- A position that falls into the first part of a text falls there whatever stands behind this
part: its line starts there in both texts, and it is the same line by its number. -/
theorem offset_append_congr {pre s : Text} {p : Position}
    (h : offset (pre ++ s) p < pre.length) (t : Text) :
    offset (pre ++ t) p = offset (pre ++ s) p := by
  cases hl : (lines (pre ++ s))[p.line.toNat]? with
  | none =>
      rw [offset_eq_length hl, List.length_append] at h
      omega
  | some l =>
      rw [offset_eq_lineStart_add hl] at h ⊢
      have hstart : lineStart (pre ++ s) p.line.toNat < pre.length := by omega
      have hle : lineStart (pre ++ s) p.line.toNat ≤ pre.length := Nat.le_of_lt hstart
      have hstarts : lineStartsAt (pre ++ t) (lineStart (pre ++ s) p.line.toNat) = true := by
        rw [lineStartsAt_append_congr hstart t s]
        exact lineStartsAt_lineStart hl
      have hnumber : breaksUpTo (pre ++ t) (lineStart (pre ++ s) p.line.toNat) =
          p.line.toNat := by
        rw [breaksUpTo_append_congr hstart t s]
        exact breaksUpTo_lineStart hl
      have hbound : lineStart (pre ++ s) p.line.toNat ≤ (pre ++ t).length := by
        rw [List.length_append]
        omega
      have hsame := lineStart_breaksUpTo hbound hstarts
      obtain ⟨k, hk, -, -⟩ := exists_line_of_le_length hbound
      rw [hnumber] at hsame hk
      rw [offset_eq_lineStart_add hk, hsame, content_eq_takeWhile hk, hsame,
        content_eq_takeWhile hl, List.drop_append_of_le_length hle,
        List.drop_append_of_le_length hle]
      rw [content_eq_takeWhile hl, List.drop_append_of_le_length hle] at h
      rw [indexOfUnit_takeWhile_append (s := s)]
      rw [List.length_drop]
      omega

end Text

/-! ## Batches -/

namespace Replacement

variable {pre s : Text} {r : Replacement}

/-- A replacement that ends in the first part of a text stands for the same slice whatever stands
behind this part. -/
theorem slice_append_congr (h : (r.slice (pre ++ s)).stop < pre.length) (t : Text) :
    r.slice (pre ++ t) = r.slice (pre ++ s) := by
  simp only [slice] at h ⊢
  have hstart : Text.offset (pre ++ s) r.range.start < pre.length := by omega
  have hstop : Text.offset (pre ++ s) r.range.stop < pre.length := by omega
  rw [Text.offset_append_congr hstart t, Text.offset_append_congr hstop t]

/-- A replacement splices the slice that it stands for. -/
theorem apply_change (t : Text) (r : Replacement) :
    r.change.apply t = t.splice (r.slice t).start (r.slice t).stop r.text :=
  rfl

/-- No slice ends before it starts. -/
theorem start_le_stop (t : Text) (r : Replacement) : (r.slice t).start ≤ (r.slice t).stop :=
  Nat.le_max_left _ _

end Replacement

namespace Text

/-- A slice of the first part of a text is replaced there. -/
theorem splice_append {pre : Text} {start stop : Nat} (hstart : start ≤ pre.length)
    (hstop : stop ≤ pre.length) (rest text : Text) :
    splice (pre ++ rest) start stop text =
      pre.take start ++ (text ++ (pre.drop stop ++ rest)) := by
  rw [splice, List.take_append_of_le_length hstart, List.drop_append_of_le_length hstop,
    List.append_assoc]

/-- A batch on a text that has already changed behind an index, if its first replacement stands for
the same slice as before and ends no later than this index.  The next replacement ends strictly
before this one starts, where nothing has changed. -/
theorem edit_take_append (t rest : Text) {bound : Nat} (hbound : bound ≤ t.length)
    {rs : List Replacement}
    (hrs : (rs.map (Replacement.slice t)).IsChain (fun s r => r.stop < s.start))
    (hfirst : ∀ r ∈ rs.head?,
      r.slice (t.take bound ++ rest) = r.slice t ∧ (r.slice t).stop ≤ bound) :
    edit (t.take bound ++ rest) (rs.map Replacement.change) =
      replaceUpTo t bound (rs.map (Replacement.slice t)) ++ rest := by
  induction rs generalizing bound rest with
  | nil => rfl
  | cons r rs ih =>
      have hlength : (t.take bound).length = bound := by
        rw [List.length_take]
        exact Nat.min_eq_left hbound
      obtain ⟨hslice, hstop⟩ := hfirst r rfl
      have hstart : (r.slice t).start ≤ bound := Nat.le_trans (r.start_le_stop t) hstop
      rw [List.map_cons, List.isChain_cons] at hrs
      obtain ⟨hnext, htail⟩ := hrs
      have hunchanged : ∀ q ∈ rs.head?, ∀ behind : Text,
          q.slice (t.take (r.slice t).start ++ behind) = q.slice t ∧
            (q.slice t).stop ≤ (r.slice t).start := by
        intro q hq behind
        have hlt : (q.slice t).stop < (r.slice t).start :=
          hnext _ (by rw [List.head?_map, hq]; rfl)
        have hfront : (q.slice (t.take (r.slice t).start ++ t.drop (r.slice t).start)).stop <
            (t.take (r.slice t).start).length := by
          rw [List.take_append_drop, List.length_take,
            Nat.min_eq_left (Nat.le_trans hstart hbound)]
          exact hlt
        have hsame := Replacement.slice_append_congr hfront behind
        rw [List.take_append_drop] at hsame
        exact ⟨hsame, Nat.le_of_lt hlt⟩
      rw [List.map_cons, edit_cons, Replacement.apply_change, hslice,
        splice_append (by omega) (by omega), List.take_take, Nat.min_eq_left hstart,
        ih _ (Nat.le_trans hstart hbound) htail fun q hq => hunchanged q hq _, List.map_cons,
        replaceUpTo, List.append_assoc, List.append_assoc]
      rfl

end Text

/-- Replacements of ranges that are all resolved on the same text, each of which ends strictly
before the one in front of it in the list starts, act at once: accepted as one batch, they leave the
text in which every slice has been replaced. -/
theorem Document.edit_eq_replaceSlices (d : Document) (rs : List Replacement) {version : Int}
    (hversion : d.version < version)
    (hrs : (rs.map (Replacement.slice d.text)).IsChain (fun s r => r.stop < s.start)) :
    d.edit (rs.map Replacement.change) version =
      .ok { d with
        text := d.text.replaceSlices (rs.map (Replacement.slice d.text))
        version := version } := by
  have hwhole := Text.edit_take_append d.text [] (Nat.le_refl d.text.length) hrs fun r _ => by
    rw [List.take_length, List.append_nil]
    exact ⟨rfl, Nat.max_le.2 ⟨Text.offset_le_length _ _, Text.offset_le_length _ _⟩⟩
  rw [List.take_length, List.append_nil, List.append_nil] at hwhole
  rw [Document.edit_of_lt hversion, hwhole]
  rfl

/-- Three replacements, the first of which joins two line breaks into one, the second of which
starts inside a surrogate pair, and the third of which splits a line break. -/
theorem Document.edit_eq_replaceSlices_of_three_cursors :
    let d : Document :=
      ⟨0, ⟨"untitled", none, "a", none, none⟩, "lmntal", "f\r\n𝑥gh\r.\ni".toList, 1⟩
    let rs : List Replacement :=
      [⟨⟨⟨2, 0⟩, ⟨2, 1⟩⟩, []⟩, ⟨⟨⟨1, 1⟩, ⟨1, 3⟩⟩, "é\r".toList⟩, ⟨⟨⟨0, 0⟩, ⟨0, 1⟩⟩, "\n".toList⟩]
    d.version < 2 ∧
      (rs.map (Replacement.slice d.text)).IsChain (fun s r => r.stop < s.start) ∧
      d.edit (rs.map Replacement.change) 2 =
        .ok { d with text := d.text.replaceSlices (rs.map (Replacement.slice d.text)), version := 2 } ∧
      d.text.replaceSlices (rs.map (Replacement.slice d.text)) = "\n\r\né\rh\r\ni".toList := by
  intro d rs
  have hversion : d.version < 2 := by decide
  have hrs : (rs.map (Replacement.slice d.text)).IsChain (fun s r => r.stop < s.start) := by
    decide +kernel
  exact ⟨hversion, hrs, Document.edit_eq_replaceSlices d rs hversion hrs, by decide +kernel⟩

/-- Touching replacements do not act at once: the second range ends at the end of its line, which
the first replacement has moved. -/
example :
    let t : Text := "a".toList
    let rs : List Replacement := [⟨⟨⟨0, 1⟩, ⟨0, 1⟩⟩, "b".toList⟩, ⟨⟨⟨0, 0⟩, ⟨0, 9⟩⟩, []⟩]
    t.edit (rs.map Replacement.change) = [] ∧
      t.replaceSlices (rs.map (Replacement.slice t)) = "b".toList := by
  decide +kernel

end LmntalServer
