import LmntalServer.Proofs.Symbol.Grammar
import LmntalServer.Proofs.Symbol.Lookup
import LmntalServer.Proofs.Text.ByteOrder
import LmntalServer.Proofs.Text.LineBreaks

/-!
# The heads of a text

A text may have heads inside the argument lists of other heads.  A scan takes the first head of the
text, then the first one that does not begin before the end of it, and so on.  This module says
which heads these are without scanning, and that a symbol table is built from just these.

Main definitions:

* `HeadSpan`, `HeadSpan.StandsIn`: a head at its place in a text.
* `LeftmostHeads`: the heads that a scan takes.

Main results:

* `HeadSpan.StandsIn.unique`: at each index stands at most one head.
* `Text.exists_of_mem_heads`: where the heads of a scan stand.
* `Text.leftmostHeads_heads`: a scan takes the leftmost heads.
* `SymbolTable.scan_leftmostHeads`: what a table holds.
-/

namespace LmntalServer

/-- A head at a place in a text: the index at which its line starts, its name, and the index after
its rule sign. -/
structure HeadSpan where
  start : Nat
  name : Text
  stop : Nat
deriving DecidableEq, Repr

namespace HeadSpan

/-- A head stands in a text if it is written there and a line starts with it. -/
structure StandsIn (s : HeadSpan) (t : Text) : Prop where
  startsLine : t.lineStartsAt s.start = true
  written : ∃ w : WrittenHead,
    w.name = s.name ∧ s.stop = s.start + w.chars.length ∧ w.chars <+: t.drop s.start

end HeadSpan

/-- The heads that a scan takes from an index on: the first one that does not start before this
index, and the leftmost heads from the end of it on. -/
inductive LeftmostHeads (t : Text) : Nat → List HeadSpan → Prop
  | nil {bound : Nat} (hnone : ∀ r : HeadSpan, r.StandsIn t → r.start < bound) :
      LeftmostHeads t bound []
  | cons {bound : Nat} {s : HeadSpan} {ss : List HeadSpan} (hs : s.StandsIn t)
      (hfrom : bound ≤ s.start)
      (hfirst : ∀ r : HeadSpan, r.StandsIn t → bound ≤ r.start → s.start ≤ r.start)
      (hss : LeftmostHeads t s.stop ss) :
      LeftmostHeads t bound (s :: ss)

namespace HeadSpan.StandsIn

/-- At each index of a text stands at most one head, since the scanner finds one shape there. -/
theorem unique {t : Text} {r s : HeadSpan} (hr : r.StandsIn t) (hs : s.StandsIn t)
    (h : r.start = s.start) : r = s := by
  obtain ⟨-, v, hvname, hvstop, hv⟩ := hr
  obtain ⟨-, w, hwname, hwstop, hw⟩ := hs
  rw [h] at hv
  have hshape : v.shape = w.shape := by
    have hv' := Text.headShape?_eq_some_iff.2 ⟨v, hv, rfl⟩
    have hw' := Text.headShape?_eq_some_iff.2 ⟨w, hw, rfl⟩
    rw [hv'] at hw'
    exact Option.some.inj hw'
  have hname : v.name = w.name := congrArg HeadShape.name hshape
  have hlength : v.chars.length = w.chars.length := congrArg HeadShape.length hshape
  cases r
  cases s
  simp only [HeadSpan.mk.injEq] at *
  exact ⟨h, by rw [← hvname, hname, hwname], by rw [hvstop, hwstop, h, hlength]⟩

/-- A head does not start at the end of a text. -/
theorem start_lt_length {t : Text} {s : HeadSpan} (hs : s.StandsIn t) : s.start < t.length := by
  obtain ⟨-, w, -, -, hw⟩ := hs
  have hle := hw.length_le
  rw [w.length_chars, List.length_drop] at hle
  omega

end HeadSpan.StandsIn

namespace LeftmostHeads

/-- A scan may as well begin behind an index at which no head stands. -/
theorem of_succ {t : Text} {i : Nat} {ss : List HeadSpan}
    (hnone : ∀ r : HeadSpan, r.StandsIn t → r.start ≠ i) (h : LeftmostHeads t (i + 1) ss) :
    LeftmostHeads t i ss := by
  cases h with
  | nil h =>
      refine .nil fun r hr => ?_
      have := h r hr
      have := hnone r hr
      omega
  | cons hs hfrom hfirst hss =>
      refine .cons hs (by omega) (fun r hr hle => hfirst r hr ?_) hss
      have := hnone r hr
      omega

end LeftmostHeads

namespace Text

/-! ## Places -/

/-- A place in a text, in front of its rest: the character before it, its index and its line are
those of the part that it leaves behind. -/
def Place.IsAt (p : Place) (t rest : Text) : Prop :=
  ∃ pre, t = pre ++ rest ∧ p.before = pre.getLast? ∧ p.index = pre.length ∧
    p.line = breaksUpTo t pre.length

namespace Place.IsAt

theorem start (t : Text) : Place.start.IsAt t t :=
  ⟨[], rfl, rfl, rfl, rfl⟩

variable {p : Place} {t rest : Text}

/-- A place knows whether a line starts there. -/
theorem startsLine_eq (h : p.IsAt t rest) : startsLine p.before rest = t.lineStartsAt p.index := by
  obtain ⟨pre, rfl, hbefore, hindex, -⟩ := h
  rw [hbefore, hindex, lineStartsAt_append]

theorem drop_index (h : p.IsAt t rest) : t.drop p.index = rest := by
  obtain ⟨pre, rfl, -, hindex, -⟩ := h
  rw [hindex, List.drop_left]

theorem advance {c : Char} (h : p.IsAt t (c :: rest)) : (p.advance c rest).IsAt t rest := by
  obtain ⟨pre, rfl, -, hindex, hline⟩ := h
  have hstart := lineStartsAt_append (pre ++ [c]) rest
  rw [List.getLast?_concat, List.append_assoc, List.singleton_append, List.length_append,
    List.length_singleton] at hstart
  refine ⟨pre ++ [c], by simp, by simp [Place.advance], by simp [hindex], ?_⟩
  rw [List.length_append, List.length_singleton, breaksUpTo_succ, hstart, ← hline]
  simp only [Place.advance]
  split <;> rfl

end Place.IsAt

/-! ## Scanning -/

variable {t : Text}

/-- Each head of a scan was found at the front of some rest of the text, at a place where a line
starts, and has this place. -/
theorem exists_place_of_mem_headsFrom {p : Place} {skip : Nat} {rest : Text} {h : Head}
    (hp : p.IsAt t rest) (hh : h ∈ headsFrom p skip rest) :
    ∃ (q : Place) (tail : Text), q.IsAt t tail ∧ startsLine q.before tail = true ∧
      headShape? tail = some h.toHeadShape ∧ h.start = q.index ∧ h.line = q.line := by
  induction rest generalizing p skip with
  | nil => simp [headsFrom] at hh
  | cons c rest ih =>
      cases skip with
      | succ skip => exact ih hp.advance hh
      | zero =>
          simp only [headsFrom] at hh
          split at hh
          · next shape hshape =>
              rcases List.mem_cons.1 hh with rfl | hh
              · split at hshape
                · next hstart => exact ⟨p, c :: rest, hp, hstart, hshape, rfl, rfl⟩
                · cases hshape
              · exact ih hp.advance hh
          · exact ih hp.advance hh

/-- Each head of a scan is written at its start, and its line is the number of line breaks up to
there. -/
theorem exists_of_mem_heads {h : Head} (hh : h ∈ heads t) :
    ∃ (w : WrittenHead) (pre rest : Text), t = pre ++ (w.chars ++ rest) ∧
      startsLine pre.getLast? (w.chars ++ rest) = true ∧ w.shape = h.toHeadShape ∧
      h.start = pre.length ∧ h.line = breaksUpTo t pre.length := by
  obtain ⟨q, tail, ⟨pre, ht, hbefore, hindex, hline⟩, hstart, hshape, hstart', hline'⟩ :=
    exists_place_of_mem_headsFrom (Place.IsAt.start t) hh
  obtain ⟨w, rest, rfl, hw⟩ := exists_of_headShape? hshape
  exact ⟨w, pre, rest, ht, hbefore ▸ hstart, hw, hstart'.trans hindex, hline'.trans hline⟩

/-- The place of a head in its text. -/
def spanOf (h : Head) : HeadSpan :=
  ⟨h.start, h.name, h.stop⟩

/-- From each place on a scan takes the leftmost heads: at a place that it passes stands no head,
which it would have found. -/
theorem leftmostHeads_headsFrom {p : Place} {skip : Nat} {rest : Text} (hp : p.IsAt t rest)
    (hskip : skip ≤ rest.length) :
    LeftmostHeads t (p.index + skip) ((headsFrom p skip rest).map spanOf) := by
  induction rest generalizing p skip with
  | nil =>
      obtain ⟨pre, rfl, -, hindex, -⟩ := hp
      refine .nil fun r hr => ?_
      have := hr.start_lt_length
      simp only [List.append_nil, List.length_nil] at this hskip
      omega
  | cons c rest ih =>
      cases skip with
      | succ skip =>
          have hnext := ih hp.advance (Nat.le_of_succ_le_succ hskip)
          rwa [Place.index_advance, Nat.add_right_comm] at hnext
      | zero =>
          simp only [headsFrom, Nat.add_zero]
          split
          · next shape hshape =>
              obtain ⟨hstart, hshape⟩ : startsLine p.before (c :: rest) = true ∧
                  headShape? (c :: rest) = some shape := by
                split at hshape
                · next hstart => exact ⟨hstart, hshape⟩
                · cases hshape
              obtain ⟨hpos, hle⟩ := headShape?_length hshape
              obtain ⟨w, hw, rfl⟩ := headShape?_eq_some_iff.1 hshape
              have hrest : w.shape.length - 1 ≤ rest.length := by
                simp only [List.length_cons] at hle
                omega
              have hnext := ih hp.advance hrest
              have hindex : (p.advance c rest).index + (w.shape.length - 1) =
                  p.index + w.shape.length := by
                rw [Place.index_advance]
                omega
              rw [hindex] at hnext
              refine .cons ⟨?_, w, rfl, rfl, ?_⟩ (Nat.le_refl _) (fun r _ hle => hle) hnext
              · exact hp.startsLine_eq ▸ hstart
              · rw [← hp.drop_index] at hw
                exact hw
          · next hshape =>
              refine .of_succ (fun r hr hindex => ?_) (ih hp.advance (Nat.zero_le _))
              obtain ⟨hstart, w, -, -, hw⟩ := hr
              rw [hindex, ← hp.startsLine_eq] at hstart
              rw [hindex, hp.drop_index] at hw
              rw [if_pos hstart, headShape?_eq_some_iff.2 ⟨w, hw, rfl⟩] at hshape
              cases hshape

/-- A scan takes the leftmost heads of a text. -/
theorem leftmostHeads_heads (t : Text) : LeftmostHeads t 0 ((heads t).map spanOf) :=
  leftmostHeads_headsFrom (Place.IsAt.start t) (Nat.zero_le _)

/-- The line of a head of a scan is the number of line breaks up to its start. -/
theorem line_eq_breaksUpTo {h : Head} (hh : h ∈ heads t) : h.line = breaksUpTo t h.start := by
  obtain ⟨-, pre, -, -, -, -, hstart, hline⟩ := exists_of_mem_heads hh
  rw [hstart, hline]

end Text

namespace SymbolTable

/-- The atom of a name is the last of the leftmost heads with this name. -/
theorem lookup?_scan_spanOf (t : Text) (u : Uri) (name : String) :
    (scan t u).lookup? name =
      (((t.heads.map Text.spanOf).filter fun s => String.ofList s.name = name).getLast?).map
        fun s => ⟨name, (t.breaksUpTo s.start).toUInt32, u⟩ := by
  have hfilter :
      (t.heads.filter ((fun s : HeadSpan => String.ofList s.name = name) ∘ Text.spanOf)) =
        t.heads.filter fun h => String.ofList h.name = name := rfl
  rw [lookup?_scan, List.filter_map, List.getLast?_map, Option.map_map, hfilter]
  cases hlast : (t.heads.filter fun h => String.ofList h.name = name).getLast? with
  | none => rfl
  | some h =>
      obtain ⟨hmem, hname⟩ := List.mem_filter.1 (List.mem_of_getLast? hlast)
      have hname : String.ofList h.name = name := of_decide_eq_true hname
      simp only [Option.map_some, Function.comp, entryOf, Text.spanOf, hname,
        Text.line_eq_breaksUpTo hmem]

/-- At each index of a text stands at most one head.  The table of a text is built from its leftmost
heads: the atom of a name has the line of the last of them with this name, in 32-bit words, which
is exact for texts of fewer than `UInt32.size` characters; no other name has an atom.  The names
are listed in the order of their bytes, and their number is that of the different names. -/
theorem scan_leftmostHeads (t : Text) (u : Uri) :
    (∀ r s : HeadSpan, r.StandsIn t → s.StandsIn t → r.start = s.start → r = s) ∧
    ∃ ss, LeftmostHeads t 0 ss ∧
      (scan t u).document = some u ∧
      (∀ name, (scan t u).lookup? name =
        ((ss.filter fun s => String.ofList s.name = name).getLast?).map
          fun s => ⟨name, (t.breaksUpTo s.start).toUInt32, u⟩) ∧
      (t.length < UInt32.size →
        ∀ s ∈ ss, (t.breaksUpTo s.start).toUInt32.toNat = t.breaksUpTo s.start) ∧
      (∀ name, name ∈ (scan t u).names ↔ name ∈ ss.map (String.ofList ·.name)) ∧
      (scan t u).names.Pairwise (fun a b => utf8Bytes a < utf8Bytes b) ∧
      (scan t u).size = (ss.map (String.ofList ·.name)).dedup.length := by
  refine ⟨fun r s => HeadSpan.StandsIn.unique, t.heads.map Text.spanOf,
    Text.leftmostHeads_heads t, document_scan t u, lookup?_scan_spanOf t u, ?_, ?_, ?_, ?_⟩
  · intro hsmall s hs
    obtain ⟨h, hh, rfl⟩ := List.mem_map.1 hs
    obtain ⟨w, pre, rest, ht, -, -, hstart, -⟩ := Text.exists_of_mem_heads hh
    have hle := Text.breaksUpTo_le t h.start
    have hlength := congrArg List.length ht
    rw [List.length_append] at hlength
    change (t.breaksUpTo h.start).toUInt32.toNat = t.breaksUpTo h.start
    exact UInt32.toNat_ofNat_of_lt' (show _ < UInt32.size by omega)
  · intro name
    rw [mem_names_scan, List.map_map]
    rfl
  · exact Dictionary.pairwise_utf8Bytes_names _
  · rw [size_scan, List.map_map]
    rfl

/-- A head with an argument list on two lines, in which a head does not count, and a later head of
the same name. -/
theorem scan_leftmostHeads_of_two_lines :
    let t : Text := "f(X,\ng :- Y) :- h.\r f:-h.".toList
    let u : Uri := ⟨"untitled", none, "a", none, none⟩
    let r : HeadSpan := ⟨19, "f".toList, 23⟩
    r.StandsIn t ∧ (∀ s, s.StandsIn t → s.start = r.start → s = r) ∧
      t.length < UInt32.size ∧
      (∃ ss, LeftmostHeads t 0 ss ∧
        ∀ s ∈ ss, (t.breaksUpTo s.start).toUInt32.toNat = t.breaksUpTo s.start) ∧
      (scan t u).lookup? "f" = some ⟨"f", 2, u⟩ ∧ (scan t u).size = 1 := by
  intro t u r
  have hr : r.StandsIn t := by
    refine ⟨by decide, ⟨[' '], ['f'], [], [], [], ?_, ?_, ?_, .absent, ?_⟩, rfl, rfl, ?_⟩
    · simp [isBlank]
    · exact @IsName.mk 'f' [] [] rfl (by simp) (by simp)
    · simp
    · simp
    · decide
  obtain ⟨hunique, ss, hss, -, -, hexact, -⟩ := scan_leftmostHeads t u
  exact ⟨hr, fun s hs hstart => hunique s r hs hr hstart, by decide,
    ⟨ss, hss, hexact (by decide)⟩, by decide +kernel, by decide +kernel⟩

end SymbolTable
end LmntalServer
