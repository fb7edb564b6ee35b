import LmntalServer.Text.Edit

/-!
# Buffers

A client holds a document as UTF-16 code units and edits these units directly.  This module says
what such a client does, without characters: how it finds its lines, where it takes a position to
be, and how it replaces the units between two positions.

Main definitions:

* `Buffer`, `Buffer.encode`, `Buffer.decode?`: code units, and the texts that they spell.
* `Buffer.WellFormed`: units in which surrogates come in pairs only.
* `Buffer.lines`, `Buffer.resolve`: the lines of a buffer and the places of positions.
* `Buffer.change`, `Buffer.edit`: changes of a buffer.

Main results:

* `Buffer.decode?_encode`: the units of a text spell this text.
* `Buffer.wellFormed_encode`: the units of a text are well-formed.
-/

namespace LmntalServer

/-- A document as its client holds it: UTF-16 code units. -/
abbrev Buffer := List UInt16

namespace Buffer

/-! ## Code units of characters -/

/-- Whether a code unit is the first half of a surrogate pair. -/
def isHigh (u : UInt16) : Bool :=
  0xD800 ≤ u.toNat && u.toNat < 0xDC00

/-- Whether a code unit is the second half of a surrogate pair. -/
def isLow (u : UInt16) : Bool :=
  0xDC00 ≤ u.toNat && u.toNat < 0xE000

/-- The code units of a character: itself, or a surrogate pair above the Basic Multilingual
Plane. -/
def ofChar (c : Char) : Buffer :=
  if c.toNat < 0x10000 then [c.toNat.toUInt16]
  else [(0xD800 + (c.toNat - 0x10000) / 0x400).toUInt16,
    (0xDC00 + (c.toNat - 0x10000) % 0x400).toUInt16]

/-- The code units of a text. -/
def encode (t : Text) : Buffer :=
  t.flatMap ofChar

/-- The character of a surrogate pair. -/
def ofPair (high low : UInt16) : Char :=
  Char.ofNat (0x10000 + (high.toNat - 0xD800) * 0x400 + (low.toNat - 0xDC00))

/-- The text that some code units spell; none if a surrogate stands alone. -/
def decode? : Buffer → Option Text
  | [] => some []
  | [u] => if isHigh u || isLow u then none else some [Char.ofNat u.toNat]
  | u :: v :: b =>
      if isHigh u then
        if isLow v then (decode? b).map (ofPair u v :: ·) else none
      else if isLow u then none
      else (decode? (v :: b)).map (Char.ofNat u.toNat :: ·)

/-- Code units in which surrogates come in pairs only. -/
inductive WellFormed : Buffer → Prop
  | nil : WellFormed []
  | single {u : UInt16} {b : Buffer} (hhigh : isHigh u = false) (hlow : isLow u = false)
      (h : WellFormed b) : WellFormed (u :: b)
  | pair {u v : UInt16} {b : Buffer} (hhigh : isHigh u = true) (hlow : isLow v = true)
      (h : WellFormed b) : WellFormed (u :: v :: b)

/-! ## Lines and positions -/

/-- The code unit of a line feed. -/
def lineFeed : UInt16 :=
  0x0A

/-- The code unit of a carriage return. -/
def carriageReturn : UInt16 :=
  0x0D

/-- The extent of a line: how many code units its content has, and how many the line break that
ends it. -/
structure Extent where
  content : Nat
  ending : Nat
deriving DecidableEq, Repr

namespace Extent

/-- The number of code units of a line, its line break included. -/
def size (e : Extent) : Nat :=
  e.content + e.ending

end Extent

/-- Puts a code unit before the content of the first of some lines. -/
def widen : List Extent → List Extent
  | [] => [⟨1, 0⟩]
  | e :: es => ⟨e.content + 1, e.ending⟩ :: es

/-- The lines of a buffer.  A line ends at a carriage return followed by a line feed, at a lone
one of the two, and at nothing else. -/
def lines : Buffer → List Extent
  | [] => [⟨0, 0⟩]
  | [u] => if u = carriageReturn ∨ u = lineFeed then [⟨0, 1⟩, ⟨0, 0⟩] else [⟨1, 0⟩]
  | u :: v :: b =>
      if u = carriageReturn ∧ v = lineFeed then ⟨0, 2⟩ :: lines b
      else if u = carriageReturn ∨ u = lineFeed then ⟨0, 1⟩ :: lines (v :: b)
      else widen (lines (v :: b))

/-- The place where line `n` starts: the number of code units of all lines before it. -/
def lineStart (b : Buffer) (n : Nat) : Nat :=
  ((lines b).take n).foldr (fun e size => e.size + size) 0

/-- A place, moved down by one code unit if it lies inside a surrogate pair. -/
def floor (b : Buffer) (i : Nat) : Nat :=
  if 0 < i ∧ b[i - 1]?.any isHigh = true ∧ b[i]?.any isLow = true then i - 1 else i

/-- The place of a position: as many code units after the start of its line as its column says,
but not behind the content of the line nor inside a surrogate pair; the end of the buffer if there
is no such line. -/
def resolve (b : Buffer) (p : Position) : Nat :=
  match (lines b)[p.line.toNat]? with
  | none => b.length
  | some e => floor b (lineStart b p.line.toNat + min p.column.toNat e.content)

/-! ## Changes -/

/-- The buffer after a change, which replaces the code units between two places, or all of
them. -/
def change (b : Buffer) (c : Change) : Buffer :=
  match c.range with
  | none => encode c.text
  | some r =>
      let start := resolve b r.start
      let stop := max start (resolve b r.stop)
      b.take start ++ encode c.text ++ b.drop stop

/-- The buffer after some changes, from first to last. -/
def edit (b : Buffer) (changes : List Change) : Buffer :=
  changes.foldl change b

/-! ## The units of a text -/

theorem encode_cons (c : Char) (t : Text) : encode (c :: t) = ofChar c ++ encode t :=
  List.flatMap_cons

/-- A buffer of two texts in a row is that of the first with that of the second behind it. -/
theorem encode_append (s t : Text) : encode (s ++ t) = encode s ++ encode t :=
  List.flatMap_append

/-- No character is a surrogate. -/
theorem toNat_not_surrogate (c : Char) : c.toNat < 0xD800 ∨ 0xE000 ≤ c.toNat := by
  rcases c.valid with h | ⟨h, -⟩
  · exact Or.inl h
  · exact Or.inr h

theorem toNat_lt (c : Char) : c.toNat < 0x110000 := by
  rcases c.valid with h | ⟨-, h⟩
  · exact Nat.lt_trans h (by decide)
  · exact h

/-- A character of the Basic Multilingual Plane is one code unit, which is no surrogate. -/
theorem ofChar_of_lt {c : Char} (h : c.toNat < 0x10000) :
    ∃ u, ofChar c = [u] ∧ u.toNat = c.toNat ∧ isHigh u = false ∧ isLow u = false := by
  have hu : c.toNat.toUInt16.toNat = c.toNat := by
    rw [Nat.toUInt16, UInt16.toNat_ofNat']
    exact Nat.mod_eq_of_lt h
  have hc := toNat_not_surrogate c
  refine ⟨c.toNat.toUInt16, if_pos h, hu, ?_, ?_⟩
  · rw [isHigh, hu, Bool.and_eq_false_iff, decide_eq_false_iff_not, decide_eq_false_iff_not]
    omega
  · rw [isLow, hu, Bool.and_eq_false_iff, decide_eq_false_iff_not, decide_eq_false_iff_not]
    omega

/-- Any other character is a surrogate pair. -/
theorem ofChar_of_ge {c : Char} (h : 0x10000 ≤ c.toNat) :
    ∃ u v, ofChar c = [u, v] ∧ ofPair u v = c ∧ isHigh u = true ∧ isLow v = true := by
  have hlt := toNat_lt c
  have hu : (0xD800 + (c.toNat - 0x10000) / 0x400).toUInt16.toNat =
      0xD800 + (c.toNat - 0x10000) / 0x400 := by
    rw [Nat.toUInt16, UInt16.toNat_ofNat']
    exact Nat.mod_eq_of_lt (by omega)
  have hv : (0xDC00 + (c.toNat - 0x10000) % 0x400).toUInt16.toNat =
      0xDC00 + (c.toNat - 0x10000) % 0x400 := by
    rw [Nat.toUInt16, UInt16.toNat_ofNat']
    exact Nat.mod_eq_of_lt (by omega)
  refine ⟨_, _, if_neg (Nat.not_lt.2 h), ?_, ?_, ?_⟩
  · have hback : 0x10000 + (0xD800 + (c.toNat - 0x10000) / 0x400 - 0xD800) * 0x400 +
        (0xDC00 + (c.toNat - 0x10000) % 0x400 - 0xDC00) = c.toNat := by
      omega
    rw [ofPair, hu, hv, hback, Char.ofNat_toNat]
  · rw [isHigh, hu, Bool.and_eq_true, decide_eq_true_eq, decide_eq_true_eq]
    omega
  · rw [isLow, hv, Bool.and_eq_true, decide_eq_true_eq, decide_eq_true_eq]
    omega

/-- A text has as many code units as its characters together. -/
theorem length_encode (t : Text) : (encode t).length = t.units := by
  induction t with
  | nil => rfl
  | cons c t ih =>
      rw [encode_cons, List.length_append, ih, Text.units_cons, charUnits, ofChar]
      split <;> rfl

/-- The units of a text are well-formed. -/
theorem wellFormed_encode (t : Text) : WellFormed (encode t) := by
  induction t with
  | nil => exact WellFormed.nil
  | cons c t ih =>
      rw [encode_cons]
      by_cases h : c.toNat < 0x10000
      · obtain ⟨u, hu, -, hhigh, hlow⟩ := ofChar_of_lt h
        rw [hu]
        exact WellFormed.single hhigh hlow ih
      · obtain ⟨u, v, huv, -, hhigh, hlow⟩ := ofChar_of_ge (Nat.not_lt.1 h)
        rw [huv]
        exact WellFormed.pair hhigh hlow ih

/-- A code unit that is no surrogate is a character by itself. -/
theorem decode?_cons_of_not_surrogate {u : UInt16} (hhigh : isHigh u = false)
    (hlow : isLow u = false) (b : Buffer) :
    decode? (u :: b) = (decode? b).map (Char.ofNat u.toNat :: ·) := by
  cases b with
  | nil => simp [decode?, hhigh, hlow]
  | cons v b => simp [decode?, hhigh, hlow]

/-- The units of a text spell this text. -/
theorem decode?_encode (t : Text) : decode? (encode t) = some t := by
  induction t with
  | nil => rfl
  | cons c t ih =>
      rw [encode_cons]
      by_cases h : c.toNat < 0x10000
      · obtain ⟨u, hu, hnat, hhigh, hlow⟩ := ofChar_of_lt h
        rw [hu, List.singleton_append, decode?_cons_of_not_surrogate hhigh hlow, ih, hnat,
          Option.map_some, Char.ofNat_toNat]
      · obtain ⟨u, v, huv, hc, hhigh, hlow⟩ := ofChar_of_ge (Nat.not_lt.1 h)
        rw [huv, List.cons_append, List.singleton_append, decode?, if_pos hhigh, if_pos hlow, ih,
          Option.map_some, hc]

end Buffer
end LmntalServer
