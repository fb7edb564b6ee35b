import LmntalServer.Json.Skip
import LmntalServer.Proofs.Json.Spelling

/-!
# Reading what is spelled

The readers take a spelling of a string, a numeral or a value off the front of a text and leave the
rest, whatever the rest is.  Only a numeral needs to know that the rest does not go on with it.

Main definitions:

* `Json.EndsNumeral`: a text that cannot go on with a numeral in front of it.

Main results:

* `Json.readStringBody_append`, `Json.skipStringBody_append`: strings, with any escapes.
* `Json.readNumeral_append`: numerals.
* `Json.skipValue_append`: values of any depth.
-/

namespace LmntalServer
namespace Json

/-! ## Blanks -/

theorem isBlank_of_isBlanks {b : Text} (hb : IsBlanks b) : ∀ c ∈ b, isBlank c = true := by
  intro c hc
  rcases hb c hc with rfl | rfl | rfl | rfl <;> rfl

theorem OpensWith.isBlank {c : Char} {v : Json} (h : OpensWith c v) : isBlank c = false := by
  have hspace : c ≠ ' ' := h.ne (by decide) rfl
  have hnewline : c ≠ '\n' := h.ne (by decide) rfl
  have htab : c ≠ '\t' := h.ne (by decide) rfl
  have hreturn : c ≠ '\r' := h.ne (by decide) rfl
  simp [Json.isBlank, hspace, hnewline, htab, hreturn]

theorem dropBlanks_append {b : Text} (hb : IsBlanks b) (t : Text) :
    dropBlanks (b ++ t) = dropBlanks t :=
  List.dropWhile_append_of_pos (isBlank_of_isBlanks hb)

theorem dropBlanks_blanks {b : Text} (hb : IsBlanks b) : dropBlanks b = [] := by
  rw [← List.append_nil b, dropBlanks_append hb]
  rfl

theorem dropBlanks_cons {c : Char} (hc : isBlank c = false) (t : Text) :
    dropBlanks (c :: t) = c :: t := by
  simp [dropBlanks, hc]

/-- Blanks are dropped up to the first character that is none. -/
theorem dropBlanks_append_cons {b : Text} (hb : IsBlanks b) {c : Char} (hc : isBlank c = false)
    (t : Text) : dropBlanks (b ++ c :: t) = c :: t := by
  rw [dropBlanks_append hb, dropBlanks_cons hc]

/-- The colon after a name is taken, and blanks may be left. -/
theorem expectColon_append {e : Text} (he : IsColon e) (t : Text) :
    ∃ b, IsBlanks b ∧ expectColon (e ++ t) = .ok (b ++ t) := by
  obtain ⟨a, b, ha, hb, rfl⟩ := he
  refine ⟨b, hb, ?_⟩
  simp [expectColon, dropBlanks_append_cons (c := ':') ha rfl]

/-! ## Strings -/

theorem hexValue?_of_isHexDigit {c : Char} {n : Nat} (h : IsHexDigit c n) :
    hexValue? c = some n := by
  have hlower : ∀ i : Fin 16, hexValue? "0123456789abcdef".toList[i] = some i.val := by decide
  have hupper : ∀ i : Fin 16, hexValue? "0123456789ABCDEF".toList[i] = some i.val := by decide
  rcases h with h | h
  · obtain ⟨hn, rfl⟩ := List.getElem?_eq_some_iff.1 h
    exact hlower ⟨n, hn⟩
  · obtain ⟨hn, rfl⟩ := List.getElem?_eq_some_iff.1 h
    exact hupper ⟨n, hn⟩

/-- Four hexadecimal digits are read as the code unit that they spell. -/
theorem readUnit_append {s : Text} {n : Nat} (h : SpellsUnit s n) (t : Text) :
    readUnit (s ++ t) = .ok (n, t) := by
  cases h with
  | digits ha hb hc hd =>
      simp only [List.cons_append, List.nil_append, readUnit, hexValue?_of_isHexDigit ha,
        hexValue?_of_isHexDigit hb, hexValue?_of_isHexDigit hc, hexValue?_of_isHexDigit hd]

/-- The code unit of a character is no half of a surrogate pair. -/
theorem not_surrogate (c : Char) : isLowSurrogate c.toNat = false ∧
    isHighSurrogate c.toNat = false := by
  have hvalid : c.toNat < 0xD800 ∨ 0xDFFF < c.toNat ∧ c.toNat < 0x110000 := c.valid
  simp only [isLowSurrogate, isHighSurrogate, Bool.and_eq_false_iff, decide_eq_false_iff_not]
  omega

/-- The code unit of a character that needs one is read as this character. -/
theorem readUnicodeEscape_unit {s : Text} {c : Char} (h : SpellsUnit s c.toNat) (t : Text) :
    readUnicodeEscape (s ++ t) = .ok (c, t) := by
  obtain ⟨hlow, hhigh⟩ := not_surrogate c
  simp [readUnicodeEscape, readUnit_append h, bind, Except.bind, pure, Except.pure, hlow, hhigh]

/-- The two halves of a surrogate pair, each in its own escape, are read as one character. -/
theorem readUnicodeEscape_pair {s s' : Text} {high low : Nat} {c : Char} (hs : SpellsUnit s high)
    (hs' : SpellsUnit s' low) (hhigh : 0xD800 ≤ high ∧ high ≤ 0xDBFF)
    (hlow : 0xDC00 ≤ low ∧ low ≤ 0xDFFF)
    (hc : c.toNat = 0x10000 + (high - 0xD800) * 0x400 + (low - 0xDC00)) (t : Text) :
    readUnicodeEscape (s ++ '\\' :: 'u' :: (s' ++ t)) = .ok (c, t) := by
  have hnotLow : isLowSurrogate high = false := by
    simp only [isLowSurrogate, Bool.and_eq_false_iff, decide_eq_false_iff_not]
    omega
  have hisHigh : isHighSurrogate high = true := by
    simp only [isHighSurrogate, Bool.and_eq_true, decide_eq_true_eq]
    exact hhigh
  have hisLow : isLowSurrogate low = true := by
    simp only [isLowSurrogate, Bool.and_eq_true, decide_eq_true_eq]
    exact hlow
  have hchar : charOfPair high low = c := by
    rw [charOfPair, ← hc, Char.ofNat_toNat]
  simp [readUnicodeEscape, readUnit_append hs, readUnit_append hs', readSurrogateSign, bind,
    Except.bind, pure, Except.pure, hnotLow, hisHigh, hisLow, hchar]

/-- A short escape is found by its letter, which is not that of the long ones. -/
theorem escaped?_of_mem_shortEscapes {e c : Char} (h : (e, c) ∈ shortEscapes) :
    e ≠ 'u' ∧ escaped? e = some c := by
  have hall : ∀ p ∈ shortEscapes, p.1 ≠ 'u' ∧ escaped? p.1 = some p.2 := by decide
  exact hall _ h

/-- A short escape is read as its character. -/
theorem readEscape_letter {e c : Char} (h : (e, c) ∈ shortEscapes) (t : Text) :
    readEscape (e :: t) = .ok (c, t) := by
  obtain ⟨hu, he⟩ := escaped?_of_mem_shortEscapes h
  rw [readEscape, he]
  exact hu

theorem skipEscape_letter {e c : Char} (h : (e, c) ∈ shortEscapes) (t : Text) :
    skipEscape (e :: t) = .ok t := by
  obtain ⟨hu, he⟩ := escaped?_of_mem_shortEscapes h
  rw [skipEscape, he]
  exact hu

/-- A plain character of a string stands for itself. -/
theorem readStringBody_plain {c : Char} (h : IsPlain c) (t : Text) :
    readStringBody (c :: t) = (readStringBody t).map fun r => (c :: r.1, r.2) := by
  obtain ⟨hquote, hslash, hctrl⟩ := h
  rw [readStringBody]
  · exact if_neg (by omega)
  · exact hquote
  · exact hslash

/-- An escape in a string stands for what it is read as. -/
theorem readStringBody_escape {t rest : Text} {c : Char} (h : readEscape t = .ok (c, rest)) :
    readStringBody ('\\' :: t) = (readStringBody rest).map fun r => (c :: r.1, r.2) := by
  rw [readStringBody]
  split
  · next f hf => rw [h] at hf; cases hf
  · next d rest' hd => rw [h] at hd; cases hd; rfl

/-- A spelled character is read as one character. -/
theorem readStringBody_char {s : Text} {c : Char} (h : SpellsChar s c) (t : Text) :
    readStringBody (s ++ t) = (readStringBody t).map fun r => (c :: r.1, r.2) := by
  cases h with
  | plain h => exact readStringBody_plain h t
  | letter h => exact readStringBody_escape (readEscape_letter h t)
  | unit h => exact readStringBody_escape (readUnicodeEscape_unit h t)
  | pair hs ht hhigh hlow hc =>
      rw [List.append_assoc]
      exact readStringBody_escape (readUnicodeEscape_pair hs ht hhigh hlow hc t)

/-- The characters of a spelled string are read, and what follows the string is left. -/
theorem readStringBody_append {s cs : Text} (h : SpellsBody s cs) (t : Text) :
    readStringBody (s ++ t) = .ok (cs, t) := by
  induction h with
  | quote => simp [readStringBody]
  | char hs ht ih => rw [List.append_assoc, readStringBody_char hs, ih]; rfl

theorem skipStringBody_plain {c : Char} (h : IsPlain c) (t : Text) :
    skipStringBody (c :: t) = skipStringBody t := by
  obtain ⟨hquote, hslash, hctrl⟩ := h
  rw [skipStringBody]
  · exact if_neg (by omega)
  · exact hquote
  · exact hslash

/-- An escape in a string is skipped as a whole. -/
theorem skipStringBody_escape {t rest : Text} (h : skipEscape t = .ok rest) :
    skipStringBody ('\\' :: t) = skipStringBody rest := by
  rw [skipStringBody]
  split
  · next f hf => rw [h] at hf; cases hf
  · next rest' hd => rw [h] at hd; cases hd; rfl

/-- The escape of a code unit is skipped, whether or not it is half of a pair. -/
theorem skipStringBody_unit {s : Text} {n : Nat} (h : SpellsUnit s n) (t : Text) :
    skipStringBody ('\\' :: 'u' :: (s ++ t)) = skipStringBody t :=
  skipStringBody_escape (by rw [skipEscape, readUnit_append h]; rfl)

/-- Each spelling of a character in a string is skipped as a whole. -/
theorem skipStringBody_char {s : Text} {c : Char} (h : SpellsChar s c) (t : Text) :
    skipStringBody (s ++ t) = skipStringBody t := by
  cases h with
  | plain h => exact skipStringBody_plain h t
  | letter h => exact skipStringBody_escape (skipEscape_letter h t)
  | unit h => exact skipStringBody_unit h t
  | pair hs ht hhigh hlow hc =>
      rw [List.append_assoc]
      exact (skipStringBody_unit hs _).trans (skipStringBody_unit ht t)

/-- A spelled string is skipped. -/
theorem skipStringBody_append {s cs : Text} (h : SpellsBody s cs) (t : Text) :
    skipStringBody (s ++ t) = .ok t := by
  induction h with
  | quote => simp [skipStringBody]
  | char hs ht ih => rw [List.append_assoc, skipStringBody_char hs, ih]

/-! ## Numerals -/

/-- A text that does not begin with a digit. -/
def NoDigit (t : Text) : Prop :=
  ∀ c ∈ t.head?, c.isDigit = false

/-- A text that cannot go on with a numeral in front of it. -/
def EndsNumeral (t : Text) : Prop :=
  ∀ c ∈ t.head?, c.isDigit = false ∧ c ≠ '.' ∧ c ≠ 'e' ∧ c ≠ 'E'

theorem EndsNumeral.noDigit {t : Text} (h : EndsNumeral t) : NoDigit t :=
  fun c hc => (h c hc).1

theorem takeWhile_digits {ds t : Text} (hds : ∀ c ∈ ds, c.isDigit = true) (ht : NoDigit t) :
    (ds ++ t).takeWhile Char.isDigit = ds := by
  rw [List.takeWhile_append_of_pos hds]
  cases t with
  | nil => simp
  | cons c t => simp [ht c rfl]

theorem dropWhile_digits {ds t : Text} (hds : ∀ c ∈ ds, c.isDigit = true) (ht : NoDigit t) :
    (ds ++ t).dropWhile Char.isDigit = t := by
  rw [List.dropWhile_append_of_pos hds]
  cases t with
  | nil => rfl
  | cons c t => simp [ht c rfl]

section Numerals

variable (atEnd : Fault.Cause)

/-- The digits before the point are read up to what is no digit. -/
theorem readWhole_append {w t : Text} (hw : IsWhole w) (ht : NoDigit t) :
    readWhole atEnd (w ++ t) = .ok (w, t) := by
  rcases hw with rfl | ⟨⟨hne, hdigits⟩, hzero⟩
  · have hany : t.head?.any Char.isDigit = false := by
      cases t with
      | nil => rfl
      | cons c t => exact ht c rfl
    simp [readWhole, hany]
  · obtain ⟨c, ds, rfl⟩ := List.exists_cons_of_ne_nil hne
    have hc : c ≠ '0' := fun h => hzero (by rw [h]; rfl)
    have hds : ∀ d ∈ ds, d.isDigit = true := fun d hd => hdigits d (List.mem_cons_of_mem _ hd)
    rw [List.cons_append, readWhole]
    · rw [if_pos (hdigits c List.mem_cons_self), takeWhile_digits hds ht, dropWhile_digits hds ht]
    · exact hc

/-- A point with the digits behind it is read, or neither if there is no point. -/
theorem readFraction_append {f t : Text} {digits : Option Text} (hf : SpellsFraction f digits)
    (ht : NoDigit t) (hpoint : t.head? ≠ some '.') :
    readFraction atEnd (f ++ t) = .ok (digits, t) := by
  cases digits with
  | none =>
      obtain rfl : f = [] := hf
      cases t with
      | nil => rfl
      | cons c t =>
          rw [List.nil_append, readFraction]
          rintro u hu
          exact hpoint (by rw [hu]; rfl)
  | some digits =>
      obtain ⟨⟨hne, hdigits⟩, rfl⟩ := hf
      simp [readFraction, takeWhile_digits hdigits ht, dropWhile_digits hdigits ht, hne]

/-- The sign of an exponent is read in front of its first digit. -/
theorem readSign_append {s : Text} {negative : Bool} (hs : SpellsSign s negative) {c : Char}
    (hc : c.isDigit = true) (t : Text) : readSign (s ++ c :: t) = (negative, c :: t) := by
  cases negative with
  | true =>
      obtain rfl : s = ['-'] := by simpa [SpellsSign] using hs
      rfl
  | false =>
      rcases (by simpa [SpellsSign] using hs : s = [] ∨ s = ['+']) with rfl | rfl
      · rw [List.nil_append, readSign]
        · rintro u hu
          cases hu
          exact absurd hc (by decide)
        · rintro u hu
          cases hu
          exact absurd hc (by decide)
      · rfl

/-- An exponent is read up to what ends the numeral. -/
theorem readExponent_append {e t : Text} {exponent : Option (Bool × Text)}
    (he : SpellsExponent e exponent) (ht : EndsNumeral t) :
    readExponent atEnd (e ++ t) = .ok (exponent, t) := by
  cases exponent with
  | none =>
      obtain rfl : e = [] := he
      cases t with
      | nil => rfl
      | cons c t =>
          obtain ⟨-, -, hlower, hupper⟩ := ht c rfl
          simp [readExponent, hlower, hupper]
  | some p =>
      obtain ⟨negative, digits⟩ := p
      obtain ⟨⟨hne, hdigits⟩, c, sign, hc, hsign, rfl⟩ := he
      obtain ⟨d, ds, rfl⟩ := List.exists_cons_of_ne_nil hne
      have hd : d.isDigit = true := hdigits d List.mem_cons_self
      have htake := takeWhile_digits hdigits ht.noDigit
      have hdrop := dropWhile_digits hdigits ht.noDigit
      rw [List.cons_append] at htake hdrop
      simp only [List.cons_append, List.append_assoc, readExponent, hc, if_true,
        readSign_append hsign hd, hd, htake, hdrop]

/-- The digits before the point end at the point, or where the fraction would stand. -/
theorem noDigit_fraction {f t : Text} {digits : Option Text} (hf : SpellsFraction f digits)
    (ht : NoDigit t) : NoDigit (f ++ t) := by
  cases digits with
  | none =>
      obtain rfl : f = [] := hf
      exact ht
  | some digits =>
      obtain ⟨-, rfl⟩ := hf
      rintro c ⟨⟩
      rfl

/-- An exponent, or what stands where it would, begins neither with a digit nor with a point. -/
theorem head?_exponent {e t : Text} {exponent : Option (Bool × Text)}
    (he : SpellsExponent e exponent) (ht : EndsNumeral t) :
    NoDigit (e ++ t) ∧ (e ++ t).head? ≠ some '.' := by
  cases exponent with
  | none =>
      obtain rfl : e = [] := he
      exact ⟨ht.noDigit, fun h => (ht _ h).2.1 rfl⟩
  | some p =>
      obtain ⟨-, c, sign, hc, -, rfl⟩ := he
      refine ⟨?_, ?_⟩
      · rintro d ⟨⟩
        rcases hc with rfl | rfl <;> rfl
      · intro h
        obtain rfl : c = '.' := Option.some.inj h
        simp at hc

/-- A numeral is read as it is spelled. -/
theorem readNumeral_append {s t : Text} {n : Numeral} (h : SpellsNumeral s n)
    (ht : EndsNumeral t) : readNumeral atEnd (s ++ t) = .ok (n, t) := by
  obtain ⟨negative, whole, fraction, exponent⟩ := n
  obtain ⟨hwhole, f, e, hf, he, rfl⟩ := h
  obtain ⟨hnoDigit, hpoint⟩ := head?_exponent he ht
  have hreadWhole := readWhole_append atEnd hwhole (noDigit_fraction hf hnoDigit)
  have hreadFraction := readFraction_append atEnd hf hnoDigit hpoint
  have hreadExponent := readExponent_append atEnd he ht
  cases negative with
  | true =>
      simp [readNumeral, hreadWhole, hreadFraction, hreadExponent, bind, Except.bind, pure,
        Except.pure]
  | false =>
      obtain ⟨c, rest, rfl, hc⟩ := isDigit_head_of_isWhole hwhole
      have hsign : c ≠ '-' := ne_of_isDigit rfl hc
      simp only [List.cons_append] at hreadWhole
      simp [readNumeral, hsign, hreadWhole, hreadFraction, hreadExponent, bind, Except.bind, pure,
        Except.pure]

end Numerals

/-! ## Values that are skipped -/

theorem endsNumeral_cons {c : Char} (hdigit : c.isDigit = false)
    (hc : c ≠ '.' ∧ c ≠ 'e' ∧ c ≠ 'E') (t : Text) : EndsNumeral (c :: t) := by
  rintro d ⟨⟩
  exact ⟨hdigit, hc⟩

/-- Behind blanks, what does not go on with a numeral ends it. -/
theorem endsNumeral_append {b t : Text} (hb : IsBlanks b) (ht : EndsNumeral t) :
    EndsNumeral (b ++ t) := by
  cases b with
  | nil => exact ht
  | cons c b =>
      rcases hb c List.mem_cons_self with rfl | rfl | rfl | rfl <;>
        exact endsNumeral_cons rfl (by decide) _

/-- Behind an item stand blanks, a comma or the bracket, all of which end a numeral. -/
theorem SpellsItems.endsNumeral {t : Text} {vs : List Json} (h : SpellsItems false t vs)
    (rest : Text) : EndsNumeral (t ++ rest) := by
  cases h with
  | close hb =>
      rw [List.append_assoc]
      exact endsNumeral_append hb (endsNumeral_cons rfl (by decide) _)
  | item hd hs ht =>
      obtain ⟨a, b, ha, hb, rfl⟩ := hd
      rw [List.append_assoc, List.append_assoc]
      exact endsNumeral_append ha (endsNumeral_cons rfl (by decide) _)

/-- What is left of a list is never empty, since the bracket is left. -/
theorem SpellsItems.length_pos {isFirst : Bool} {t : Text} {vs : List Json}
    (h : SpellsItems isFirst t vs) : 0 < t.length := by
  cases h with
  | close hb => simp
  | item hd hs ht =>
      obtain ⟨c, s, rfl, -⟩ := hs.exists_cons
      simp only [List.length_append, List.length_cons]
      omega

/-- What is left of an object is never empty, since the brace is left. -/
theorem SpellsMembers.length_pos {isFirst : Bool} {t : Text} {ms : List (String × Json)}
    (h : SpellsMembers isFirst t ms) : 0 < t.length := by
  cases h with
  | close hb => simp
  | member hd hk he hs ht =>
      obtain ⟨c, s, rfl, -⟩ := hs.exists_cons
      simp only [List.length_append, List.length_cons]
      omega

/-- An object is spelled with at least as many characters as it has members. -/
theorem SpellsMembers.length_le {isFirst : Bool} {t : Text} {ms : List (String × Json)}
    (h : SpellsMembers isFirst t ms) : ms.length ≤ t.length := by
  induction ms generalizing isFirst t with
  | nil => exact Nat.zero_le _
  | cons m ms ih =>
      cases h with
      | member hd hk he hs ht =>
          obtain ⟨c, s, rfl, -⟩ := hs.exists_cons
          have hrest := ih ht
          simp only [List.length_append, List.length_cons]
          omega

/-- Behind a member stand blanks, a comma or the brace, all of which end a numeral. -/
theorem SpellsMembers.endsNumeral {t : Text} {ms : List (String × Json)}
    (h : SpellsMembers false t ms) (rest : Text) : EndsNumeral (t ++ rest) := by
  cases h with
  | close hb =>
      rw [List.append_assoc]
      exact endsNumeral_append hb (endsNumeral_cons rfl (by decide) _)
  | member hd hk he hs ht =>
      obtain ⟨a, b, ha, hb, rfl⟩ := hd
      rw [List.append_assoc, List.append_assoc]
      exact endsNumeral_append ha (endsNumeral_cons rfl (by decide) _)

/-- Blanks are dropped up to the value behind them. -/
theorem dropBlanks_spells {a s : Text} {v : Json} (ha : IsBlanks a) (hs : Spells s v)
    (t : Text) : dropBlanks (a ++ (s ++ t)) = s ++ t := by
  obtain ⟨c, s, rfl, hc⟩ := hs.exists_cons
  exact dropBlanks_append_cons ha hc.isBlank _

/-- With some fuel the spelled values are skipped whose length the fuel allows. -/
def SkipsValues (fuel : Nat) : Prop :=
  ∀ {a s t : Text} {v : Json}, IsBlanks a → Spells s v → EndsNumeral t →
    2 * s.length + 1 ≤ fuel → skipValueWith fuel (a ++ (s ++ t)) = .ok t

/-- With some fuel the items of an array are skipped whose length the fuel allows. -/
def SkipsItems (fuel : Nat) : Prop :=
  ∀ {a s u t : Text} {v : Json} {vs : List Json}, IsBlanks a → Spells s v →
    SpellsItems false u vs → 2 * (s ++ u).length ≤ fuel →
    skipItemsWith fuel (a ++ (s ++ (u ++ t))) = .ok t

/-- With some fuel the members of an object are skipped whose length the fuel allows. -/
def SkipsMembers (fuel : Nat) : Prop :=
  ∀ {a k e s u t : Text} {name : String} {v : Json} {ms : List (String × Json)}, IsBlanks a →
    SpellsString k name → IsColon e → Spells s v → SpellsMembers false u ms →
    2 * (k ++ (e ++ (s ++ u))).length ≤ fuel →
    skipMembersWith fuel (a ++ (k ++ (e ++ (s ++ (u ++ t))))) = .ok t

/-- Blanks in front of a value do not matter to skipping it. -/
theorem skipValueWith_blanks {fuel : Nat} {a : Text} (ha : IsBlanks a) (t : Text) :
    skipValueWith (fuel + 1) (a ++ t) = skipValueWith (fuel + 1) t := by
  rw [skipValueWith, skipValueWith, dropBlanks_append ha]

/-- A string is skipped up to its closing quotation mark. -/
theorem skipValueWith_string {fuel : Nat} {s t : Text} {k : String} (h : SpellsString s k) :
    skipValueWith (fuel + 1) (s ++ t) = .ok t := by
  cases h with
  | quoted h =>
      rw [List.cons_append, skipValueWith, dropBlanks_cons rfl]
      exact skipStringBody_append h t

/-- A value that opens with a hyphen or a digit is skipped as a numeral, since no value of another
kind opens so. -/
theorem skipValueWith_number {fuel : Nat} {c : Char} (hc : c = '-' ∨ c.isDigit = true) (t : Text) :
    skipValueWith (fuel + 1) (c :: t) = (readNumeral .invalidNumber (c :: t)).map (·.2) := by
  have hopens : OpensWith c (.number default) := hc
  rw [skipValueWith, dropBlanks_cons hopens.isBlank]
  split
  case h_8 heq =>
      cases heq
      exact if_pos hc
  all_goals
    next heq => cases heq <;> exact absurd hc (by decide)

/-- A list is skipped if its items are. -/
theorem skipValueWith_array {fuel : Nat} (hitems : SkipsItems fuel) {u t : Text}
    {vs : List Json} (h : SpellsItems true u vs) (hfuel : 2 * u.length ≤ fuel) :
    skipValueWith (fuel + 1) ('[' :: (u ++ t)) = .ok t := by
  rw [skipValueWith, dropBlanks_cons rfl]
  cases h with
  | close hb =>
      rw [List.append_assoc, List.singleton_append]
      simp only [dropBlanks_append_cons (c := ']') hb rfl]
  | @item _ d s u v vs hd hs hu =>
      rw [List.append_assoc, List.append_assoc]
      simp only [dropBlanks_spells hd hs]
      split
      · next heq => exact absurd heq (hs.append_ne_nil _)
      · next heq => exact absurd heq (hs.append_ne_close _ _)
      · exact hitems isBlanks_nil hs hu (by simp only [List.length_append] at hfuel ⊢; omega)

/-- An object is skipped if its members are. -/
theorem skipValueWith_object {fuel : Nat} (hmembers : SkipsMembers fuel) {u t : Text}
    {ms : List (String × Json)} (h : SpellsMembers true u ms) (hfuel : 2 * u.length ≤ fuel) :
    skipValueWith (fuel + 1) ('\x7b' :: (u ++ t)) = .ok t := by
  rw [skipValueWith, dropBlanks_cons rfl]
  cases h with
  | close hb =>
      rw [List.append_assoc, List.singleton_append]
      simp only [dropBlanks_append_cons (c := '\x7d') hb rfl]
  | @member _ d k e s u name v ms hd hk he hs hu =>
      cases hk with
      | @quoted k _ hk =>
          have hdrop : ∀ r, dropBlanks (d ++ ('"' :: k ++ r)) = '"' :: k ++ r := fun r =>
            dropBlanks_append_cons hd rfl _
          simp only [List.append_assoc, hdrop]
          exact hmembers isBlanks_nil (.quoted hk) he hs hu
            (by simp only [List.length_append] at hfuel ⊢; omega)

/-- Values are skipped with one more step of fuel than what they hold. -/
theorem skipsValues_succ {fuel : Nat} (hitems : SkipsItems fuel) (hmembers : SkipsMembers fuel) :
    SkipsValues (fuel + 1) := by
  intro a s t v ha hs ht hfuel
  rw [skipValueWith_blanks ha]
  cases hs with
  | null => rfl
  | bool b => cases b <;> rfl
  | number h =>
      obtain ⟨c, r, hcr, hc⟩ := (Spells.number h).exists_cons
      have hread := readNumeral_append .invalidNumber h ht
      rw [hcr, List.cons_append] at hread ⊢
      rw [skipValueWith_number hc, hread]
      rfl
  | string h => exact skipValueWith_string h
  | array h =>
      exact skipValueWith_array hitems h (by simp only [List.length_cons] at hfuel; omega)
  | object h =>
      exact skipValueWith_object hmembers h (by simp only [List.length_cons] at hfuel; omega)

/-- Items are skipped with one more step of fuel than the first value and the other items. -/
theorem skipsItems_succ {fuel : Nat} (hvalues : SkipsValues fuel) (hitems : SkipsItems fuel) :
    SkipsItems (fuel + 1) := by
  intro a s u t v vs ha hs hu hfuel
  have hpos := hu.length_pos
  simp only [List.length_append] at hfuel
  rw [skipItemsWith, hvalues ha hs (hu.endsNumeral t) (by omega)]
  simp only [bind, Except.bind]
  cases hu with
  | close hb =>
      rw [List.append_assoc, List.singleton_append]
      simp only [dropBlanks_append_cons (c := ']') hb rfl]
      rfl
  | item hd hs' hu =>
      obtain ⟨b, c, hb, hc, rfl⟩ := hd
      simp only [List.append_assoc, List.cons_append]
      simp only [dropBlanks_append_cons (c := ',') hb rfl]
      exact hitems hc hs' hu (by simp only [List.length_append, List.length_cons] at hfuel ⊢; omega)

/-- Members are skipped with one more step of fuel than the first value and the other members. -/
theorem skipsMembers_succ {fuel : Nat} (hvalues : SkipsValues fuel)
    (hmembers : SkipsMembers fuel) : SkipsMembers (fuel + 1) := by
  intro a k e s u t name v ms ha hk he hs hu hfuel
  have hpos := hu.length_pos
  cases hk with
  | quoted hk =>
      simp only [List.length_append, List.length_cons] at hfuel
      obtain ⟨b, hb, hcolon⟩ := expectColon_append he (s ++ (u ++ t))
      rw [skipMembersWith, List.cons_append, dropBlanks_append_cons ha rfl]
      simp only [skipStringBody_append hk, hcolon, hvalues hb hs (hu.endsNumeral t) (by omega),
        bind, Except.bind]
      cases hu with
      | close hb =>
          rw [List.append_assoc, List.singleton_append]
          simp only [dropBlanks_append_cons (c := '\x7d') hb rfl]
          rfl
      | member hd hk' he' hs' hu =>
          obtain ⟨b, c, hb, hc, rfl⟩ := hd
          simp only [List.append_assoc, List.cons_append]
          simp only [dropBlanks_append_cons (c := ',') hb rfl]
          exact hmembers hc hk' he' hs' hu
            (by simp only [List.length_append, List.length_cons] at hfuel ⊢; omega)

/-- Fuel for twice the length of what is spelled is enough to skip it.  Values hold items and
members, and these hold values, so the three go down together; and what is spelled is never empty,
so without fuel nothing has to be skipped. -/
theorem skips (fuel : Nat) : SkipsValues fuel ∧ SkipsItems fuel ∧ SkipsMembers fuel := by
  induction fuel with
  | zero =>
      refine ⟨?_, ?_, ?_⟩
      · intro a s t v ha hs ht hfuel
        omega
      · intro a s u t v vs ha hs hu hfuel
        have hpos := hu.length_pos
        simp only [List.length_append] at hfuel
        omega
      · intro a k e s u t name v ms ha hk he hs hu hfuel
        have hpos := hu.length_pos
        simp only [List.length_append] at hfuel
        omega
  | succ fuel ih =>
      obtain ⟨hvalues, hitems, hmembers⟩ := ih
      exact ⟨skipsValues_succ hitems hmembers, skipsItems_succ hvalues hitems,
        skipsMembers_succ hvalues hmembers⟩

/-- A spelled value is skipped, whatever its depth. -/
theorem skipValue_append {a s t : Text} {v : Json} (ha : IsBlanks a) (hs : Spells s v)
    (ht : EndsNumeral t) : skipValue (a ++ (s ++ t)) = .ok t :=
  (skips _).1 ha hs ht (by simp only [List.length_append]; omega)

end Json
end LmntalServer
