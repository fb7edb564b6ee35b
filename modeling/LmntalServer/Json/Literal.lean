import LmntalServer.Json.Basic
import LmntalServer.Json.Fault
import LmntalServer.Text.Hex

/-!
# The lexical parts of JSON text

Blanks, strings, numerals and the three named literals.  Each reader takes the text that is left
and gives what it read with what is then left.

Main definitions:

* `Json.dropBlanks`, `Json.readWord`, `Json.readStringBody`, `Json.readNumeral`.
* `Json.skipStringBody`: a string of which only the end matters.

Main results:

* `Json.length_readEscape`, `Json.length_skipEscape`: reading an escape goes forward.
-/

namespace LmntalServer
namespace Json

/-! ## Blanks and words -/

/-- The characters that may stand between the parts of a JSON text. -/
def isBlank (c : Char) : Bool :=
  c = ' ' || c = '\n' || c = '\t' || c = '\r'

/-- A text without the blanks in front. -/
def dropBlanks (t : Text) : Text :=
  t.dropWhile isBlank

/-- Reads the characters of a named literal. -/
def readWord : (word t : Text) → Except Fault Text
  | [], t => .ok t
  | _ :: _, [] => .error (.behind .endInValue [])
  | w :: word, c :: t =>
      if c = w then readWord word t else .error (.atNext .expectedLiteral (c :: t))

/-! ## Strings -/

/-- Reads four hexadecimal digits, a code unit. -/
def readUnit (t : Text) : Except Fault (Nat × Text) :=
  match t with
  | a :: b :: c :: d :: rest =>
      match hexValue? a, hexValue? b, hexValue? c, hexValue? d with
      | some w, some x, some y, some z => .ok (((w * 16 + x) * 16 + y) * 16 + z, rest)
      | _, _, _, _ => .error (fault t)
  | _ => .error (fault t)
where
  /-- Four bytes belong to the code unit, as far as there are as many. -/
  fault (t : Text) : Fault :=
    if t.bytes < 4 then .behind .endInString [] else ⟨.invalidEscape, t, 4⟩

/-- Whether a code unit is the first half of a surrogate pair. -/
def isHighSurrogate (n : Nat) : Bool :=
  0xD800 ≤ n && n ≤ 0xDBFF

/-- Whether a code unit is the second half of a surrogate pair. -/
def isLowSurrogate (n : Nat) : Bool :=
  0xDC00 ≤ n && n ≤ 0xDFFF

/-- The character of a surrogate pair. -/
def charOfPair (high low : Nat) : Char :=
  Char.ofNat (0x10000 + (high - 0xD800) * 0x400 + (low - 0xDC00))

/-- Reads a character of the escape that must follow the first half of a pair. -/
def readSurrogateSign (sign : Char) : Text → Except Fault Text
  | [] => .error (.behind .endInString [])
  | c :: t => if c = sign then .ok t else .error (.atNext .unpairedSurrogate (c :: t))

/-- Reads the code unit of an escape, and a second one if it is the first half of a pair. -/
def readUnicodeEscape (t : Text) : Except Fault (Char × Text) := do
  let (n, t) ← readUnit t
  if isLowSurrogate n then throw (.behind .loneSurrogate t)
  if isHighSurrogate n then
    let t ← readSurrogateSign '\\' t
    let t ← readSurrogateSign 'u' t
    let (m, t) ← readUnit t
    if isLowSurrogate m then return (charOfPair n m, t)
    throw (.behind .loneSurrogate t)
  return (Char.ofNat n, t)

/-- The character that a letter stands for after a backslash. -/
def escaped? (c : Char) : Option Char :=
  match c with
  | '"' => some '"'
  | '\\' => some '\\'
  | '/' => some '/'
  | 'b' => some '\x08'
  | 'f' => some '\x0c'
  | 'n' => some '\n'
  | 'r' => some '\r'
  | 't' => some '\t'
  | _ => none

/-- Reads what follows a backslash. -/
def readEscape : Text → Except Fault (Char × Text)
  | [] => .error (.behind .endInString [])
  | 'u' :: t => readUnicodeEscape t
  | c :: t =>
      match escaped? c with
      | some d => .ok (d, t)
      | none => .error (.atNext .invalidEscape (c :: t))

theorem length_readUnit {t rest : Text} {n : Nat} (h : readUnit t = .ok (n, rest)) :
    rest.length < t.length := by
  unfold readUnit at h
  split at h
  · split at h
    · cases h
      simp only [List.length_cons]
      omega
    · cases h
  · cases h

theorem length_readSurrogateSign {sign : Char} {t rest : Text}
    (h : readSurrogateSign sign t = .ok rest) : rest.length < t.length := by
  cases t with
  | nil => cases h
  | cons c t =>
      simp only [readSurrogateSign] at h
      split at h
      · cases h
        exact Nat.lt_succ_self _
      · cases h

theorem length_readUnicodeEscape {t rest : Text} {c : Char}
    (h : readUnicodeEscape t = .ok (c, rest)) : rest.length < t.length := by
  simp only [readUnicodeEscape, bind, Except.bind, pure, Except.pure, throw, throwThe,
    MonadExceptOf.throw] at h
  split at h
  · cases h
  · next r hr =>
      have h₁ := length_readUnit (show readUnit _ = .ok (r.1, r.2) from hr)
      split at h
      · cases h
      · split at h
        · split at h
          · cases h
          · next t₂ ht₂ =>
              have h₂ := length_readSurrogateSign ht₂
              split at h
              · cases h
              · next t₃ ht₃ =>
                  have h₃ := length_readSurrogateSign ht₃
                  split at h
                  · cases h
                  · next s hs =>
                      have h₄ := length_readUnit (show readUnit _ = .ok (s.1, s.2) from hs)
                      split at h
                      · rw [← (Prod.mk.inj (Except.ok.inj h)).2]
                        omega
                      · cases h
        · rw [← (Prod.mk.inj (Except.ok.inj h)).2]
          exact h₁

theorem length_readEscape {t rest : Text} {c : Char} (h : readEscape t = .ok (c, rest)) :
    rest.length < t.length := by
  unfold readEscape at h
  split at h
  · cases h
  · have := length_readUnicodeEscape h
    simp only [List.length_cons]
    omega
  · split at h
    · cases h
      exact Nat.lt_succ_self _
    · cases h

/-- Reads a string after its opening quotation mark. -/
def readStringBody (t : Text) : Except Fault (Text × Text) :=
  match t with
  | [] => .error (.behind .endInString [])
  | '"' :: t => .ok ([], t)
  | '\\' :: t =>
      match h : readEscape t with
      | .error f => .error f
      | .ok (c, rest) =>
          have := length_readEscape h
          (readStringBody rest).map fun r => (c :: r.1, r.2)
  | c :: t =>
      if c.toNat < 0x20 then .error (.atNext .controlCharacter (c :: t))
      else (readStringBody t).map fun r => (c :: r.1, r.2)
termination_by t.length
decreasing_by
  · simp only [List.length_cons]
    omega
  · exact Nat.lt_succ_self _

/-- Skips what follows a backslash.  Code units need not be paired. -/
def skipEscape : Text → Except Fault Text
  | [] => .error (.behind .endInString [])
  | 'u' :: t => (readUnit t).map (·.2)
  | c :: t =>
      match escaped? c with
      | some _ => .ok t
      | none => .error (.atNext .invalidEscape (c :: t))

theorem length_skipEscape {t rest : Text} (h : skipEscape t = .ok rest) :
    rest.length < t.length := by
  unfold skipEscape at h
  split at h
  · cases h
  · next t =>
      cases hu : readUnit t with
      | error f => rw [hu] at h; cases h
      | ok r =>
          rw [hu] at h
          cases h
          have := length_readUnit (show readUnit _ = .ok (r.1, r.2) from hu)
          simp only [List.length_cons]
          omega
  · split at h
    · cases h
      exact Nat.lt_succ_self _
    · cases h

/-- Skips a string after its opening quotation mark. -/
def skipStringBody (t : Text) : Except Fault Text :=
  match t with
  | [] => .error (.behind .endInString [])
  | '"' :: t => .ok t
  | '\\' :: t =>
      match h : skipEscape t with
      | .error f => .error f
      | .ok rest =>
          have := length_skipEscape h
          skipStringBody rest
  | c :: t =>
      if c.toNat < 0x20 then .error (.behind .controlCharacter (c :: t)) else skipStringBody t
termination_by t.length
decreasing_by
  · simp only [List.length_cons]
    omega
  · exact Nat.lt_succ_self _

/-! ## Numerals -/

/-- Reads the digits before the point: a zero alone, or digits of which the first is not zero.
The cause tells what the end of the text is. -/
def readWhole (atEnd : Fault.Cause) : Text → Except Fault (Text × Text)
  | [] => .error (.behind atEnd [])
  | '0' :: t =>
      if t.head?.any Char.isDigit then .error (.atNext .invalidNumber t) else .ok (['0'], t)
  | c :: t =>
      if c.isDigit then .ok (c :: t.takeWhile Char.isDigit, t.dropWhile Char.isDigit)
      else .error (.atNext .invalidNumber (c :: t))

/-- Reads a point and the digits after it, if there is a point. -/
def readFraction (atEnd : Fault.Cause) : Text → Except Fault (Option Text × Text)
  | '.' :: t =>
      let digits := t.takeWhile Char.isDigit
      if digits = [] then
        .error (.atNext (if t = [] then atEnd else .invalidNumber) t)
      else .ok (some digits, t.dropWhile Char.isDigit)
  | t => .ok (none, t)

/-- Reads the sign of an exponent. -/
def readSign : Text → Bool × Text
  | '+' :: t => (false, t)
  | '-' :: t => (true, t)
  | t => (false, t)

/-- Reads an exponent, if there is one. -/
def readExponent (atEnd : Fault.Cause) (t : Text) :
    Except Fault (Option (Bool × Text) × Text) :=
  match t with
  | c :: rest =>
      if c = 'e' ∨ c = 'E' then
        let (negative, rest) := readSign rest
        match rest with
        | [] => .error (.behind atEnd [])
        | d :: _ =>
            if d.isDigit then
              .ok (some (negative, rest.takeWhile Char.isDigit), rest.dropWhile Char.isDigit)
            else .error (.atNext .invalidNumber rest)
      else .ok (none, t)
  | [] => .ok (none, [])

/-- Reads a numeral. -/
def readNumeral (atEnd : Fault.Cause) (t : Text) : Except Fault (Numeral × Text) := do
  let (negative, t) :=
    match t with
    | '-' :: t => (true, t)
    | t => (false, t)
  let (whole, t) ← readWhole atEnd t
  let (fraction, t) ← readFraction atEnd t
  let (exponent, t) ← readExponent atEnd t
  return (⟨negative, whole, fraction, exponent⟩, t)

end Json
end LmntalServer
