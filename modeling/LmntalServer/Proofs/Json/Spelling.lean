import LmntalServer.Json.Basic

/-!
# Spellings of JSON values

One value has many spellings: blanks may stand between the parts, a character of a string may stand
for itself or be escaped, and a number keeps its digits as they are written.  The grammar is stated
here as a relation between texts and values, apart from any reader.

Main definitions:

* `Json.SpellsChar`, `Json.SpellsString`: the spellings of characters and of strings.
* `Json.SpellsNumeral`: the spellings of numerals.
* `Json.Spells`, `Json.SpellsItems`, `Json.SpellsMembers`: the spellings of values, and those of
  the items of an array and the members of an object up to the closing bracket.
* `Json.SpellsText`: a value with blanks around it.

Main results:

* `Json.Spells.exists_cons`: the first character tells the kind of a value.
-/

namespace LmntalServer
namespace Json

/-! ## Characters and strings -/

/-- A text of the characters that may stand between the parts. -/
def IsBlanks (t : Text) : Prop :=
  ∀ c ∈ t, c = ' ' ∨ c = '\t' ∨ c = '\n' ∨ c = '\r'

theorem isBlanks_nil : IsBlanks [] := by
  simp [IsBlanks]

/-- A digit of a number in base sixteen, in lower or upper case. -/
def IsHexDigit (c : Char) (n : Nat) : Prop :=
  "0123456789abcdef".toList[n]? = some c ∨ "0123456789ABCDEF".toList[n]? = some c

/-- Four hexadecimal digits of a code unit. -/
inductive SpellsUnit : Text → Nat → Prop where
  | digits {a b c d : Char} {w x y z : Nat} (ha : IsHexDigit a w) (hb : IsHexDigit b x)
      (hc : IsHexDigit c y) (hd : IsHexDigit d z) :
      SpellsUnit [a, b, c, d] (((w * 16 + x) * 16 + y) * 16 + z)

/-- The letters that may follow a backslash, with the characters that they stand for. -/
def shortEscapes : List (Char × Char) :=
  [('"', '"'), ('\\', '\\'), ('/', '/'), ('b', '\x08'), ('f', '\x0c'), ('n', '\n'), ('r', '\r'),
    ('t', '\t')]

/-- The characters that may stand for themselves inside a string: all but quotation marks,
backslashes and control characters. -/
def IsPlain (c : Char) : Prop :=
  c ≠ '"' ∧ c ≠ '\\' ∧ 0x20 ≤ c.toNat

/-- The spellings of a character inside a string: itself if it is plain, an escape of one letter,
its code unit, or its two surrogates. -/
inductive SpellsChar : Text → Char → Prop where
  | plain {c : Char} (h : IsPlain c) : SpellsChar [c] c
  | letter {e c : Char} (h : (e, c) ∈ shortEscapes) : SpellsChar ['\\', e] c
  | unit {s : Text} {c : Char} (h : SpellsUnit s c.toNat) : SpellsChar ('\\' :: 'u' :: s) c
  | pair {s t : Text} {high low : Nat} {c : Char} (hs : SpellsUnit s high) (ht : SpellsUnit t low)
      (hhigh : 0xD800 ≤ high ∧ high ≤ 0xDBFF) (hlow : 0xDC00 ≤ low ∧ low ≤ 0xDFFF)
      (hc : c.toNat = 0x10000 + (high - 0xD800) * 0x400 + (low - 0xDC00)) :
      SpellsChar ('\\' :: 'u' :: s ++ '\\' :: 'u' :: t) c

/-- The spellings of the characters of a string, with the quotation mark after them. -/
inductive SpellsBody : Text → Text → Prop where
  | quote : SpellsBody ['"'] []
  | char {s t cs : Text} {c : Char} (hs : SpellsChar s c) (ht : SpellsBody t cs) :
      SpellsBody (s ++ t) (c :: cs)

/-- The spellings of a string. -/
inductive SpellsString : Text → String → Prop where
  | quoted {t : Text} {s : String} (h : SpellsBody t s.toList) : SpellsString ('"' :: t) s

/-- Plain characters spell themselves in a string. -/
theorem spellsBody_plain {cs : Text} (h : ∀ c ∈ cs, IsPlain c) : SpellsBody (cs ++ ['"']) cs := by
  induction cs with
  | nil => exact .quote
  | cons c cs ih =>
      obtain ⟨hc, hcs⟩ := List.forall_mem_cons.1 h
      exact .char (s := [c]) (.plain hc) (ih hcs)

/-- A string of plain characters is spelled by itself between quotation marks. -/
theorem spellsString_plain {s : String} (h : ∀ c ∈ s.toList, IsPlain c) :
    SpellsString ('"' :: (s.toList ++ ['"'])) s :=
  .quoted (spellsBody_plain h)

/-! ## Numerals -/

/-- At least one decimal digit. -/
def IsDigits (t : Text) : Prop :=
  t ≠ [] ∧ ∀ c ∈ t, c.isDigit = true

/-- The digits before the point: a zero alone, or digits of which the first is not zero. -/
def IsWhole (t : Text) : Prop :=
  t = ['0'] ∨ IsDigits t ∧ t.head? ≠ some '0'

/-- The spelling of the point and the digits after it. -/
def SpellsFraction (s : Text) : Option Text → Prop
  | none => s = []
  | some digits => IsDigits digits ∧ s = '.' :: digits

/-- The spellings of the sign of an exponent. -/
def SpellsSign (s : Text) (negative : Bool) : Prop :=
  if negative then s = ['-'] else s = [] ∨ s = ['+']

/-- The spellings of an exponent. -/
def SpellsExponent (s : Text) : Option (Bool × Text) → Prop
  | none => s = []
  | some (negative, digits) =>
      IsDigits digits ∧
        ∃ e sign, (e = 'e' ∨ e = 'E') ∧ SpellsSign sign negative ∧ s = e :: sign ++ digits

/-- The spellings of a numeral. -/
def SpellsNumeral (s : Text) (n : Numeral) : Prop :=
  IsWhole n.whole ∧
    ∃ f e, SpellsFraction f n.fraction ∧ SpellsExponent e n.exponent ∧
      s = (if n.negative then ['-'] else []) ++ n.whole ++ f ++ e

/-! ## Values -/

/-- What stands in front of an item or a member: blanks, and a comma unless it is the first. -/
def IsSeparator (t : Text) (isFirst : Bool) : Prop :=
  if isFirst then IsBlanks t else ∃ a b, IsBlanks a ∧ IsBlanks b ∧ t = a ++ ',' :: b

/-- The colon between a name and a value, with blanks around it. -/
def IsColon (t : Text) : Prop :=
  ∃ a b, IsBlanks a ∧ IsBlanks b ∧ t = a ++ ':' :: b

mutual

/-- The spellings of a value. -/
inductive Spells : Text → Json → Prop where
  | null : Spells "null".toList .null
  | bool (b : Bool) : Spells (if b then "true" else "false").toList (.bool b)
  | number {s : Text} {n : Numeral} (h : SpellsNumeral s n) : Spells s (.number n)
  | string {s : Text} {k : String} (h : SpellsString s k) : Spells s (.string k)
  | array {t : Text} {vs : List Json} (h : SpellsItems true t vs) : Spells ('[' :: t) (.array vs)
  | object {t : Text} {ms : List (String × Json)} (h : SpellsMembers true t ms) :
      Spells ('\x7b' :: t) (.object ms)

/-- The spellings of the items of an array that are left, with the bracket after them. -/
inductive SpellsItems : Bool → Text → List Json → Prop where
  | close {isFirst : Bool} {b : Text} (hb : IsBlanks b) : SpellsItems isFirst (b ++ [']']) []
  | item {isFirst : Bool} {d s t : Text} {v : Json} {vs : List Json} (hd : IsSeparator d isFirst)
      (hs : Spells s v) (ht : SpellsItems false t vs) :
      SpellsItems isFirst (d ++ (s ++ t)) (v :: vs)

/-- The spellings of the members of an object that are left, with the brace after them. -/
inductive SpellsMembers : Bool → Text → List (String × Json) → Prop where
  | close {isFirst : Bool} {b : Text} (hb : IsBlanks b) : SpellsMembers isFirst (b ++ ['\x7d']) []
  | member {isFirst : Bool} {d k e s t : Text} {name : String} {v : Json}
      {ms : List (String × Json)} (hd : IsSeparator d isFirst) (hk : SpellsString k name)
      (he : IsColon e) (hs : Spells s v) (ht : SpellsMembers false t ms) :
      SpellsMembers isFirst (d ++ (k ++ (e ++ (s ++ t)))) ((name, v) :: ms)

end

/-- The spellings of a value as a whole text. -/
def SpellsText (t : Text) (v : Json) : Prop :=
  ∃ a s b, IsBlanks a ∧ Spells s v ∧ IsBlanks b ∧ t = a ++ (s ++ b)

/-! ## First characters -/

/-- Whether a spelling of a value may begin with a character. -/
def OpensWith (c : Char) : Json → Prop
  | null => c = 'n'
  | bool b => c = if b then 't' else 'f'
  | number _ => c = '-' ∨ c.isDigit = true
  | string _ => c = '"'
  | array _ => c = '['
  | object _ => c = '\x7b'

/-- There is a digit before the point. -/
theorem isDigit_head_of_isWhole {t : Text} (h : IsWhole t) :
    ∃ c rest, t = c :: rest ∧ c.isDigit = true := by
  rcases h with rfl | ⟨⟨hne, hdigits⟩, -⟩
  · exact ⟨'0', [], rfl, rfl⟩
  · obtain ⟨c, rest, rfl⟩ := List.exists_cons_of_ne_nil hne
    exact ⟨c, rest, rfl, hdigits c List.mem_cons_self⟩

/-- The first character tells the kind of a value. -/
theorem Spells.exists_cons {s : Text} {v : Json} (h : Spells s v) :
    ∃ c t, s = c :: t ∧ OpensWith c v := by
  cases h with
  | null => exact ⟨'n', "ull".toList, rfl, rfl⟩
  | bool b =>
      cases b with
      | false => exact ⟨'f', "alse".toList, rfl, rfl⟩
      | true => exact ⟨'t', "rue".toList, rfl, rfl⟩
  | @number _ n h =>
      obtain ⟨hwhole, f, e, -, -, rfl⟩ := h
      cases n.negative with
      | true => exact ⟨'-', n.whole ++ f ++ e, rfl, Or.inl rfl⟩
      | false =>
          obtain ⟨c, rest, hw, hc⟩ := isDigit_head_of_isWhole hwhole
          exact ⟨c, rest ++ f ++ e, by rw [hw]; rfl, Or.inr hc⟩
  | string h =>
      cases h with
      | quoted h => exact ⟨'"', _, rfl, rfl⟩
  | array h => exact ⟨'[', _, rfl, rfl⟩
  | object h => exact ⟨'\x7b', _, rfl, rfl⟩

section OpensWith

variable {c : Char} {v : Json}

theorem ne_of_isDigit {d : Char} (hd : d.isDigit = false) (h : c.isDigit = true) : c ≠ d := by
  rintro rfl
  exact Bool.false_ne_true (hd.symm.trans h)

/-- No value begins with a character that is none of the openings. -/
theorem OpensWith.ne {d : Char} (h : OpensWith c v) (hmem : d ∉ "ntf-\"[\x7b".toList)
    (hd : d.isDigit = false) : c ≠ d := by
  rintro rfl
  cases v with
  | bool b => cases b <;> exact hmem (by rw [show c = _ from h]; decide)
  | number n =>
      rcases h with rfl | h
      · exact hmem (by decide)
      · exact ne_of_isDigit hd h rfl
  | _ => exact hmem (by rw [show c = _ from h]; decide)

/-- Only strings open with a quotation mark. -/
theorem exists_string_of_opensWith (h : OpensWith '"' v) : ∃ k, v = .string k := by
  cases v with
  | string k => exact ⟨k, rfl⟩
  | bool b => cases b <;> cases h
  | _ => simp [OpensWith] at h

theorem exists_array_of_opensWith (h : OpensWith '[' v) : ∃ vs, v = .array vs := by
  cases v with
  | array vs => exact ⟨vs, rfl⟩
  | bool b => cases b <;> cases h
  | _ => simp [OpensWith] at h

theorem exists_object_of_opensWith (h : OpensWith '\x7b' v) : ∃ ms, v = .object ms := by
  cases v with
  | object ms => exact ⟨ms, rfl⟩
  | bool b => cases b <;> cases h
  | _ => simp [OpensWith] at h

end OpensWith

/-- A value is spelled with at least one character. -/
theorem Spells.append_ne_nil {s : Text} {v : Json} (h : Spells s v) (t : Text) : s ++ t ≠ [] := by
  obtain ⟨c, s, rfl, -⟩ := h.exists_cons
  exact List.cons_ne_nil _ _

/-- No value begins with the bracket that closes an array. -/
theorem Spells.append_ne_close {s : Text} {v : Json} (h : Spells s v) (t u : Text) :
    s ++ t ≠ ']' :: u := by
  obtain ⟨c, s, rfl, hc⟩ := h.exists_cons
  intro heq
  exact hc.ne (by decide) rfl (List.cons.inj heq).1

end Json
end LmntalServer
