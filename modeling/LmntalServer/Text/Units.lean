/-!
# Texts and their measures

A document is edited by characters, addressed by its client in UTF-16 code units, and indexed by
the scanner in UTF-8 bytes.  This module fixes the representation of a text, the sequence of its
characters, and the two measures that the other modules convert between.

Main definitions:

* `Text`: the characters of a text in order.
* `Text.units`, `Text.bytes`: its length in UTF-16 code units and in UTF-8 bytes.
* `Text.indexOfUnit`: the character that holds a given code unit.
-/

namespace LmntalServer

/-- A text: its characters in order. -/
abbrev Text := List Char

/-- The number of UTF-16 code units of a character: two above the Basic Multilingual Plane. -/
def charUnits (c : Char) : Nat :=
  if c.toNat < 0x10000 then 1 else 2

theorem charUnits_pos (c : Char) : 0 < charUnits c := by
  unfold charUnits
  split <;> omega

theorem charUnits_le_two (c : Char) : charUnits c ≤ 2 := by
  unfold charUnits
  split <;> omega

namespace Text

/-! ## Lengths -/

/-- The length of a text in UTF-16 code units. -/
def units : Text → Nat
  | [] => 0
  | c :: t => charUnits c + units t

/-- The length of a text in UTF-8 bytes. -/
def bytes : Text → Nat
  | [] => 0
  | c :: t => c.utf8Size + bytes t

@[simp]
theorem units_nil : units [] = 0 :=
  rfl

@[simp]
theorem units_cons (c : Char) (t : Text) : units (c :: t) = charUnits c + units t :=
  rfl

@[simp]
theorem units_append (s t : Text) : units (s ++ t) = units s + units t := by
  induction s with
  | nil => simp
  | cons c s ih => simp [ih, Nat.add_assoc]

@[simp]
theorem bytes_nil : bytes [] = 0 :=
  rfl

@[simp]
theorem bytes_cons (c : Char) (t : Text) : bytes (c :: t) = c.utf8Size + bytes t :=
  rfl

@[simp]
theorem bytes_append (s t : Text) : bytes (s ++ t) = bytes s + bytes t := by
  induction s with
  | nil => simp
  | cons c s ih => simp [ih, Nat.add_assoc]

/-- Every character takes at least one code unit. -/
theorem length_le_units (t : Text) : t.length ≤ units t := by
  induction t with
  | nil => simp
  | cons c t ih =>
      have := charUnits_pos c
      simp only [List.length_cons, units_cons]
      omega

/-- Characters of one code unit each take as many code units as there are of them. -/
theorem units_eq_length {a : Text} (ha : ∀ c ∈ a, charUnits c = 1) : units a = a.length := by
  induction a with
  | nil => rfl
  | cons c a ih =>
      rw [units_cons, ha c List.mem_cons_self, ih fun d hd => ha d (List.mem_cons_of_mem _ hd),
        List.length_cons, Nat.add_comm]

/-- A character of one code unit takes as many code units as it is repeated. -/
theorem units_replicate {c : Char} (hc : charUnits c = 1) (n : Nat) :
    units (List.replicate n c) = n := by
  have hall : ∀ d ∈ List.replicate n c, charUnits d = 1 := by
    intro d hd
    rwa [List.eq_of_mem_replicate hd]
  rw [units_eq_length hall, List.length_replicate]

/-! ## From code units to characters -/

/-- The index of the character that holds the code unit `u`, which is the number of characters
that end at or before `u`; the second half of a surrogate pair belongs to the pair's character,
and units past the end give the length of the text. -/
def indexOfUnit : Text → Nat → Nat
  | [], _ => 0
  | c :: t, u => if charUnits c ≤ u then indexOfUnit t (u - charUnits c) + 1 else 0

@[simp]
theorem indexOfUnit_nil (u : Nat) : indexOfUnit [] u = 0 :=
  rfl

theorem indexOfUnit_le_length (t : Text) (u : Nat) : indexOfUnit t u ≤ t.length := by
  induction t generalizing u with
  | nil => simp
  | cons c t ih =>
      simp only [indexOfUnit, List.length_cons]
      split
      · exact Nat.succ_le_succ (ih _)
      · exact Nat.zero_le _

/-- The unit at which a character starts belongs to that character. -/
theorem indexOfUnit_units_take (t : Text) {i : Nat} (h : i ≤ t.length) :
    indexOfUnit t (units (t.take i)) = i := by
  induction t generalizing i with
  | nil => simp_all
  | cons c t ih =>
      cases i with
      | zero =>
          have := charUnits_pos c
          simp [indexOfUnit]
          omega
      | succ i =>
          simp only [List.length_cons, Nat.add_le_add_iff_right] at h
          simp [indexOfUnit, ih h]

/-- A unit lies at or after the start of the character that holds it. -/
theorem units_take_indexOfUnit_le (t : Text) (u : Nat) :
    units (t.take (indexOfUnit t u)) ≤ u := by
  induction t generalizing u with
  | nil => simp
  | cons c t ih =>
      simp only [indexOfUnit]
      split
      · next h =>
          have := ih (u - charUnits c)
          simp only [List.take_succ_cons, units_cons]
          omega
      · simp

end Text
end LmntalServer
