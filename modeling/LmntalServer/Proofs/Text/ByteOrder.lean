import LmntalServer.Dictionary

/-!
# The order of bytes

Strings are ordered by the code points of their characters.  UTF-8 keeps this order: of two strings
the one that comes first by code points also comes first by its bytes.  So the names of a
dictionary are in the order of their bytes.

Main definitions:

* `utf8Bytes`: the bytes of a string.

Main results:

* `utf8EncodeChar_append_lt`: the bytes of two characters decide the order of what begins with
  them.
* `utf8Bytes_lt_of_lt`: the order of bytes is the order of code points.
* `Dictionary.pairwise_utf8Bytes_names`: the names of a dictionary in the order of their bytes.
-/

namespace LmntalServer

/-- The bytes of a string in UTF-8. -/
def utf8Bytes (s : String) : List UInt8 :=
  s.toByteArray.data.toList

/-- The bytes of a string are those of its characters in their order. -/
theorem utf8Bytes_eq_flatMap (s : String) :
    utf8Bytes s = s.toList.flatMap String.utf8EncodeChar := by
  rw [utf8Bytes, ← String.utf8Encode_toList, List.utf8Encode, List.toList_data_toByteArray]

/-! ## Single characters -/

/-- A smaller first byte decides, and the same first byte leaves it to the others. -/
theorem ofNat_cons_lt_of_lt {a b : Nat} (ha : a < 256) (hb : b < 256) {x y : List UInt8}
    (h : a < b ∨ a = b ∧ x < y) : UInt8.ofNat a :: x < UInt8.ofNat b :: y := by
  rw [List.cons_lt_cons_iff]
  rcases h with h | ⟨rfl, hxy⟩
  · left
    rw [UInt8.lt_iff_toNat_lt, UInt8.toNat_ofNat', UInt8.toNat_ofNat', Nat.mod_eq_of_lt ha,
      Nat.mod_eq_of_lt hb]
    exact h
  · exact Or.inr ⟨rfl, hxy⟩

/-- The byte with the last six bits of a code point, as it stands behind other bytes. -/
def continuation (n : Nat) : UInt8 :=
  UInt8.ofNat (n % 0x40 + 0x80)

/-- Of two continuation bytes the six bits that they hold decide. -/
theorem continuation_lt {m n : Nat} (h : m % 0x40 < n % 0x40) (x y : List UInt8) :
    continuation m :: x < continuation n :: y :=
  ofNat_cons_lt_of_lt (by omega) (by omega) (Or.inl (by omega))

/-- Of two pairs of them twelve bits decide. -/
theorem continuation_two_lt {m n : Nat} (h : m % 0x1000 < n % 0x1000) (x y : List UInt8) :
    continuation (m / 64) :: continuation m :: x <
      continuation (n / 64) :: continuation n :: y := by
  refine ofNat_cons_lt_of_lt (by omega) (by omega) ?_
  by_cases hfirst : m / 64 % 0x40 < n / 64 % 0x40
  · exact Or.inl (by omega)
  · exact Or.inr ⟨by omega, continuation_lt (by omega) x y⟩

/-- Of two triples of them eighteen bits decide. -/
theorem continuation_three_lt {m n : Nat} (h : m % 0x40000 < n % 0x40000) (x y : List UInt8) :
    continuation (m / 4096) :: continuation (m / 64) :: continuation m :: x <
      continuation (n / 4096) :: continuation (n / 64) :: continuation n :: y := by
  refine ofNat_cons_lt_of_lt (by omega) (by omega) ?_
  by_cases hfirst : m / 4096 % 0x40 < n / 4096 % 0x40
  · exact Or.inl (by omega)
  · exact Or.inr ⟨by omega, continuation_two_lt (by omega) x y⟩

/-- The bytes of two different characters decide, whatever follows them.  The first byte tells how
many bytes there are, and of as many bytes the digits decide. -/
theorem utf8EncodeChar_append_lt {c d : Char} (h : c < d) (x y : List UInt8) :
    String.utf8EncodeChar c ++ x < String.utf8EncodeChar d ++ y := by
  have hlt : c.val.toNat < d.val.toNat := h
  have hd : d.val.toNat < 0x110000 := by
    have := d.valid
    simp only [UInt32.isValidChar, Nat.isValidChar] at this
    omega
  unfold String.utf8EncodeChar
  simp only
  generalize c.val.toNat = m at *
  generalize d.val.toNat = n at *
  by_cases hm₁ : m ≤ 0x7f
  · rw [if_pos hm₁]
    split
    · exact ofNat_cons_lt_of_lt (by omega) (by omega) (Or.inl (by omega))
    · split
      · exact ofNat_cons_lt_of_lt (by omega) (by omega) (Or.inl (by omega))
      · split
        · exact ofNat_cons_lt_of_lt (by omega) (by omega) (Or.inl (by omega))
        · exact ofNat_cons_lt_of_lt (by omega) (by omega) (Or.inl (by omega))
  rw [if_neg hm₁, if_neg (show ¬n ≤ 0x7f by omega)]
  by_cases hm₂ : m ≤ 0x7ff
  · rw [if_pos hm₂]
    split
    · refine ofNat_cons_lt_of_lt (by omega) (by omega) ?_
      by_cases hfirst : m / 64 < n / 64
      · exact Or.inl (by omega)
      · exact Or.inr ⟨by omega, continuation_lt (by omega) x y⟩
    · split
      · exact ofNat_cons_lt_of_lt (by omega) (by omega) (Or.inl (by omega))
      · exact ofNat_cons_lt_of_lt (by omega) (by omega) (Or.inl (by omega))
  rw [if_neg hm₂, if_neg (show ¬n ≤ 0x7ff by omega)]
  by_cases hm₃ : m ≤ 0xffff
  · rw [if_pos hm₃]
    split
    · refine ofNat_cons_lt_of_lt (by omega) (by omega) ?_
      by_cases hfirst : m / 4096 < n / 4096
      · exact Or.inl (by omega)
      · exact Or.inr ⟨by omega, continuation_two_lt (by omega) x y⟩
    · exact ofNat_cons_lt_of_lt (by omega) (by omega) (Or.inl (by omega))
  rw [if_neg hm₃, if_neg (show ¬n ≤ 0xffff by omega)]
  refine ofNat_cons_lt_of_lt (by omega) (by omega) ?_
  by_cases hfirst : m / 262144 < n / 262144
  · exact Or.inl (by omega)
  · exact Or.inr ⟨by omega, continuation_three_lt (by omega) x y⟩

/-! ## Strings -/

/-- Texts are ordered by their bytes as by their characters. -/
theorem flatMap_utf8EncodeChar_lt {s t : List Char} (h : s < t) :
    s.flatMap String.utf8EncodeChar < t.flatMap String.utf8EncodeChar := by
  induction s generalizing t with
  | nil =>
      cases t with
      | nil => exact absurd h (by simp)
      | cons d t =>
          obtain ⟨b, bs, hb⟩ := List.exists_cons_of_ne_nil (String.utf8EncodeChar_ne_nil (c := d))
          rw [List.flatMap_nil, List.flatMap_cons, hb]
          exact List.nil_lt_cons _ _
  | cons c s ih =>
      cases t with
      | nil => exact absurd h (by simp)
      | cons d t =>
          rw [List.flatMap_cons, List.flatMap_cons]
          rcases List.cons_lt_cons_iff.1 h with hcd | ⟨rfl, hst⟩
          · exact utf8EncodeChar_append_lt hcd _ _
          · exact List.append_left_lt (ih hst)

/-- The order of bytes is the order of code points. -/
theorem utf8Bytes_lt_of_lt {s t : String} (h : s < t) : utf8Bytes s < utf8Bytes t := by
  rw [utf8Bytes_eq_flatMap, utf8Bytes_eq_flatMap]
  exact flatMap_utf8EncodeChar_lt h

/-- The names of a dictionary are strictly increasing in the order of their bytes. -/
theorem Dictionary.pairwise_utf8Bytes_names {α : Type} (d : Dictionary α) :
    d.names.Pairwise (fun a b => utf8Bytes a < utf8Bytes b) :=
  (pairwise_names d).imp utf8Bytes_lt_of_lt

end LmntalServer
