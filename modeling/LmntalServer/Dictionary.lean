/-!
# Dictionaries

A dictionary maps names to values and lists its names in order.  The entries are kept sorted by
name without repetition, so that two dictionaries with the same look-ups are equal.  Names are
ordered by code point, which is also the order of their UTF-8 bytes.

Main definitions:

* `Dictionary`: the sorted entries.
* `Dictionary.insert`, `Dictionary.get?`, `Dictionary.names`, `Dictionary.size`.

Main results:

* `Dictionary.get?_insert_self`, `Dictionary.get?_insert_of_ne`: what insertion does to look-ups.
* `Dictionary.mem_names_iff`: the names are those with a value.
* `Dictionary.ext_get?`: dictionaries with the same look-ups are equal.
-/

namespace LmntalServer

universe u

/-- A finite map from names to values: its entries, sorted by name without repetition. -/
structure Dictionary (α : Type u) where
  entries : List (String × α)
  sorted : entries.Pairwise (fun a b => a.1 < b.1)

namespace Dictionary

variable {α : Type u}

instance [DecidableEq α] : DecidableEq (Dictionary α) := fun d e =>
  decidable_of_iff (d.entries = e.entries) ⟨fun h => by cases d; cases e; congr, fun h => h ▸ rfl⟩

/-- The dictionary without entries. -/
def empty : Dictionary α :=
  ⟨[], List.Pairwise.nil⟩

instance : Inhabited (Dictionary α) :=
  ⟨empty⟩

instance : EmptyCollection (Dictionary α) :=
  ⟨empty⟩

/-- The value of a name in a list of entries: that of the first entry of this name. -/
def lookupEntry (name : String) : List (String × α) → Option α
  | [] => none
  | e :: es => if e.1 = name then some e.2 else lookupEntry name es

/-- The value of a name. -/
def get? (d : Dictionary α) (name : String) : Option α :=
  lookupEntry name d.entries

/-- The names in increasing order. -/
def names (d : Dictionary α) : List String :=
  d.entries.map (·.1)

/-- The values in the order of their names. -/
def values (d : Dictionary α) : List α :=
  d.entries.map (·.2)

/-- The number of entries. -/
def size (d : Dictionary α) : Nat :=
  d.entries.length

/-- Whether there are no entries. -/
def isEmpty (d : Dictionary α) : Bool :=
  d.entries.isEmpty

/-! ## Insertion -/

/-- Sorted entries with one more entry, which replaces the one of the same name. -/
def insertEntry (name : String) (a : α) : List (String × α) → List (String × α)
  | [] => [(name, a)]
  | e :: es =>
      if name < e.1 then (name, a) :: e :: es
      else if e.1 < name then e :: insertEntry name a es
      else (name, a) :: es

theorem eq_of_not_lt {a b : String} (h₁ : ¬a < b) (h₂ : ¬b < a) : a = b :=
  String.le_antisymm (String.not_lt.1 h₂) (String.not_lt.1 h₁)

theorem mem_insertEntry {name : String} {a : α} {es : List (String × α)} {e : String × α}
    (h : e ∈ insertEntry name a es) : e = (name, a) ∨ e ∈ es := by
  induction es with
  | nil => simpa [insertEntry] using h
  | cons d es ih =>
      simp only [insertEntry] at h
      split at h
      · simpa using h
      · split at h
        · rcases List.mem_cons.1 h with rfl | h
          · simp
          · rcases ih h with h | h
            · exact Or.inl h
            · exact Or.inr (List.mem_cons_of_mem _ h)
        · rcases List.mem_cons.1 h with rfl | h
          · simp
          · exact Or.inr (List.mem_cons_of_mem _ h)

theorem pairwise_insertEntry (name : String) (a : α) {es : List (String × α)}
    (h : es.Pairwise (fun a b => a.1 < b.1)) :
    (insertEntry name a es).Pairwise (fun a b => a.1 < b.1) := by
  induction es with
  | nil => simp [insertEntry]
  | cons e es ih =>
      have htail : ∀ d ∈ es, e.1 < d.1 := fun d hd => List.rel_of_pairwise_cons h hd
      simp only [insertEntry]
      split
      · next hlt =>
          refine List.Pairwise.cons (fun d hd => ?_) h
          rcases List.mem_cons.1 hd with rfl | hd
          · exact hlt
          · exact String.lt_trans hlt (htail d hd)
      · next hnlt =>
          split
          · next hgt =>
              refine List.Pairwise.cons (fun d hd => ?_) (ih h.of_cons)
              rcases mem_insertEntry hd with rfl | hd
              · exact hgt
              · exact htail d hd
          · next hngt =>
              have heq := eq_of_not_lt hnlt hngt
              exact List.Pairwise.cons (fun d hd => heq ▸ htail d hd) h.of_cons

/-- A dictionary with a value for a name, which replaces the value it had. -/
def insert (d : Dictionary α) (name : String) (a : α) : Dictionary α :=
  ⟨insertEntry name a d.entries, pairwise_insertEntry name a d.sorted⟩

/-- The dictionary of some entries, in which the last entry of a name counts. -/
def ofList (es : List (String × α)) : Dictionary α :=
  es.foldl (fun d e => d.insert e.1 e.2) empty

/-- The entries of the names that pass a test. -/
def filter (p : String → Bool) (d : Dictionary α) : Dictionary α :=
  ⟨d.entries.filter fun e => p e.1, d.sorted.filter _⟩

/-! ## Look-ups -/

@[simp]
theorem get?_empty (name : String) : (empty : Dictionary α).get? name = none :=
  rfl

theorem lookupEntry_insertEntry_self (name : String) (a : α) (es : List (String × α)) :
    lookupEntry name (insertEntry name a es) = some a := by
  induction es with
  | nil => simp [insertEntry, lookupEntry]
  | cons e es ih =>
      simp only [insertEntry]
      split
      · simp [lookupEntry]
      · split
        · next hgt =>
            have hne : e.1 ≠ name := fun h => String.lt_irrefl _ (h ▸ hgt)
            simp [lookupEntry, hne, ih]
        · simp [lookupEntry]

theorem lookupEntry_insertEntry_of_ne {name other : String} (h : name ≠ other) (a : α)
    (es : List (String × α)) :
    lookupEntry other (insertEntry name a es) = lookupEntry other es := by
  induction es with
  | nil => simp [insertEntry, lookupEntry, h]
  | cons e es ih =>
      simp only [insertEntry]
      split
      · simp [lookupEntry, h]
      · next hnlt =>
          split
          · simp [lookupEntry, ih]
          · next hngt =>
              have heq := eq_of_not_lt hnlt hngt
              simp [lookupEntry, h, ← heq]

@[simp]
theorem get?_insert_self (d : Dictionary α) (name : String) (a : α) :
    (d.insert name a).get? name = some a :=
  lookupEntry_insertEntry_self name a d.entries

theorem get?_insert_of_ne {name other : String} (h : name ≠ other) (d : Dictionary α) (a : α) :
    (d.insert name a).get? other = d.get? other :=
  lookupEntry_insertEntry_of_ne h a d.entries

/-! ## Order and equality -/

@[simp]
theorem length_names (d : Dictionary α) : d.names.length = d.size :=
  List.length_map ..

/-- The names are strictly increasing. -/
theorem pairwise_names (d : Dictionary α) : d.names.Pairwise (· < ·) :=
  List.pairwise_map.2 d.sorted

theorem fst_lt_of_pairwise_cons {e d : String × α} {es : List (String × α)}
    (h : (e :: es).Pairwise (fun a b => a.1 < b.1)) (hd : d ∈ es) : e.1 < d.1 :=
  List.rel_of_pairwise_cons h hd

theorem lookupEntry_eq_some_iff_mem {es : List (String × α)}
    (h : es.Pairwise (fun a b => a.1 < b.1)) {name : String} {a : α} :
    lookupEntry name es = some a ↔ (name, a) ∈ es := by
  induction es with
  | nil => simp [lookupEntry]
  | cons e es ih =>
      by_cases hname : e.1 = name
      · subst hname
        have hnot : (e.1, a) ∉ es := fun hmem =>
          String.lt_irrefl e.1 (fst_lt_of_pairwise_cons (d := (e.1, a)) h hmem)
        simp only [lookupEntry, if_pos, Option.some.injEq, List.mem_cons, hnot, or_false]
        constructor
        · rintro rfl
          rfl
        · intro he
          rw [← he]
      · have hne : (name, a) ≠ e := fun he => hname (he ▸ rfl)
        simp [lookupEntry, hname, hne, ih h.of_cons]

theorem get?_eq_some_iff_mem {d : Dictionary α} {name : String} {a : α} :
    d.get? name = some a ↔ (name, a) ∈ d.entries :=
  lookupEntry_eq_some_iff_mem d.sorted

/-- The names of a dictionary are those that have a value. -/
theorem mem_names_iff {d : Dictionary α} {name : String} :
    name ∈ d.names ↔ (d.get? name).isSome = true := by
  rw [Option.isSome_iff_exists]
  simp only [get?_eq_some_iff_mem, names, List.mem_map]
  constructor
  · rintro ⟨e, he, rfl⟩
    exact ⟨e.2, he⟩
  · rintro ⟨a, ha⟩
    exact ⟨_, ha, rfl⟩

theorem entries_eq_of_mem_iff {es fs : List (String × α)}
    (hes : es.Pairwise (fun a b => a.1 < b.1)) (hfs : fs.Pairwise (fun a b => a.1 < b.1))
    (h : ∀ e, e ∈ es ↔ e ∈ fs) : es = fs := by
  induction es generalizing fs with
  | nil =>
      cases fs with
      | nil => rfl
      | cons f fs => exact absurd ((h f).2 List.mem_cons_self) List.not_mem_nil
  | cons e es ih =>
      cases fs with
      | nil => exact absurd ((h e).1 List.mem_cons_self) List.not_mem_nil
      | cons f fs =>
          have hef : e = f := by
            rcases List.mem_cons.1 ((h e).1 List.mem_cons_self) with he | he
            · exact he
            · rcases List.mem_cons.1 ((h f).2 List.mem_cons_self) with hf | hf
              · exact hf.symm
              · exact absurd
                  (String.lt_trans (List.rel_of_pairwise_cons hfs he)
                    (List.rel_of_pairwise_cons hes hf))
                  (String.lt_irrefl _)
          subst hef
          congr 1
          refine ih hes.of_cons hfs.of_cons fun d => ?_
          have hes' : d ∈ es → e.1 < d.1 := fst_lt_of_pairwise_cons hes
          have hfs' : d ∈ fs → e.1 < d.1 := fst_lt_of_pairwise_cons hfs
          have hd := h d
          simp only [List.mem_cons] at hd
          constructor
          · intro hmem
            rcases hd.1 (Or.inr hmem) with rfl | hmem'
            · exact absurd (hes' hmem) (String.lt_irrefl _)
            · exact hmem'
          · intro hmem
            rcases hd.2 (Or.inr hmem) with rfl | hmem'
            · exact absurd (hfs' hmem) (String.lt_irrefl _)
            · exact hmem'

/-- Dictionaries with the same look-ups are equal. -/
theorem ext_get? {d e : Dictionary α} (h : ∀ name, d.get? name = e.get? name) : d = e := by
  have hentries : d.entries = e.entries := by
    refine entries_eq_of_mem_iff d.sorted e.sorted fun ⟨name, a⟩ => ?_
    rw [← get?_eq_some_iff_mem, h, get?_eq_some_iff_mem]
  cases d
  cases e
  congr

end Dictionary
end LmntalServer
