import LmntalServer.Library.Load
import LmntalServer.Proofs.Json.Reading
import LmntalServer.Proofs.Symbol.Lookup
import LmntalServer.Proofs.Text.ByteOrder

/-!
# Accepted library data

Library data is accepted by its shape: it is an object, and every value in it is an entry.  The
readers are followed along a spelling of the data, and each of them decides its part of the shape:
it gives what the shape says, or a fault if the part has not the shape.

Main definitions:

* `Library.IsEntry`, `Library.IsLibraryData`: the values that document an atom, and many atoms.
* `Library.Documents`: what a library holds of the members of an object.
* `Library.Decides`: a reader's result is right about what it has read.

Main results:

* `Library.decides_readEntry`, `Library.decides_readMembers`: the readers decide the shape.
* `Library.ofData_of_spells`: data of the shape is accepted and gives its last entries, and other
  data is malformed.
-/

namespace LmntalServer

/-- The values of the members with a name. -/
def Json.valuesOf (name : String) (ms : List (String × Json)) : List Json :=
  (ms.filter (·.1 = name)).map (·.2)

namespace Library

open Json

/-! ## Entries -/

/-- The values that document an atom: an object with one signature and one description, both
strings, or a list of the two. -/
def IsEntry (v : Json) (signature description : String) : Prop :=
  (∃ ms, v = .object ms ∧ valuesOf "signature" ms = [.string signature] ∧
    valuesOf "description" ms = [.string description]) ∨
  v = .array [.string signature, .string description]

/-- A value is the entry of at most one signature and description. -/
theorem IsEntry.unique {v : Json} {s s' d d' : String} (h : IsEntry v s d) (h' : IsEntry v s' d') :
    s = s' ∧ d = d' := by
  rcases h with ⟨ms, rfl, hs, hd⟩ | rfl
  · rcases h' with ⟨ms', heq, hs', hd'⟩ | heq
    · cases heq
      rw [hs] at hs'
      rw [hd] at hd'
      simpa using And.intro hs' hd'
    · cases heq
  · rcases h' with ⟨ms', heq, -, -⟩ | heq
    · cases heq
    · simpa using heq

/-- Library data: an object in which the value of every member is an entry. -/
def IsLibraryData (v : Json) : Prop :=
  ∃ ms, v = .object ms ∧ ∀ m ∈ ms, ∃ signature description, IsEntry m.2 signature description

/-- A library holds what the members of an object say.  Of several members with one name it has the
last, and its names are listed in the order of their bytes. -/
structure Documents (library : Library) (ms : List (String × Json)) : Prop where
  get?_eq_some_iff : ∀ name e, library.get? name = some e ↔
    ∃ v, (valuesOf name ms).getLast? = some v ∧ e.name = name ∧
      IsEntry v e.signature e.description
  get?_eq_none_iff : ∀ name, library.get? name = none ↔ name ∉ ms.map Prod.fst
  mem_names_iff : ∀ name, name ∈ library.names ↔ name ∈ ms.map Prod.fst
  pairwise_names : library.names.Pairwise fun a b => utf8Bytes a < utf8Bytes b
  size_eq : library.size = (ms.map Prod.fst).dedup.length

/-! ## Deciding -/

/-- The result of a reader is right about a property of what has been read: it is a value with the
property, with the rest of the text, or a fault if no value has the property. -/
def Decides {α : Type} (P : α → Prop) (rest : Text) : Except Fault (α × Text) → Prop
  | .ok r => P r.1 ∧ r.2 = rest
  | .error _ => ∀ a, ¬P a

/-- A reader decides a property if its first step decides a part of it. -/
theorem Decides.bind {α β : Type} {P : α → Prop} {Q : β → Prop} {mid rest : Text}
    {r : Except Fault (α × Text)} {f : α × Text → Except Fault (β × Text)} (h : Decides P mid r)
    (hpart : ∀ b, Q b → ∃ a, P a) (hf : ∀ a, P a → Decides Q rest (f (a, mid))) :
    Decides Q rest (r >>= f) := by
  cases r with
  | error fault =>
      intro b hb
      obtain ⟨a, ha⟩ := hpart b hb
      exact h a ha
  | ok r =>
      obtain ⟨a, t⟩ := r
      obtain ⟨ha, rfl⟩ := h
      exact hf a ha

/-- What decides a property decides each equivalent one. -/
theorem Decides.congr {α : Type} {P Q : α → Prop} {rest : Text} {r : Except Fault (α × Text)}
    (h : Decides P rest r) (hiff : ∀ a, P a ↔ Q a) : Decides Q rest r := by
  obtain rfl : P = Q := funext fun a => propext (hiff a)
  exact h

theorem ok_bind {α β : Type} (a : α) (f : α → Except Fault β) : (Except.ok a >>= f) = f a :=
  rfl

/-- A string is read as it is spelled, and no other value is taken for a string. -/
theorem decides_readText {a s : Text} {v : Json} (ha : IsBlanks a) (hs : Spells s v) (t : Text) :
    Decides (fun k => v = .string k) t (readText (a ++ (s ++ t))) := by
  obtain ⟨c, u, hcu, hc⟩ := hs.exists_cons
  rw [readText, dropBlanks_spells ha hs, hcu, List.cons_append]
  split
  · next heq =>
      cases heq
      obtain ⟨k, rfl⟩ := exists_string_of_opensWith hc
      cases hs with
      | string hs =>
          cases hs with
          | quoted hs =>
              cases hcu
              rw [readStringBody_append hs]
              exact ⟨by simp, rfl⟩
  · next hne =>
      rintro k rfl
      obtain rfl : c = '"' := hc
      exact hne _ rfl

/-! ## Keys -/

/-- Behind the last member, or in an empty object, there is no further name. -/
theorem readKey_close {b : Text} (hb : IsBlanks b) (isFirst : Bool) (t : Text) :
    readKey isFirst (b ++ ['\x7d'] ++ t) = .ok (none, t) := by
  rw [readKey, List.append_assoc, List.singleton_append, dropBlanks_append_cons hb rfl]
  rfl

/-- The name of a member is read behind its separator. -/
theorem readKey_member {d k : Text} {name : String} {isFirst : Bool}
    (hd : IsSeparator d isFirst) (hk : SpellsString k name) (t : Text) :
    readKey isFirst (d ++ (k ++ t)) = .ok (some name, t) := by
  cases hk with
  | @quoted k _ hk =>
      have hkey : readKey.key ('"' :: k ++ t) = .ok (some name, t) := by
        rw [List.cons_append, readKey.key, readStringBody_append hk]
        simp [Except.map]
      cases isFirst with
      | true =>
          rw [readKey, List.cons_append, dropBlanks_append_cons hd rfl]
          exact hkey
      | false =>
          obtain ⟨a, b, ha, hb, rfl⟩ := hd
          have hcomma := dropBlanks_append_cons (c := ',') ha rfl (b ++ '"' :: (k ++ t))
          have hquote := dropBlanks_append_cons (c := '"') hb rfl (k ++ t)
          simpa [readKey, hcomma, hquote] using hkey

/-! ## Entries that are objects -/

/-- A member adds its value to those of its own name. -/
theorem valuesOf_cons (name : String) (m : String × Json) (ms : List (String × Json)) :
    valuesOf name (m :: ms) = if m.1 = name then m.2 :: valuesOf name ms else valuesOf name ms := by
  by_cases h : m.1 = name <;> simp [valuesOf, h]

/-- The string of one field, if it has been read, and the values that are left for the field are
one string together. -/
def IsOnly (seen : Option String) (vs : List Json) (k : String) : Prop :=
  seen.toList.map Json.string ++ vs = [.string k]

/-- The members that are left of an entry complete the fields that have been read. -/
def Completes (fields : EntryFields) (ms : List (String × Json)) (r : String × String) : Prop :=
  IsOnly fields.signature (valuesOf "signature" ms) r.1 ∧
    IsOnly fields.description (valuesOf "description" ms) r.2

section Fields

variable {seen : Option String} {v : Json} {vs : List Json} {k : String}

/-- A repeated field is never completed. -/
theorem not_isOnly_of_isSome (h : seen.isSome = true) : ¬IsOnly seen (v :: vs) k := by
  obtain ⟨s, rfl⟩ := Option.isSome_iff_exists.1 h
  simp [IsOnly]

/-- A missing field is never completed. -/
theorem not_isOnly_nil (k : String) : ¬IsOnly none [] k := by
  simp [IsOnly]

/-- The value that is left of a field is the string that it stands for. -/
theorem IsOnly.eq_string (h : IsOnly seen (v :: vs) k) : v = .string k := by
  cases seen with
  | none => exact (List.cons.inj h).1
  | some s => exact absurd h (not_isOnly_of_isSome rfl)

/-- A field that has not been read takes the string that comes next. -/
theorem isOnly_cons (h : seen.isSome = false) {s : String} :
    IsOnly seen (.string s :: vs) k ↔ IsOnly (some s) vs k := by
  cases seen with
  | none => rfl
  | some t => cases h

end Fields

/-- One field of an entry is read if it is not repeated and is a string. -/
theorem decides_field {β : Type} {Q : β → Prop} {repeated : Bool} {fault : Fault} {e s u t : Text}
    {v : Json} {next : String × Text → Except Fault (β × Text)} (he : IsColon e) (hs : Spells s v)
    (hrepeated : repeated = true → ∀ b, ¬Q b) (hpart : ∀ b, Q b → ∃ k, v = .string k)
    (hnext : repeated = false → ∀ k, v = .string k → Decides Q t (next (k, u))) :
    Decides Q t (do
      if repeated then throw fault
      let t ← expectColon (e ++ (s ++ u))
      let r ← readText t
      next r) := by
  obtain ⟨b, hb, hcolon⟩ := expectColon_append he (s ++ u)
  cases repeated with
  | true => exact hrepeated rfl
  | false =>
      simp only [Bool.false_eq_true, if_false, hcolon, ok_bind]
      exact Decides.bind (decides_readText hb hs u) hpart (hnext rfl)

/-- The members that are left of an entry are read if they complete its fields.  Each member moves
one value from those that are left to the fields that have been read. -/
theorem decides_readFields {ms : List (String × Json)} {fields : EntryFields} {isFirst : Bool}
    {fuel : Nat} {u t : Text} (hu : SpellsMembers isFirst u ms) (hfuel : ms.length < fuel) :
    Decides (Completes fields ms) t (readFields fields isFirst fuel (u ++ t)) := by
  induction ms generalizing fields isFirst fuel u with
  | nil =>
      obtain ⟨fuel, rfl⟩ := Nat.exists_eq_succ_of_ne_zero (Nat.ne_of_gt hfuel)
      cases hu with
      | close hb =>
          rw [readFields, readKey_close hb, ok_bind]
          obtain ⟨_ | s, _ | d⟩ := fields
          · exact fun r hr => absurd hr.1 (not_isOnly_nil _)
          · exact fun r hr => absurd hr.1 (not_isOnly_nil _)
          · exact fun r hr => absurd hr.2 (not_isOnly_nil _)
          · exact ⟨⟨rfl, rfl⟩, rfl⟩
  | cons m ms ih =>
      obtain ⟨fuel, rfl⟩ := Nat.exists_eq_succ_of_ne_zero (Nat.ne_of_gt (Nat.zero_lt_of_lt hfuel))
      cases hu with
      | @member _ d k e s u name v ms hd hk he hs hu =>
          have hrec : ∀ fields, Decides (Completes fields ms) t
              (readFields fields false fuel (u ++ t)) := fun fields =>
            ih hu (by simpa using hfuel)
          simp only [List.append_assoc]
          rw [readFields, readKey_member hd hk, ok_bind]
          dsimp only
          -- By the name: the brace, which has none, the two fields, and members that are ignored.
          split
          · next heq => cases heq
          · next heq =>
              cases heq
              refine decides_field he hs ?_ ?_ ?_
              · exact fun hseen r hr => not_isOnly_of_isSome hseen hr.1
              · exact fun r hr => ⟨r.1, IsOnly.eq_string hr.1⟩
              · rintro hunseen k rfl
                exact (hrec _).congr fun r => and_congr_left' (isOnly_cons hunseen).symm
          · next heq =>
              cases heq
              refine decides_field he hs ?_ ?_ ?_
              · exact fun hseen r hr => not_isOnly_of_isSome hseen hr.2
              · exact fun r hr => ⟨r.2, IsOnly.eq_string hr.2⟩
              · rintro hunseen k rfl
                exact (hrec _).congr fun r => and_congr_right' (isOnly_cons hunseen).symm
          · next hsig hdesc heq =>
              cases heq
              obtain ⟨b, hb, hcolon⟩ := expectColon_append he (s ++ (u ++ t))
              have hskip := skipValue_append hb hs (hu.endsNumeral t)
              rw [hcolon, ok_bind, hskip, ok_bind]
              exact (hrec _).congr fun r => by
                rw [Completes, Completes, valuesOf_cons, valuesOf_cons, if_neg hsig, if_neg hdesc]

/-! ## Entries that are lists -/

/-- Behind the two strings of a list the bracket may stand. -/
theorem readListEnd_close {b : Text} (hb : IsBlanks b) (t : Text) :
    readListEnd (b ++ [']'] ++ t) = .ok t := by
  rw [readListEnd, List.append_assoc, List.singleton_append, dropBlanks_append_cons hb rfl]
  rfl

/-- A list may have no third item. -/
theorem readListEnd_item {d : Text} (hd : IsSeparator d false) (t : Text) :
    ∃ fault, readListEnd (d ++ t) = .error fault := by
  obtain ⟨a, b, ha, -, rfl⟩ := hd
  have hcomma := dropBlanks_append_cons (c := ',') ha rfl (b ++ t)
  simp only [readListEnd, List.append_assoc, List.cons_append, hcomma]
  split
  · exact ⟨_, rfl⟩
  · exact ⟨_, rfl⟩

/-- A list is an entry if it consists of two strings, for the bracket may stand only behind two of
them. -/
theorem decides_readList {u : Text} {vs : List Json} (hu : SpellsItems true u vs) (t : Text) :
    Decides (fun r => vs = [.string r.1, .string r.2]) t (readList (u ++ t)) := by
  rw [readList]
  cases hu with
  | close hb =>
      rw [List.append_assoc, List.singleton_append, dropBlanks_append_cons hb rfl]
      exact fun r hr => by cases hr
  | @item _ d s u v vs hd hs hu =>
      rw [List.append_assoc, List.append_assoc, dropBlanks_spells hd hs]
      split
      · next heq => exact absurd heq (hs.append_ne_nil _)
      · next heq => exact absurd heq (hs.append_ne_close _ _)
      have hfirst := decides_readText isBlanks_nil hs (u ++ t)
      refine Decides.bind hfirst (fun r hr => ⟨r.1, (List.cons.inj hr).1⟩) ?_
      rintro k rfl
      cases hu with
      | close hb =>
          have hclose := dropBlanks_append_cons (c := ']') hb rfl t
          simp only [List.append_assoc, List.singleton_append, hclose]
          exact fun r hr => by cases hr
      | @item _ d s u v vs hd hs hu =>
          obtain ⟨a, b, ha, hb, rfl⟩ := hd
          have hcomma := dropBlanks_append_cons (c := ',') ha rfl (b ++ (s ++ (u ++ t)))
          simp only [List.append_assoc, List.cons_append, hcomma, dropBlanks_spells hb hs]
          split
          · next heq => exact absurd heq (hs.append_ne_nil _)
          · next heq => exact absurd heq (hs.append_ne_close _ _)
          have hsecond := decides_readText isBlanks_nil hs (u ++ t)
          refine Decides.bind hsecond (fun r hr => ⟨r.2, by cases hr; rfl⟩) ?_
          rintro l rfl
          cases hu with
          | close hb =>
              rw [readListEnd_close hb]
              exact ⟨rfl, rfl⟩
          | item hd hs hu =>
              obtain ⟨fault, hfault⟩ := readListEnd_item hd (_ ++ t)
              rw [List.append_assoc, hfault]
              exact fun r hr => by cases hr

/-! ## Whole libraries -/

/-- An entry is read from a value that is one, and from no other value. -/
theorem decides_readEntry {a s : Text} {v : Json} (ha : IsBlanks a) (hs : Spells s v) (t : Text) :
    Decides (fun r => IsEntry v r.1 r.2) t (readEntry (a ++ (s ++ t))) := by
  obtain ⟨c, u, hcu, hc⟩ := hs.exists_cons
  rw [readEntry, dropBlanks_spells ha hs, hcu, List.cons_append]
  split
  · next heq =>
      cases heq
      obtain ⟨ms, rfl⟩ := exists_object_of_opensWith hc
      cases hs with
      | object hs =>
          cases hcu
          have hfuel : ms.length < (u ++ t).length + 1 := by
            have hlength := hs.length_le
            rw [List.length_append]
            omega
          exact (decides_readFields hs hfuel).congr fun r => by simp [IsEntry, Completes, IsOnly]
  · next heq =>
      cases heq
      obtain ⟨vs, rfl⟩ := exists_array_of_opensWith hc
      cases hs with
      | array hs =>
          cases hcu
          exact (decides_readList hs t).congr fun r => by simp [IsEntry]
  · next hobject hlist =>
      rintro r (⟨ms, rfl, -⟩ | rfl)
      · exact hobject _ (by rw [show c = '\x7b' from hc])
      · exact hlist _ (by rw [show c = '[' from hc])

/-- What library data says of its members. -/
def IsMember (m : String × Json) (e : String × String × String) : Prop :=
  e.1 = m.1 ∧ IsEntry m.2 e.2.1 e.2.2

/-- Members are read if all of them are entries. -/
theorem decides_readMembers {ms : List (String × Json)} {isFirst : Bool} {fuel : Nat} {u t : Text}
    (hu : SpellsMembers isFirst u ms) (hfuel : ms.length < fuel) :
    Decides (List.Forall₂ IsMember ms) t (readMembers isFirst fuel (u ++ t)) := by
  induction ms generalizing isFirst fuel u with
  | nil =>
      obtain ⟨fuel, rfl⟩ := Nat.exists_eq_succ_of_ne_zero (Nat.ne_of_gt hfuel)
      cases hu with
      | close hb =>
          rw [readMembers, readKey_close hb]
          exact ⟨.nil, rfl⟩
  | cons m ms ih =>
      obtain ⟨fuel, rfl⟩ := Nat.exists_eq_succ_of_ne_zero (Nat.ne_of_gt (Nat.zero_lt_of_lt hfuel))
      cases hu with
      | @member _ d k e s u name v ms hd hk he hs hu =>
          obtain ⟨b, hb, hcolon⟩ := expectColon_append he (s ++ (u ++ t))
          simp only [List.append_assoc]
          rw [readMembers, readKey_member hd hk, ok_bind]
          dsimp only
          rw [hcolon, ok_bind]
          refine Decides.bind (decides_readEntry hb hs (u ++ t)) ?_ ?_
          · rintro entries (_ | ⟨hentry, -⟩)
            exact ⟨_, hentry.2⟩
          · intro r hr
            refine Decides.bind (ih hu (by simpa using hfuel)) ?_ ?_
            · rintro entries (_ | ⟨-, hrest⟩)
              exact ⟨_, hrest⟩
            · intro entries hentries
              exact ⟨.cons ⟨rfl, hr⟩ hentries, rfl⟩

/-- Whole data is read if it is an object of entries. -/
theorem readData_of_spells {data : Text} {v : Json} (h : SpellsText data v) :
    Decides (fun entries => ∃ ms, v = .object ms ∧ List.Forall₂ IsMember ms entries) []
      ((readData data).map fun entries => (entries, [])) := by
  obtain ⟨a, s, b, ha, hs, hb, rfl⟩ := h
  obtain ⟨c, u, hcu, hc⟩ := hs.exists_cons
  rw [readData, dropBlanks_spells ha hs, hcu, List.cons_append]
  split
  · next heq =>
      cases heq
      obtain ⟨ms, rfl⟩ := exists_object_of_opensWith hc
      cases hs with
      | object hs =>
          cases hcu
          have hlength := hs.length_le
          have hfuel : ms.length < (u ++ b).length + 1 := by
            rw [List.length_append]
            omega
          have hmembers := decides_readMembers hs hfuel (t := b)
          cases hread : readMembers true ((u ++ b).length + 1) (u ++ b) with
          | error fault =>
              rw [hread] at hmembers
              rintro entries ⟨_, ⟨⟩, hall⟩
              exact hmembers entries hall
          | ok r =>
              rw [hread] at hmembers
              obtain ⟨entries, rest⟩ := r
              obtain ⟨hall, rfl : rest = b⟩ := hmembers
              have hend : dropBlanks rest = [] := dropBlanks_blanks hb
              simp only [ok_bind, hend]
              exact ⟨⟨ms, rfl, hall⟩, rfl⟩
  · next hobject =>
      rintro entries ⟨ms, rfl, -⟩
      exact hobject _ (by rw [show c = '\x7b' from hc])

/-! ## What is looked up -/

/-- Members are those of a library if the value of each is an entry. -/
theorem exists_forall₂_isMember_iff {ms : List (String × Json)} :
    (∃ entries, List.Forall₂ IsMember ms entries) ↔
      ∀ m ∈ ms, ∃ signature description, IsEntry m.2 signature description := by
  induction ms with
  | nil => exact iff_of_true ⟨[], .nil⟩ (by simp)
  | cons m ms ih =>
      rw [List.forall_mem_cons, ← ih]
      constructor
      · rintro ⟨entries, hall⟩
        obtain ⟨e, rest, hentry, hrest, rfl⟩ := List.forall₂_cons_left_iff.1 hall
        exact ⟨⟨_, _, hentry.2⟩, _, hrest⟩
      · rintro ⟨⟨signature, description, hentry⟩, entries, hrest⟩
        exact ⟨(m.1, signature, description) :: entries, .cons ⟨rfl, hentry⟩ hrest⟩

/-- The entries of a library have the names of their members. -/
theorem map_fst_of_forall₂ {ms : List (String × Json)} {entries : List (String × String × String)}
    (h : List.Forall₂ IsMember ms entries) : entries.map Prod.fst = ms.map Prod.fst := by
  induction h with
  | nil => rfl
  | cons hm _ ih => rw [List.map_cons, List.map_cons, hm.1, ih]

/-- The entries of one name are those of the values of this name, in the same order. -/
theorem forall₂_filter {ms : List (String × Json)} {entries : List (String × String × String)}
    (h : List.Forall₂ IsMember ms entries) (name : String) :
    List.Forall₂ (fun v e => e.1 = name ∧ IsEntry v e.2.1 e.2.2) (valuesOf name ms)
      (entries.filter fun e => e.1 = name) := by
  induction h with
  | nil => exact .nil
  | @cons m e ms entries hm _ ih =>
      obtain ⟨hfst, hentry⟩ := hm
      rw [valuesOf_cons, List.filter_cons, hfst]
      by_cases hname : m.1 = name
      · rw [if_pos hname, if_pos (decide_eq_true hname)]
        exact .cons ⟨hfst.trans hname, hentry⟩ ih
      · rw [if_neg hname, if_neg (by simpa using hname)]
        exact ih

/-- The last elements of two related lists are related, if there are any. -/
theorem getLast?_forall₂ {α β : Type} {R : α → β → Prop} {as : List α} {bs : List β}
    (h : List.Forall₂ R as bs) : Option.Rel R as.getLast? bs.getLast? := by
  induction h with
  | nil => exact .none
  | @cons a b as bs hab _ ih =>
      rw [List.getLast?_cons, List.getLast?_cons]
      generalize as.getLast? = last at ih ⊢
      generalize bs.getLast? = lastEntry at ih ⊢
      cases ih with
      | none => exact .some hab
      | some hlast => exact .some hlast

/-- The entry of a name is that of the last member of this name. -/
theorem get?_ofMembers {ms : List (String × Json)} {entries : List (String × String × String)}
    (h : List.Forall₂ IsMember ms entries) (name : String) (e : LibraryEntry) :
    (ofMembers entries).get? name = some e ↔
      ∃ v, (valuesOf name ms).getLast? = some v ∧ e.name = name ∧
        IsEntry v e.signature e.description := by
  have hlast := getLast?_forall₂ (forall₂_filter h name)
  rw [ofMembers, Dictionary.get?_ofList, List.filter_map, List.getLast?_map, Option.map_map]
  change Option.map _ (entries.filter fun e => e.1 = name).getLast? = some e ↔ _
  generalize (valuesOf name ms).getLast? = last at hlast ⊢
  generalize (entries.filter fun e => e.1 = name).getLast? = lastEntry at hlast ⊢
  cases hlast with
  | none => simp
  | @some v r hlast =>
      obtain ⟨entryName, signature, description⟩ := r
      obtain ⟨readName, readSignature, readDescription⟩ := e
      obtain ⟨hname, hentry⟩ := hlast
      constructor
      · rintro ⟨⟩
        exact ⟨v, rfl, hname, hentry⟩
      · rintro ⟨_, ⟨⟩, hname', hentry'⟩
        obtain ⟨hsignature, hdescription⟩ := hentry.unique hentry'
        obtain rfl : entryName = name := hname
        obtain rfl : readName = entryName := hname'
        obtain rfl : signature = readSignature := hsignature
        obtain rfl : description = readDescription := hdescription
        rfl

/-- A library documents each name by the last of the members of this name. -/
theorem documents_ofMembers {ms : List (String × Json)}
    {entries : List (String × String × String)} (h : List.Forall₂ IsMember ms entries) :
    Documents (ofMembers entries) ms := by
  have hkeys : (entries.map fun e => (e.1, LibraryEntry.mk e.1 e.2.1 e.2.2)).map Prod.fst =
      ms.map Prod.fst := by
    rw [List.map_map, ← map_fst_of_forall₂ h]
    rfl
  have hnames : ∀ name, name ∈ (ofMembers entries).names ↔ name ∈ ms.map Prod.fst := by
    intro name
    rw [ofMembers, Dictionary.mem_names_ofList, hkeys]
  refine ⟨get?_ofMembers h, ?_, hnames, Dictionary.pairwise_utf8Bytes_names _, ?_⟩
  · intro name
    rw [← Option.not_isSome_iff_eq_none, ← Dictionary.mem_names_iff, hnames]
  · rw [ofMembers, Dictionary.size_ofList, hkeys]

/-- However a value is spelled, it is accepted as a library if it has the shape of one, and the
library holds what the members say; else the data is malformed and there is no library. -/
theorem ofData_of_spells {data : Text} {v : Json} (h : SpellsText data v) :
    ((∃ library, ofData data = .ok library) ↔ IsLibraryData v) ∧
      (¬IsLibraryData v → ∃ fault, ofData data = .error (.malformed data fault)) ∧
      ∀ library, ofData data = .ok library → Documents library v.members := by
  have hread := readData_of_spells h
  cases hdata : readData data with
  | error fault =>
      rw [hdata] at hread
      have hshape : ¬IsLibraryData v := by
        rintro ⟨ms, rfl, hms⟩
        obtain ⟨entries, hall⟩ := exists_forall₂_isMember_iff.2 hms
        exact hread entries ⟨ms, rfl, hall⟩
      have herror : ofData data = .error (.malformed data fault) := by
        simp [ofData, read, hdata, Except.map]
      refine ⟨iff_of_false ?_ hshape, fun _ => ⟨fault, herror⟩, ?_⟩
      · rintro ⟨library, hlibrary⟩
        cases herror.symm.trans hlibrary
      · intro library hlibrary
        cases herror.symm.trans hlibrary
  | ok entries =>
      rw [hdata] at hread
      obtain ⟨⟨ms, rfl, hall⟩, -⟩ := hread
      have hshape : IsLibraryData (.object ms) :=
        ⟨ms, rfl, exists_forall₂_isMember_iff.1 ⟨entries, hall⟩⟩
      have hok : ofData data = .ok (ofMembers entries) := by
        simp [ofData, read, hdata, Except.map]
      refine ⟨iff_of_true ⟨_, hok⟩ hshape, fun hno => absurd hshape hno, ?_⟩
      intro library hlibrary
      cases hok.symm.trans hlibrary
      exact documents_ofMembers hall

/-- Data with two members of one name, one of them spelled with an escape.  The second member is an
object with one more member than it needs. -/
def twoMembersData : Text :=
  "\x7b\"\\u0061\":[\"p\",\"q\"], \"a\":".toList ++
    "\x7b\"n\":[1],\"signature\":\"s\",\"description\":\"d\"\x7d\x7d".toList

/-- The second member of the data. -/
def secondMember : List (String × Json) :=
  [("n", .array [.number ⟨false, ['1'], none, none⟩]), ("signature", .string "s"),
    ("description", .string "d")]

/-- The value that the data spells. -/
def twoMembers : Json :=
  .object [("a", .array [.string "p", .string "q"]), ("a", .object secondMember)]

/-- The text of two members of one name spells them. -/
theorem spellsText_twoMembersData : SpellsText twoMembersData twoMembers := by
  have hnil : IsBlanks [] := isBlanks_nil
  have hcomma : IsSeparator [','] false := ⟨[], [], hnil, hnil, rfl⟩
  have hspace : IsSeparator [',', ' '] false :=
    ⟨[], [' '], hnil, by simp [IsBlanks], rfl⟩
  have hcolon : IsColon [':'] := ⟨[], [], hnil, hnil, rfl⟩
  have hunit : SpellsUnit ['0', '0', '6', '1'] 'a'.toNat :=
    .digits (w := 0) (x := 0) (y := 6) (z := 1) (.inl rfl) (.inl rfl) (.inl rfl) (.inl rfl)
  have hescaped : SpellsString _ "a" := .quoted (.char (.unit hunit) .quote)
  have ha : SpellsString _ "a" := spellsString_plain (by simp [IsPlain])
  have hp : SpellsString _ "p" := spellsString_plain (by simp [IsPlain])
  have hq : SpellsString _ "q" := spellsString_plain (by simp [IsPlain])
  have hs : SpellsString _ "s" := spellsString_plain (by simp [IsPlain])
  have hd : SpellsString _ "d" := spellsString_plain (by simp [IsPlain])
  have hn : SpellsString _ "n" := spellsString_plain (by simp [IsPlain])
  have hsignature : SpellsString _ "signature" := spellsString_plain (by simp [IsPlain])
  have hdescription : SpellsString _ "description" := spellsString_plain (by simp [IsPlain])
  have hone : SpellsNumeral ['1'] ⟨false, ['1'], none, none⟩ :=
    ⟨.inr ⟨⟨by simp, by simp⟩, by simp⟩, [], [], rfl, rfl, rfl⟩
  have hlist : SpellsItems true _ [.string "p", .string "q"] :=
    .item hnil (.string hp) (.item hcomma (.string hq) (.close hnil))
  have hignored : SpellsItems true _ [.number ⟨false, ['1'], none, none⟩] :=
    .item hnil (.number hone) (.close hnil)
  have hsecond : SpellsMembers true _ secondMember :=
    .member hnil hn hcolon (.array hignored)
      (.member hcomma hsignature hcolon (.string hs)
        (.member hcomma hdescription hcolon (.string hd) (.close hnil)))
  have hmembers : SpellsMembers true _ _ :=
    .member hnil hescaped hcolon (.array hlist)
      (.member hspace ha hcolon (.object hsecond) (.close hnil))
  exact ⟨[], _, [], hnil, .object hmembers, hnil, by decide⟩

/-- The last of the two members counts. -/
theorem ofData_of_spells_of_two_members :
    SpellsText twoMembersData twoMembers ∧ ∃ library, ofData twoMembersData = .ok library ∧
      library.get? "a" = some ⟨"a", "s", "d"⟩ ∧ library.size = 1 := by
  have hshape : IsLibraryData twoMembers := by
    refine ⟨_, rfl, ?_⟩
    simp only [List.forall_mem_cons]
    exact ⟨⟨"p", "q", Or.inr rfl⟩, ⟨"s", "d", Or.inl ⟨_, rfl, rfl, rfl⟩⟩, by simp⟩
  obtain ⟨haccepted, -, hdocuments⟩ := ofData_of_spells spellsText_twoMembersData
  obtain ⟨library, hlibrary⟩ := haccepted.2 hshape
  have hdoc := hdocuments library hlibrary
  refine ⟨spellsText_twoMembersData, library, hlibrary, ?_, hdoc.size_eq⟩
  rw [hdoc.get?_eq_some_iff]
  exact ⟨.object secondMember, rfl, rfl, Or.inl ⟨_, rfl, rfl, rfl⟩⟩

end Library
end LmntalServer
