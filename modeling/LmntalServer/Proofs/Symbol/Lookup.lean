import LmntalServer.Symbol.Table
import Mathlib.Data.List.Dedup
import Mathlib.Data.List.Induction

/-!
# What a symbol table holds

A table is filled head by head, and each head replaces what an earlier one of the same name has
left.  So the atom of a name is the last head of this name, and the names are those of the heads.

Main results:

* `Dictionary.get?_ofList`: of several entries with one name the last counts.
* `Dictionary.mem_names_ofList`, `Dictionary.size_ofList`: every name counts once.
* `SymbolTable.lookup?_scan`: the atom of a name is the last head of this name.
* `SymbolTable.exists_lookup?_scan_of_mem_heads`: every head has an atom of its name.
* `SymbolTable.mem_names_scan`, `SymbolTable.size_scan`: the names and how many there are.
-/

namespace LmntalServer

namespace Dictionary

universe u

variable {α : Type u}

theorem ofList_concat (es : List (String × α)) (e : String × α) :
    ofList (es ++ [e]) = (ofList es).insert e.1 e.2 := by
  simp [ofList]

/-- The value of a name is that of the last entry of this name. -/
theorem get?_ofList (es : List (String × α)) (name : String) :
    (ofList es).get? name = ((es.filter fun e => e.1 = name).getLast?).map Prod.snd := by
  induction es using List.reverseRecOn with
  | nil => rfl
  | append_singleton es e ih =>
      rw [ofList_concat, List.filter_append]
      by_cases h : e.1 = name
      · subst h
        rw [get?_insert_self]
        simp
      · rw [get?_insert_of_ne h, ih]
        simp [h]

/-- Where every value has its own name, a name has the last value of this name. -/
theorem get?_ofList_map {β : Type u} (f : β → α) (nameOf : α → String) (bs : List β)
    (name : String) :
    (ofList ((bs.map f).map fun a => (nameOf a, a))).get? name =
      ((bs.filter fun b => nameOf (f b) = name).getLast?).map f := by
  rw [get?_ofList, List.map_map, List.filter_map, List.getLast?_map, Option.map_map]
  rfl

theorem mem_names_ofList {es : List (String × α)} {name : String} :
    name ∈ (ofList es).names ↔ name ∈ es.map Prod.fst := by
  rw [mem_names_iff, get?_ofList, Option.isSome_map, List.getLast?_isSome]
  simp [List.filter_eq_nil_iff]

/-- A dictionary has as many entries as there are different names. -/
theorem size_ofList (es : List (String × α)) :
    (ofList es).size = (es.map Prod.fst).dedup.length := by
  have hnodup : (ofList es).names.Nodup := by
    refine (pairwise_names (ofList es)).imp ?_
    rintro a _ hlt rfl
    exact String.lt_irrefl a hlt
  have hperm : (ofList es).names.Perm (es.map Prod.fst).dedup := by
    rw [List.perm_ext_iff_of_nodup hnodup (List.nodup_dedup _)]
    intro name
    rw [mem_names_ofList, List.mem_dedup]
  rw [← hperm.length_eq]
  exact (length_names _).symm

end Dictionary

namespace SymbolTable

/-- The atom of a name is the last head of this name. -/
theorem lookup?_scan (t : Text) (u : Uri) (name : String) :
    (scan t u).lookup? name =
      ((t.heads.filter fun h => String.ofList h.name = name).getLast?).map (entryOf u) := by
  unfold lookup? scan
  exact Dictionary.get?_ofList_map (entryOf u) SymbolEntry.name t.heads name

/-- The name of a head has an atom, that of the last head with this name. -/
theorem exists_lookup?_scan_of_mem_heads {t : Text} {h : Head} (hh : h ∈ t.heads) (u : Uri) :
    ∃ k ∈ t.heads, k.name = h.name ∧
      (t.heads.filter fun k => k.name = h.name).getLast? = some k ∧
      (scan t u).lookup? (String.ofList h.name) = some (entryOf u k) := by
  obtain ⟨k, hk⟩ : ∃ k, (t.heads.filter fun k => k.name = h.name).getLast? = some k := by
    rw [← Option.isSome_iff_exists, List.getLast?_isSome]
    exact List.ne_nil_of_mem (List.mem_filter.2 ⟨hh, by simp⟩)
  obtain ⟨hmem, hname⟩ := List.mem_filter.1 (List.mem_of_getLast? hk)
  refine ⟨k, hmem, of_decide_eq_true hname, hk, ?_⟩
  rw [lookup?_scan]
  simp only [String.ofList_inj]
  rw [hk, Option.map_some]

/-- Every atom of a table belongs to the document that was scanned. -/
theorem document_of_lookup?_scan {t : Text} {u : Uri} {name : String} {e : SymbolEntry}
    (h : (scan t u).lookup? name = some e) : e.document = u := by
  rw [lookup?_scan] at h
  obtain ⟨head, -, rfl⟩ := Option.map_eq_some_iff.1 h
  rfl

/-- The names of a table are the names of the heads. -/
theorem mem_names_scan {t : Text} {u : Uri} {name : String} :
    name ∈ (scan t u).names ↔ name ∈ t.heads.map (String.ofList ·.name) := by
  unfold names scan
  rw [Dictionary.mem_names_ofList, List.map_map, List.map_map]
  rfl

/-- There are as many atoms as different names of heads. -/
theorem size_scan (t : Text) (u : Uri) :
    (scan t u).size = (t.heads.map (String.ofList ·.name)).dedup.length := by
  unfold size scan
  rw [Dictionary.size_ofList, List.map_map, List.map_map]
  rfl

end SymbolTable
end LmntalServer
