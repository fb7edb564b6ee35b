import LmntalServer.Text.Run
import Mathlib.Data.List.Basic
import Mathlib.Data.List.Pairwise

/-!
# The maximal runs of a text

A scan from left to right lists all maximal runs of a class and nothing else.  Two of them never
meet: at least one character of another class stands between them.  So at most one run touches an
index, even if both ends of a run count as touched, and there is one exactly if a character next
to the index is of the class.

Main results:

* `Text.runsFrom_append_cons`: the runs of a class on both sides of a character of another class.
* `Text.mem_runs_iff`: the listed runs are the maximal runs.
* `Text.pairwise_runs`: two runs never meet.
* `Text.eq_of_isMaximalRun`: at most one maximal run touches an index.
* `Text.exists_isMaximalRun_iff`: when a maximal run touches an index.
-/

namespace LmntalServer
namespace Text

/-! ## Cuts between runs -/

/-- A character of another class ends what is taken in front of it. -/
theorem takeWhile_append_cons {p : Char → Bool} {c : Char} (hc : p c = false) (s t : Text) :
    (s ++ c :: t).takeWhile p = s.takeWhile p := by
  induction s with
  | nil => rw [List.nil_append, List.takeWhile_cons_of_neg (by simp [hc]), List.takeWhile_nil]
  | cons d s ih =>
      rw [List.cons_append, List.takeWhile_cons, List.takeWhile_cons, ih]

/-- From a character of another class on nothing is dropped. -/
theorem dropWhile_append_cons {p : Char → Bool} {c : Char} (hc : p c = false) (s t : Text) :
    (s ++ c :: t).dropWhile p = s.dropWhile p ++ c :: t := by
  induction s with
  | nil => rw [List.nil_append, List.dropWhile_cons_of_neg (by simp [hc])]; rfl
  | cons d s ih =>
      rw [List.cons_append, List.dropWhile_cons, List.dropWhile_cons, ih]
      split <;> rfl

/-- The runs of a class on both sides of a character of another class. -/
theorem runsFrom_append_cons {p : Char → Bool} {c : Char} (hc : p c = false)
    (before : Option Char) (start : Nat) (s t : Text) :
    runsFrom p before start (s ++ c :: t) =
      runsFrom p before start s ++ runsFrom p (some c) (start + s.length + 1) t := by
  induction hn : s.length using Nat.strongRecOn generalizing before start s with
  | _ n ih =>
      cases s with
      | nil =>
          subst hn
          rw [List.nil_append, runsFrom_cons_of_neg hc, runsFrom_nil, List.nil_append]
          rfl
      | cons d s =>
          rw [List.length_cons] at hn
          rw [List.cons_append]
          cases hd : p d with
          | true =>
              have hle := length_dropWhile_le p s
              have hsplit :=
                congrArg List.length (List.takeWhile_append_dropWhile (p := p) (l := s))
              rw [List.length_append] at hsplit
              rw [runsFrom_cons_of_pos hd, runsFrom_cons_of_pos hd, takeWhile_append_cons hc,
                dropWhile_append_cons hc, ih (s.dropWhile p).length (by omega) _ _ _ rfl,
                List.cons_append, List.length_cons]
              congr 3
              omega
          | false =>
              rw [runsFrom_cons_of_neg hd, runsFrom_cons_of_neg hd,
                ih s.length (by omega) _ _ _ rfl]
              congr 2
              omega

/-! ## Order -/

/-- Of two entries of an ordered list one comes before the other. -/
theorem rel_or_rel_of_mem {α : Type} {R : α → α → Prop} {l : List α} (h : l.Pairwise R) {a b : α}
    (ha : a ∈ l) (hb : b ∈ l) (hne : a ≠ b) : R a b ∨ R b a := by
  have hsymm : Std.Symm (fun a b => R a b ∨ R b a) := ⟨fun _ _ => Or.symm⟩
  have hapart : l.Pairwise (fun a b => R a b ∨ R b a) := h.imp Or.inl
  exact hapart.forall ha hb hne

section
variable {p : Char → Bool} {before : Option Char} {start : Nat} {t : Text} {r s : Run}

/-- No run of a text starts before the text does. -/
theorem start_le_of_mem_runsFrom (hr : r ∈ runsFrom p before start t) : start ≤ r.start := by
  induction before, start, t using runsFrom.induct p with
  | case1 before start => simp at hr
  | case2 before start c t hc run ih =>
      rw [runsFrom_cons_of_pos hc] at hr
      rcases List.mem_cons.1 hr with rfl | hr
      · exact Nat.le_refl _
      · exact Nat.le_of_add_right_le (ih hr)
  | case3 before start c t hc ih =>
      rw [runsFrom_cons_of_neg (by simpa using hc)] at hr
      exact Nat.le_of_succ_le (ih hr)

/-- Behind each run stands a character of another class before the next one starts. -/
theorem pairwise_runsFrom (p : Char → Bool) (before : Option Char) (start : Nat) (t : Text) :
    (runsFrom p before start t).Pairwise (fun r s => r.stop < s.start) := by
  induction before, start, t using runsFrom.induct p with
  | case1 before start => simp
  | case3 before start c t hc ih =>
      rw [runsFrom_cons_of_neg (by simpa using hc)]
      exact ih
  | case2 before start c t hc run ih =>
      rw [runsFrom_cons_of_pos hc]
      refine List.Pairwise.cons (fun s hs => ?_) ih
      have hhead := head?_dropWhile_all p t
      cases hrest : t.dropWhile p with
      | nil =>
          rw [hrest] at hs
          simp at hs
      | cons d u =>
          rw [hrest] at hhead hs
          have hd : p d = false := by simpa using hhead
          rw [runsFrom_cons_of_neg hd] at hs
          exact start_le_of_mem_runsFrom hs

/-- Runs stand apart from each other. -/
theorem pairwise_runs (p : Char → Bool) (t : Text) :
    (runs p t).Pairwise (fun r s => r.stop < s.start) :=
  pairwise_runsFrom p none 0 t

/-! ## Completeness -/

/-- Every character of the class lies in a run. -/
theorem exists_mem_runsFrom {c : Char} (hc : p c = true) (before : Option Char) (start : Nat)
    (t : Text) : ∀ i, t[i]? = some c →
      ∃ r ∈ runsFrom p before start t, r.start ≤ start + i ∧ start + i < r.stop := by
  induction before, start, t using runsFrom.induct p with
  | case1 before start =>
      intro i hi
      simp at hi
  | case2 before start d t hd run ih =>
      intro i hi
      rw [runsFrom_cons_of_pos hd]
      by_cases hin : i < run.length
      · refine ⟨_, List.mem_cons_self, Nat.le_add_right _ _, ?_⟩
        exact Nat.add_lt_add_left hin start
      · have hsplit : d :: t = run ++ t.dropWhile p := by simp [run]
        rw [hsplit, List.getElem?_append_right (by omega)] at hi
        obtain ⟨r, hr, hlow, hhigh⟩ := ih _ hi
        exact ⟨r, List.mem_cons_of_mem _ hr, by omega, by omega⟩
  | case3 before start d t hd ih =>
      intro i hi
      rw [runsFrom_cons_of_neg (by simpa using hd)]
      cases i with
      | zero =>
          cases hi
          exact absurd hc hd
      | succ i =>
          obtain ⟨r, hr, hlow, hhigh⟩ := ih i hi
          exact ⟨r, hr, by omega, by omega⟩

/-- A run at the front of a text is listed first, if the text goes on with another class. -/
theorem mem_runsFrom_append {a post : Text} (hne : a ≠ []) (hall : a.all p = true)
    (hpost : post.head?.all (!p ·) = true) (before : Option Char) (start : Nat) :
    ⟨before, start, a⟩ ∈ runsFrom p before start (a ++ post) := by
  obtain ⟨c, a, rfl⟩ := List.exists_cons_of_ne_nil hne
  rw [List.all_cons, Bool.and_eq_true, List.all_eq_true] at hall
  obtain ⟨hc, ha⟩ := hall
  have htake : (a ++ post).takeWhile p = a := by
    have hstop : post.takeWhile p = [] := by
      cases post with
      | nil => rfl
      | cons d post =>
          have hd : p d = false := by simpa using hpost
          rw [List.takeWhile_cons_of_neg (by simp [hd])]
    rw [List.takeWhile_append_of_pos ha, hstop, List.append_nil]
  rw [List.cons_append, runsFrom_cons_of_pos hc, htake]
  exact List.mem_cons_self

/-- The runs of a text that are listed are its maximal runs.  What stands in front of a maximal run
ends with a character of another class, with which the lister begins anew. -/
theorem mem_runs_iff : r ∈ runs p t ↔ IsMaximalRun p t r := by
  constructor
  · exact isMaximal_of_mem_runs
  · rintro ⟨hne, hall, pre, post, rfl, hstart, hbefore, hleft, hright⟩
    obtain ⟨before, start, text⟩ := r
    simp only at hne hall hstart hbefore hleft ⊢
    subst hstart hbefore
    rw [runs, List.append_assoc]
    rcases List.eq_nil_or_concat' pre with rfl | ⟨pre, d, rfl⟩
    · exact mem_runsFrom_append hne hall hright none 0
    · have hd : p d = false := by simpa using hleft
      rw [List.append_assoc, List.singleton_append, runsFrom_append_cons hd,
        List.getLast?_concat, List.length_append, List.length_singleton, Nat.zero_add]
      exact List.mem_append_right _ (mem_runsFrom_append hne hall hright _ _)

/-! ## The run at an index -/

/-- At most one maximal run touches an index. -/
theorem eq_of_isMaximalRun {k : Nat} (hr : IsMaximalRun p t r) (hs : IsMaximalRun p t s)
    (hrk : r.start ≤ k ∧ k ≤ r.stop) (hsk : s.start ≤ k ∧ k ≤ s.stop) : r = s := by
  by_contra hne
  rcases rel_or_rel_of_mem (pairwise_runs p t) (mem_runs_iff.2 hr) (mem_runs_iff.2 hs) hne with
    h | h
  · omega
  · omega

/-- All characters of a maximal run are of the class. -/
theorem IsMaximalRun.getElem? (h : IsMaximalRun p t r) {i : Nat} (hlow : r.start ≤ i)
    (hhigh : i < r.stop) : ∃ c, t[i]? = some c ∧ p c = true := by
  obtain ⟨-, hall, pre, post, rfl, hstart, -, -, -⟩ := h
  obtain ⟨j, rfl⟩ := Nat.exists_eq_add_of_le hlow
  have hj : j < r.text.length := by
    unfold Run.stop at hhigh
    omega
  refine ⟨r.text[j], ?_, List.all_eq_true.1 hall _ (List.getElem_mem hj)⟩
  rw [hstart, List.append_assoc, List.getElem?_append_right (Nat.le_add_right _ _),
    Nat.add_sub_cancel_left, List.getElem?_append_left hj, List.getElem?_eq_getElem]

/-- A maximal run touches an index exactly if one of the two characters next to the index is of the
class.  A run that ends at the index is not empty, so its last character is next to the index. -/
theorem exists_isMaximalRun_iff {k : Nat} :
    (∃ r, IsMaximalRun p t r ∧ r.start ≤ k ∧ k ≤ r.stop) ↔
      ∃ c, p c = true ∧ (0 < k ∧ t[k - 1]? = some c ∨ t[k]? = some c) := by
  constructor
  · rintro ⟨r, hr, hlow, hhigh⟩
    by_cases hk : k < r.stop
    · obtain ⟨c, hc, hp⟩ := hr.getElem? hlow hk
      exact ⟨c, hp, Or.inr hc⟩
    · have hpos : 0 < r.text.length := List.length_pos_iff.2 hr.ne_nil
      have hstop : r.stop = r.start + r.text.length := rfl
      obtain ⟨c, hc, hp⟩ := hr.getElem? (i := k - 1) (by omega) (by omega)
      exact ⟨c, hp, Or.inl ⟨by omega, hc⟩⟩
  · rintro ⟨c, hp, ⟨hpos, hc⟩ | hc⟩
    · obtain ⟨r, hr, hlow, hhigh⟩ := exists_mem_runsFrom hp none 0 t _ hc
      exact ⟨r, mem_runs_iff.1 hr, by omega, by omega⟩
    · obtain ⟨r, hr, hlow, hhigh⟩ := exists_mem_runsFrom hp none 0 t _ hc
      exact ⟨r, mem_runs_iff.1 hr, by omega, by omega⟩

end

end Text
end LmntalServer
