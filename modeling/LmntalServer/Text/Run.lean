import LmntalServer.Text.Units

/-!
# Runs of a character class

Words and completion tokens are both maximal runs of characters of one class.  A run keeps the
index at which it starts and the character before it, on which the two differ.

Main definitions:

* `Run`: a stretch of a text with its place.
* `Text.runs`: the maximal runs of a class, from left to right.

Main results:

* `Text.isMaximal_of_mem_runs`: what is listed is a maximal run of the text.
-/

namespace LmntalServer

/-- A stretch of a text: the character before it, if any, the index of its first character, and
its characters. -/
structure Run where
  before : Option Char
  start : Nat
  text : Text
deriving DecidableEq, Repr, Inhabited

namespace Run

/-- The index after the last character of a run. -/
def stop (r : Run) : Nat :=
  r.start + r.text.length

@[simp]
theorem stop_mk (before : Option Char) (start : Nat) (text : Text) :
    stop ⟨before, start, text⟩ = start + text.length :=
  rfl

end Run

namespace Text

theorem length_dropWhile_le (p : Char → Bool) (t : Text) :
    (t.dropWhile p).length ≤ t.length :=
  (List.dropWhile_suffix p).length_le

/-- What is left after a run does not begin with a character of the class. -/
theorem head?_dropWhile_all (p : Char → Bool) (t : Text) :
    (t.dropWhile p).head?.all (!p ·) = true := by
  induction t with
  | nil => rfl
  | cons c t ih =>
      rw [List.dropWhile_cons]
      split
      · exact ih
      · next h => simpa using h

/-- The maximal runs of a class in a text that starts at index `start` after the character
`before`. -/
def runsFrom (p : Char → Bool) (before : Option Char) (start : Nat) : Text → List Run
  | [] => []
  | c :: t =>
      if p c then
        let run := c :: t.takeWhile p
        ⟨before, start, run⟩ ::
          runsFrom p run.getLast? (start + run.length) (t.dropWhile p)
      else
        runsFrom p (some c) (start + 1) t
termination_by t => t.length
decreasing_by
  · have := length_dropWhile_le p t
    simp only [List.length_cons]
    omega
  · simp

/-- The maximal runs of a class in a text, from left to right. -/
def runs (p : Char → Bool) (t : Text) : List Run :=
  runsFrom p none 0 t

@[simp]
theorem runsFrom_nil (p : Char → Bool) (before : Option Char) (start : Nat) :
    runsFrom p before start [] = [] := by
  rw [runsFrom]

theorem runsFrom_cons_of_pos {p : Char → Bool} {c : Char} (hc : p c = true)
    (before : Option Char) (start : Nat) (t : Text) :
    runsFrom p before start (c :: t) =
      ⟨before, start, c :: t.takeWhile p⟩ ::
        runsFrom p (c :: t.takeWhile p).getLast? (start + (c :: t.takeWhile p).length)
          (t.dropWhile p) := by
  rw [runsFrom, if_pos hc]

theorem runsFrom_cons_of_neg {p : Char → Bool} {c : Char} (hc : p c = false)
    (before : Option Char) (start : Nat) (t : Text) :
    runsFrom p before start (c :: t) = runsFrom p (some c) (start + 1) t := by
  rw [runsFrom, if_neg (by simp [hc])]

/-! ## Maximality -/

/-- A run is maximal in a text if the text holds it at its place, all its characters are of the
class and there is at least one, and the neighbours on both sides are not of the class. -/
structure IsMaximalRun (p : Char → Bool) (t : Text) (r : Run) : Prop where
  ne_nil : r.text ≠ []
  all : r.text.all p = true
  place : ∃ pre post, t = pre ++ r.text ++ post ∧ r.start = pre.length ∧
    r.before = pre.getLast? ∧ r.before.all (!p ·) = true ∧ post.head?.all (!p ·) = true

theorem isMaximal_of_mem_runsFrom {p : Char → Bool} (pre t : Text) {r : Run}
    (hpre : t.head?.any p = true → pre.getLast?.all (!p ·) = true)
    (hr : r ∈ runsFrom p pre.getLast? pre.length t) : IsMaximalRun p (pre ++ t) r := by
  induction hn : t.length using Nat.strongRecOn generalizing pre t with
  | _ n ih =>
    cases t with
    | nil => simp at hr
    | cons c t =>
      cases hc : p c with
      | false =>
          rw [runsFrom_cons_of_neg hc] at hr
          have h := ih t.length (by simp only [List.length_cons] at hn; omega)
            (pre ++ [c]) t (by simp [hc]) (by simpa using hr) rfl
          simpa using h
      | true =>
          rw [runsFrom_cons_of_pos hc] at hr
          have hsplit : c :: t = (c :: t.takeWhile p) ++ t.dropWhile p := by simp
          rcases List.mem_cons.1 hr with rfl | hr
          · exact ⟨by simp, by simp [hc], pre, t.dropWhile p, by simp, rfl, rfl,
              hpre (by simp [hc]), head?_dropWhile_all p t⟩
          · have hlt : (t.dropWhile p).length < n := by
              have := length_dropWhile_le p t
              simp only [List.length_cons] at hn
              omega
            have hlast : (pre ++ c :: t.takeWhile p).getLast? =
                (c :: t.takeWhile p).getLast? := by
              rw [List.getLast?_append, List.getLast?_cons]
              rfl
            rw [hsplit, ← List.append_assoc]
            refine ih _ hlt _ _ ?_ ?_ rfl
            · intro h
              have := head?_dropWhile_all p t
              cases hd : t.dropWhile p with
              | nil => rw [hd] at h; simp at h
              | cons d ds =>
                  rw [hd] at h this
                  simp only [List.head?_cons, Option.any_some, Option.all_some] at h this
                  rw [h] at this
                  cases this
            · rw [hlast, List.length_append]
              exact hr

/-- What is listed is a maximal run of the text. -/
theorem isMaximal_of_mem_runs {p : Char → Bool} {t : Text} {r : Run} (hr : r ∈ runs p t) :
    IsMaximalRun p t r :=
  isMaximal_of_mem_runsFrom [] t (by simp) hr

end Text
end LmntalServer
