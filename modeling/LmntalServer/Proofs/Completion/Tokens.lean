import LmntalServer.Completion
import LmntalServer.Proofs.Text.Runs

/-!
# Tokens on both sides of a character

A character that is no word character separates tokens: those of a text with such a character are
those before it and those behind it.  Where a text is cut into pieces in this way, the tokens can
be found in each piece by itself.

Main result:

* `Text.tokens_append_cons`: the tokens on both sides of a character that is no word character.
-/

namespace LmntalServer
namespace Text

/-- The tokens among some runs. -/
def tokensOf (rs : List Run) : List String :=
  (rs.filter Run.isToken).map (String.ofList ·.text)

theorem tokensOf_append (rs qs : List Run) : tokensOf (rs ++ qs) = tokensOf rs ++ tokensOf qs := by
  rw [tokensOf, List.filter_append, List.map_append]
  rfl

/-- Whether a run is a token is seen from its text and the character before it. -/
theorem tokensOf_singleton_congr {r q : Run} (htext : r.text = q.text)
    (hbefore : r.before.all (!isWordChar ·) = q.before.all (!isWordChar ·)) :
    tokensOf [r] = tokensOf [q] := by
  have htoken : r.isToken = q.isToken := by
    rw [Run.isToken, Run.isToken, htext, hbefore]
  cases hq : q.isToken <;> simp [tokensOf, htoken, hq, htext]

/-- Tokens do not depend on where a text stands, and on what stands before it only as far as this
is a word character. -/
theorem tokensOf_runsFrom_congr {a b : Option Char}
    (h : a.all (!isWordChar ·) = b.all (!isWordChar ·)) (i j : Nat) (t : Text) :
    tokensOf (runsFrom isNameChar a i t) = tokensOf (runsFrom isNameChar b j t) := by
  induction hn : t.length using Nat.strongRecOn generalizing a b i j t with
  | _ n ih =>
      cases t with
      | nil => rw [runsFrom_nil, runsFrom_nil]
      | cons c t =>
          rw [List.length_cons] at hn
          cases hc : isNameChar c with
          | true =>
              have hle := length_dropWhile_le isNameChar t
              rw [runsFrom_cons_of_pos hc, runsFrom_cons_of_pos hc, ← List.singleton_append,
                ← List.singleton_append (l := runsFrom _ _ (j + _) _), tokensOf_append,
                tokensOf_append, ih _ (by omega) rfl _ _ _ rfl]
              congr 1
              exact tokensOf_singleton_congr rfl h
          | false =>
              rw [runsFrom_cons_of_neg hc, runsFrom_cons_of_neg hc]
              exact ih t.length (by omega) rfl _ _ _ rfl

@[simp]
theorem tokens_nil : tokens [] = [] := by
  simp [tokens, runs]

/-- The tokens of a text are those on both sides of a character that is no word character. -/
theorem tokens_append_cons {c : Char} (hc : isWordChar c = false) (s t : Text) :
    tokens (s ++ c :: t) = tokens s ++ tokens t := by
  have hname : isNameChar c = false := by
    cases hname : isNameChar c with
    | false => rfl
    | true => rw [← hc, isWordChar_of_isNameChar hname]
  have hbehind : tokensOf (runsFrom isNameChar (some c) (0 + s.length + 1) t) =
      tokensOf (runsFrom isNameChar none 0 t) :=
    tokensOf_runsFrom_congr (by simp [hc]) _ _ t
  change tokensOf (runsFrom isNameChar none 0 (s ++ c :: t)) = _
  rw [runsFrom_append_cons hname, tokensOf_append, hbehind]
  rfl

end Text
end LmntalServer
