import LmntalServer.Text.Run
import LmntalServer.Text.WordChar

/-!
# Completion

The candidates are the distinct tokens of the whole text in the order in which they first occur.
A token is a maximal run of name characters that does not begin with a digit and is not glued to a
word character before it.

Main definitions:

* `Run.isToken`: the runs that are tokens.
* `Text.candidates`: the distinct tokens of a text.
* `CompletionItem`, `Text.completionItems`: the candidates as they are offered.

Main results:

* `Text.nodup_candidates`: no candidate is offered twice.
* `Text.map_label_completionItems`: the candidates are the labels that are offered.
* `Text.mem_candidates_iff`: every token is offered.
-/

namespace LmntalServer

/-- Whether a run of name characters is a token. -/
def Run.isToken (r : Run) : Bool :=
  r.text.head?.all (!·.isDigit) && r.before.all (!isWordChar ·)

/-- A completion item: a label to be inserted as plain text. -/
structure CompletionItem where
  label : String
deriving DecidableEq, Repr, Inhabited

namespace Text

/-- The tokens of a text from left to right, repetitions included. -/
def tokens (t : Text) : List String :=
  ((runs isNameChar t).filter Run.isToken).map (String.ofList ·.text)

/-- The distinct tokens of a text in the order of their first occurrences. -/
def candidates (t : Text) : List String :=
  (tokens t).eraseDups

/-- The candidates as completion items. -/
def completionItems (t : Text) : List CompletionItem :=
  (candidates t).map CompletionItem.mk

/-- The labels of the items are the candidates, in their order. -/
theorem map_label_completionItems (t : Text) :
    (completionItems t).map CompletionItem.label = candidates t := by
  rw [completionItems, List.map_map]
  exact List.map_id _

/-- Every token is offered, and nothing else. -/
theorem mem_candidates_iff {t : Text} {s : String} : s ∈ candidates t ↔ s ∈ tokens t :=
  List.mem_eraseDups

theorem nodup_eraseDups {l : List String} : l.eraseDups.Nodup := by
  induction hn : l.length using Nat.strongRecOn generalizing l with
  | _ n ih =>
      cases l with
      | nil => simp
      | cons a l =>
          rw [List.eraseDups_cons]
          have hle := List.length_filter_le (fun b => !b == a) l
          simp only [List.length_cons] at hn
          refine List.nodup_cons.2 ⟨fun ha => ?_, ih _ (by omega) rfl⟩
          simp [List.mem_eraseDups] at ha

/-- No candidate is offered twice. -/
theorem nodup_candidates (t : Text) : (candidates t).Nodup :=
  nodup_eraseDups

end Text
end LmntalServer
