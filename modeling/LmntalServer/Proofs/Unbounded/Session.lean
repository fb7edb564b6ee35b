import LmntalServer.Proofs.Session.Focus
import LmntalServer.Proofs.Unbounded.Basic

/-!
# Sessions count exactly

A session answers with lines and columns, and keeps lines in a table that may be older than the text
that it answers about.  As long as words can count the code units of every text that its documents
have in the course of a run, the table holds the lines that natural numbers would give, and every
hover shows them.

Main definitions:

* `Session.TextsFit`: words can count every text of a run.
* `Contents.unboundedHover?`: the hover that a text gives by itself, by natural numbers.

Main results:

* `Session.agrees_symbols`: nothing wraps in the table.
* `Session.unbounded_hover`: nothing wraps in an answer.
* `Session.arithmetic_exact`: nothing wraps over a text that words can count, and in no run over
  such texts.
-/

namespace LmntalServer

/-- The hover that the contents of the document `u` give by themselves, by natural numbers. -/
def Contents.unboundedHover? (library : Library) (u : Uri) (c : Contents)
    (p : Unbounded.Position) : Option Unbounded.Hover :=
  if isLmntal u c.language then
    Unbounded.hover library (Unbounded.scan c.text u) c.text p
  else none

namespace Session

variable {library : Library} {es : List Event}

/-- The code units of every text that a document has at some time of a run are so few that words can
count them. -/
def TextsFit (library : Library) (es : List Event) : Prop :=
  ∀ front back, es = front ++ back → ∀ u c,
    ((start library).run front).contents? u = some c → c.text.units < UInt32.size

/-- The table of a session is empty or that of a text of the run, and nothing wraps in it. -/
theorem agrees_symbols (h : TextsFit library es) :
    ∃ atoms, ((start library).run es).symbols.Agrees atoms ∧
      (atoms = Dictionary.empty ∨ ∃ front back u c, es = front ++ back ∧
        ((start library).run front).contents? u = some c ∧ atoms = Unbounded.scan c.text u) := by
  rcases symbols_eq_empty_or_lastActivation library es with hempty | ⟨u, before, e, after, hlast⟩
  · refine ⟨Dictionary.empty, ?_, Or.inl rfl⟩
    rw [hempty]
    exact SymbolTable.agrees_empty
  · obtain ⟨c, hc, hsymbols, -⟩ := symbols_of_lastActivation hlast
    have hsplit : es = (before ++ [e]) ++ after := by
      rw [hlast.split, List.append_assoc]
      rfl
    have hsmall : c.text.units < UInt32.size := h _ _ hsplit u c hc
    refine ⟨Unbounded.scan c.text u, ?_, Or.inr ⟨_, _, u, c, hsplit, hc, rfl⟩⟩
    rw [hsymbols]
    exact SymbolTable.agrees_scan hsmall u

/-- A hover is that of the contents by natural numbers. -/
theorem unbounded_hover (h : TextsFit library es) (u : Uri) (p : Position) :
    (((start library).run es).hover u p).2.map Hover.unbounded =
      (((start library).run es).contents? u).bind (·.unboundedHover? library u p.unbounded) := by
  have hcurrent := isCurrent_run (isCurrent_start library) es u
  rw [hover_eq_of_isCurrent hcurrent, library_run, Option.map_bind]
  refine Option.bind_congr fun c hc => ?_
  have hsmall : c.text.units < UInt32.size := h es [] (List.append_nil es).symm u c hc
  rw [Function.comp_apply]
  by_cases hlmntal : isLmntal u c.language = true
  · rw [Contents.hover?_of_isLmntal hlmntal, Contents.unboundedHover?, if_pos hlmntal]
    exact (SymbolTable.agrees_scan hsmall u).unbounded_hover hsmall library p
  · rw [Contents.hover?, Contents.unboundedHover?, if_neg hlmntal, if_neg hlmntal]
    rfl

/-- Over a text whose code units words can count, nothing wraps: not the sums of a search for a
column, not the columns of a word, not the line of a head and not the line after it.  In a run over
such texts the table holds the lines that natural numbers give, and every hover is that of the text
of its document by natural numbers. -/
theorem arithmetic_exact (library : Library) :
    (∀ t : Text, t.units < UInt32.size → t.IsExact) ∧
    ∀ es, TextsFit library es →
      let s := (start library).run es
      (∃ atoms, s.symbols.Agrees atoms ∧
        (atoms = Dictionary.empty ∨ ∃ front back u c, es = front ++ back ∧
          ((start library).run front).contents? u = some c ∧ atoms = Unbounded.scan c.text u)) ∧
      ∀ u p, (s.hover u p).2.map Hover.unbounded =
        (s.contents? u).bind (·.unboundedHover? library u p.unbounded) :=
  ⟨fun _ h => Text.isExact_of_units_lt h, fun _ h => ⟨agrees_symbols h, unbounded_hover h⟩⟩

/-- A hover over the second of two heads of one name, on a line that begins with a surrogate pair
and behind an argument list that goes over a line break. -/
theorem arithmetic_exact_of_two_heads :
    let u : Uri := ⟨"file", none, "/x.lmn", none, none⟩
    let t : Text := "f(X,\r\n 𝑥) :- g.\nf :- h.\n𝑥f, g.".toList
    let es : List Event := [.openDocument u "lmntal" 1 t]
    let s := (start Dictionary.empty).run es
    t.units < UInt32.size ∧ t.IsExact ∧ TextsFit Dictionary.empty es ∧
      (∃ atoms, s.symbols.Agrees atoms ∧
        (atoms = Dictionary.empty ∨ ∃ front back v c, es = front ++ back ∧
          ((start Dictionary.empty).run front).contents? v = some c ∧
          atoms = Unbounded.scan c.text v)) ∧
      (s.hover u ⟨3, 3⟩).2.map Hover.unbounded =
        some ⟨"**f** is a user-defined atom.\n\nDefined in `x.lmn` at line 3.", ⟨3, 2⟩, ⟨3, 3⟩⟩ := by
  intro u t es s
  have hsmall : t.units < UInt32.size := by decide +kernel
  have hfit : TextsFit Dictionary.empty es := by
    intro front back hes v c hc
    rw [contents?_run] at hc
    rcases front with _ | ⟨e, _ | ⟨f, front⟩⟩
    · cases hc
    · obtain ⟨rfl, -⟩ := List.cons.inj hes
      simp only [List.foldl_cons, List.foldl_nil, Event.act, contents?_start] at hc
      split at hc
      · cases hc
        exact hsmall
      · cases hc
    · simp [es] at hes
  obtain ⟨htexts, hruns⟩ := arithmetic_exact Dictionary.empty
  obtain ⟨hsymbols, hhover⟩ := hruns es hfit
  refine ⟨hsmall, htexts t hsmall, hfit, hsymbols, (hhover u ⟨3, 3⟩).trans ?_⟩
  decide +kernel

end Session
end LmntalServer
