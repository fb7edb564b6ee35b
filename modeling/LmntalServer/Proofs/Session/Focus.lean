import LmntalServer.Proofs.Session.Freshness
import LmntalServer.Proofs.Symbol.Lookup

/-!
# What the symbol table describes

A session has one symbol table, and it describes the document that was activated last: by opening
it, by changing it, or by a hover over it.  The table is cleared when this document is closed and
by a shutdown.  Nothing else touches it: not documents in other languages, not changes that are
refused, not completions, not the closing of other documents.

Main definitions:

* `Session.Activates`: the events that activate a document.
* `LastActivation`: where a run activated a document for the last time.

Main results:

* `Session.symbols_step_of_activates`, `Session.symbols_step_of_not_activates`: what a step does
  to the table.
* `Session.symbols_of_lastActivation`: the table after the last activation.
* `Session.symbols_after_run`: what the table describes after a run.
-/

namespace LmntalServer

namespace Session

/-- An event activates a document that is written in the language: it opens it, changes it while
it is open and with a version that is accepted, or asks for a hover over it while it is open. -/
inductive Activates (s : Session) (u : Uri) : Event → Prop
  | opened {language : String} {version : Int} {text : Text}
      (hlmntal : isLmntal u language = true) :
      Activates s u (.openDocument u language version text)
  | changed {d e : Document} {version : Int} {changes : List Change}
      (hopen : s.documents.find? u = some d) (hlmntal : d.isLmntal = true)
      (haccepted : d.edit changes version = .ok e) :
      Activates s u (.changeDocument u version changes)
  | hovered {d : Document} {p : Position}
      (hopen : s.documents.find? u = some d) (hlmntal : d.isLmntal = true) :
      Activates s u (.hover u p)

end Session

/-- The run `es` activated the document `u` by the event `e` after the events `before`.  Since
then no document was activated, there was no shutdown, and `u` was not closed. -/
structure LastActivation (library : Library) (u : Uri) (es before : List Event) (e : Event)
    (after : List Event) : Prop where
  split : es = before ++ e :: after
  activates : ((Session.start library).run before).Activates u e
  quiet : ∀ mid f rest, after = mid ++ f :: rest →
    ∀ v, ¬((Session.start library).run (before ++ e :: mid)).Activates v f
  alive : .shutdown ∉ after
  kept : .closeDocument u ∉ after

namespace Session

/-! ## Steps -/

/-- After the scan of a document of the language the table is that of its text. -/
theorem symbols_index_of_isLmntal {d : Document} (h : d.isLmntal = true) (s : Session) :
    (s.index d).symbols = SymbolTable.scan d.text d.uri := by
  unfold index
  rw [if_pos h]

/-- A document of another language is not scanned. -/
theorem index_of_not_isLmntal {d : Document} (h : ¬d.isLmntal = true) (s : Session) :
    s.index d = s :=
  if_neg h

/-- An accepted change leaves a document with its URI and its language. -/
theorem edit_eq_ok {d e : Document} {changes : List Change} {version : Int}
    (h : d.edit changes version = .ok e) : d.version < version ∧ e = d.revised changes version := by
  unfold Document.edit at h
  split at h
  · cases h
  · next hnewer =>
      cases h
      exact ⟨Int.not_le.1 hnewer, rfl⟩

/-- A hover has the table of the document that it is over. -/
theorem symbols_focus {s : Session} {u : Uri} {d : Document} (h : s.IsCurrent u)
    (hopen : s.documents.find? u = some d) (hlmntal : d.isLmntal = true) :
    (s.focus d).symbols = SymbolTable.scan d.text u := by
  have huri : d.uri = u := Documents.uri_of_find? hopen
  subst huri
  unfold focus
  split
  · next hactive => exact h hactive d.contents (contents?_of_find? hopen) hlmntal
  · exact symbols_index_of_isLmntal hlmntal s

/-- After an event that activates a document, the table is that of the document's text. -/
theorem symbols_step_of_activates {s : Session} {u : Uri} {e : Event} (h : s.IsCurrent u)
    (he : s.Activates u e) :
    ∃ c, (s.step e).contents? u = some c ∧ (s.step e).symbols = SymbolTable.scan c.text u := by
  cases he with
  | @opened language version text hlmntal =>
      refine ⟨⟨language, version, text⟩, ?_, ?_⟩
      · rw [contents?_step]
        exact if_pos rfl
      · exact symbols_index_of_isLmntal (d := ⟨s.nextId, u, language, text, version⟩) hlmntal _
  | @changed d e version changes hopen hlmntal haccepted =>
      obtain ⟨hnewer, rfl⟩ := edit_eq_ok haccepted
      have huri : d.uri = u := Documents.uri_of_find? hopen
      refine ⟨(d.revised changes version).contents, ?_, ?_⟩
      · rw [contents?_step, contents?_of_find? hopen]
        exact (if_pos rfl).trans (congrArg some (Contents.edit_of_newer hnewer changes))
      · change (s.changeDocument u version changes).symbols = _
        have hrevised : (d.revised changes version).isLmntal = true := hlmntal
        rw [changeDocument_of_newer hopen hnewer, symbols_index_of_isLmntal hrevised]
        exact congrArg (SymbolTable.scan _) huri
  | @hovered d p hopen hlmntal =>
      have hsource : s.source? u = some d := by
        rw [source?, hopen]
        exact Option.filter_eq_some_iff.2 ⟨rfl, hlmntal⟩
      refine ⟨d.contents, ?_, ?_⟩
      · rw [contents?_step]
        exact contents?_of_find? hopen
      · change (s.hover u p).1.symbols = _
        unfold hover
        rw [hsource]
        exact symbols_focus h hopen hlmntal

/-- An event that activates no document leaves the table alone, unless it is a shutdown or closes
the document that the table describes. -/
theorem symbols_step_of_not_activates {s : Session} {e : Event} (h : ∀ u, ¬s.Activates u e)
    (hshutdown : e ≠ .shutdown)
    (hclose : ∀ u, s.symbols.document = some u → e ≠ .closeDocument u) :
    (s.step e).symbols = s.symbols := by
  cases e with
  | connect => rfl
  | ready => rfl
  | shutdown => exact absurd rfl hshutdown
  | openDocument u language version text =>
      have hother : ¬Document.isLmntal ⟨s.nextId, u, language, text, version⟩ = true :=
        fun hlmntal => h u (.opened hlmntal)
      change (s.openDocument u language version text).symbols = s.symbols
      unfold openDocument
      rw [index_of_not_isLmntal hother]
  | changeDocument u version changes =>
      change (s.changeDocument u version changes).symbols = s.symbols
      rcases changeDocument_cases s u version changes with ⟨-, hsame⟩ | ⟨d, hopen, hnewer, hnew⟩
      · rw [hsame]
      · have hother : ¬(d.revised changes version).isLmntal = true := fun hlmntal =>
          h u (.changed hopen hlmntal (Document.edit_of_lt hnewer changes))
        rw [hnew, index_of_not_isLmntal hother]
  | closeDocument u => exact if_neg fun hu => hclose u hu rfl
  | hover u p =>
      change (s.hover u p).1.symbols = s.symbols
      unfold hover
      cases hsource : s.source? u with
      | none => rfl
      | some d =>
          obtain ⟨hopen, hlmntal⟩ := find?_of_source? hsource
          exact absurd (.hovered hopen hlmntal) (h u)
  | complete u p => rfl

/-- The table is cleared by a shutdown, and by closing the document that it describes. -/
theorem symbols_step_of_clears {s : Session} {e : Event}
    (h : e = .shutdown ∨ ∃ u, s.symbols.document = some u ∧ e = .closeDocument u) :
    (s.step e).symbols = SymbolTable.empty := by
  rcases h with rfl | ⟨u, hu, rfl⟩
  · rfl
  · exact if_pos hu

/-- An open document stays open unless it is closed or the session shut down. -/
theorem isSome_contents?_step {s : Session} {u : Uri} {e : Event}
    (h : (s.contents? u).isSome = true) (hshutdown : e ≠ .shutdown)
    (hclose : e ≠ .closeDocument u) : ((s.step e).contents? u).isSome = true := by
  rw [contents?_step]
  cases e with
  | shutdown => exact absurd rfl hshutdown
  | openDocument v language version text =>
      simp only [Event.act]
      split
      · rfl
      · exact h
  | changeDocument v version changes =>
      simp only [Event.act]
      split
      · rw [Option.isSome_map]
        exact h
      · exact h
  | closeDocument v =>
      have hne : v ≠ u := fun hv => hclose (hv ▸ rfl)
      rw [Event.act, if_neg hne]
      exact h
  | _ => exact h

/-! ## Runs -/

variable {library : Library} {u : Uri} {es before after : List Event} {e : Event}

/-- After an activation that no later event has undone, the document is open and the table is that
of the text that it had then.  The events since the activation are taken from the last one
backwards. -/
theorem symbols_of_lastActivation (h : LastActivation library u es before e after) :
    ∃ c, ((start library).run (before ++ [e])).contents? u = some c ∧
      ((start library).run es).symbols = SymbolTable.scan c.text u ∧
      (((start library).run es).contents? u).isSome = true := by
  induction after using List.reverseRecOn generalizing es with
  | nil =>
      obtain ⟨rfl, hactivates, -, -, -⟩ := h
      rw [run_concat]
      obtain ⟨c, hc, hsymbols⟩ :=
        symbols_step_of_activates (isCurrent_run (isCurrent_start library) before u) hactivates
      exact ⟨c, hc, hsymbols, hc ▸ rfl⟩
  | append_singleton after f ih =>
      obtain ⟨rfl, hactivates, hquiet, halive, hkept⟩ := h
      simp only [List.mem_append, List.mem_singleton, not_or] at halive hkept
      obtain ⟨c, hc, hsymbols, hopen⟩ := ih
        { split := rfl
          activates := hactivates
          quiet := fun mid g rest hafter => hquiet mid g (rest ++ [f]) (by simp [hafter])
          alive := halive.1
          kept := hkept.1 }
      have hsplit : before ++ e :: (after ++ [f]) = (before ++ e :: after) ++ [f] := by simp
      have hsame : (((start library).run (before ++ e :: after)).step f).symbols =
          ((start library).run (before ++ e :: after)).symbols := by
        refine symbols_step_of_not_activates (hquiet after f [] rfl) (Ne.symm halive.2) ?_
        intro v hv
        rw [hsymbols, SymbolTable.document_scan] at hv
        cases hv
        exact Ne.symm hkept.2
      refine ⟨c, hc, ?_, ?_⟩
      · rw [hsplit, run_concat]
        exact hsame.trans hsymbols
      · rw [hsplit, run_concat]
        exact isSome_contents?_step hopen (Ne.symm halive.2) (Ne.symm hkept.2)

/-- A further event that activates nothing and neither closes the document nor shuts down leaves
the last activation where it was. -/
theorem lastActivation_concat (h : LastActivation library u es before e after) {f : Event}
    (hquiet : ∀ v, ¬((start library).run es).Activates v f) (hshutdown : f ≠ .shutdown)
    (hclose : f ≠ .closeDocument u) :
    LastActivation library u (es ++ [f]) before e (after ++ [f]) := by
  obtain ⟨rfl, hactivates, hbefore, halive, hkept⟩ := h
  refine ⟨by simp, hactivates, ?_, ?_, ?_⟩
  · intro mid g rest hafter
    rcases List.eq_nil_or_concat rest with rfl | ⟨rest, k, rfl⟩
    · obtain ⟨rfl, hfg⟩ := List.append_inj' hafter rfl
      cases hfg
      exact hquiet
    · have hsplit : after ++ [f] = (mid ++ g :: rest) ++ [k] := by simpa using hafter
      exact hbefore mid g rest (List.append_inj' hsplit rfl).1
  · simpa [halive] using Ne.symm hshutdown
  · simpa [hkept] using Ne.symm hclose

/-- After a run the table is empty, or some document was activated last. -/
theorem symbols_eq_empty_or_lastActivation (library : Library) (es : List Event) :
    ((start library).run es).symbols = SymbolTable.empty ∨
      ∃ u before e after, LastActivation library u es before e after := by
  induction es using List.reverseRecOn with
  | nil => exact Or.inl rfl
  | append_singleton es f ih =>
      by_cases hactivates : ∃ v, ((start library).run es).Activates v f
      · obtain ⟨v, hv⟩ := hactivates
        exact Or.inr ⟨v, es, f, [], rfl, hv, by simp, by simp, by simp⟩
      · have hquiet : ∀ v, ¬((start library).run es).Activates v f := fun v hv =>
          hactivates ⟨v, hv⟩
        rw [run_concat]
        by_cases hshutdown : f = .shutdown
        · exact Or.inl (symbols_step_of_clears (Or.inl hshutdown))
        rcases ih with hempty | ⟨u, before, e, after, hlast⟩
        · left
          rw [← hempty]
          refine symbols_step_of_not_activates hquiet hshutdown fun v hv => ?_
          rw [hempty] at hv
          cases hv
        · by_cases hclose : f = .closeDocument u
          · obtain ⟨c, -, hsymbols, -⟩ := symbols_of_lastActivation hlast
            refine Or.inl (symbols_step_of_clears (Or.inr ⟨u, ?_, hclose⟩))
            rw [hsymbols, SymbolTable.document_scan]
          · exact Or.inr ⟨u, before, e, _, lastActivation_concat hlast hquiet hshutdown hclose⟩

/-- After a run the table describes a document exactly if this document was activated last, was
not closed since, and there was no shutdown since.  The table is then that of the text which the
document had right after it was activated, and the document is still open; otherwise the table is
empty.  What activates no document leaves the table alone, unless it clears it. -/
theorem symbols_after_run (library : Library) (es : List Event) :
    let s := (start library).run es
    (∀ u, s.symbols.document = some u ↔
      ∃ before e after, LastActivation library u es before e after) ∧
    (∀ u before e after, LastActivation library u es before e after →
      (∃ c, ((start library).run (before ++ [e])).contents? u = some c ∧
        s.symbols = SymbolTable.scan c.text u) ∧
      (∀ name a, s.symbols.lookup? name = some a → a.document = u) ∧
      (s.documents.find? u).isSome = true) ∧
    ((¬∃ u before e after, LastActivation library u es before e after) →
      s.symbols = SymbolTable.empty) ∧
    ∀ e, (∀ u, ¬s.Activates u e) → e ≠ .shutdown →
      (∀ u, s.symbols.document = some u → e ≠ .closeDocument u) →
      (s.step e).symbols = s.symbols := by
  intro s
  refine ⟨?_, ?_, ?_, fun e => symbols_step_of_not_activates⟩
  · intro u
    constructor
    · intro hu
      rcases symbols_eq_empty_or_lastActivation library es with
        hempty | ⟨v, before, e, after, hlast⟩
      · rw [show s.symbols = SymbolTable.empty from hempty] at hu
        cases hu
      · obtain ⟨c, -, hsymbols, -⟩ := symbols_of_lastActivation hlast
        rw [show s.symbols = _ from hsymbols, SymbolTable.document_scan] at hu
        cases hu
        exact ⟨before, e, after, hlast⟩
    · rintro ⟨before, e, after, hlast⟩
      obtain ⟨c, -, hsymbols, -⟩ := symbols_of_lastActivation hlast
      rw [show s.symbols = _ from hsymbols, SymbolTable.document_scan]
  · intro u before e after hlast
    obtain ⟨c, hc, hsymbols, hopen⟩ := symbols_of_lastActivation hlast
    refine ⟨⟨c, hc, hsymbols⟩, ?_, ?_⟩
    · intro name a ha
      rw [show s.symbols = _ from hsymbols] at ha
      exact SymbolTable.document_of_lookup?_scan ha
    · rw [contents?, Option.isSome_map] at hopen
      exact hopen
  · intro hnone
    exact (symbols_eq_empty_or_lastActivation library es).resolve_right hnone

/-- A document that a hover activated last, which then lost its language, while the other document
was closed; and the empty run. -/
theorem symbols_after_run_of_two_documents :
    let u : Uri := ⟨"untitled", none, "a", none, none⟩
    let v : Uri := ⟨"untitled", none, "b", none, none⟩
    let before : List Event :=
      [.openDocument u "lmntal" 1 "f :- g.".toList, .openDocument v "lmntal" 1 "g :- f.".toList]
    let after : List Event :=
      [.closeDocument v, .complete u ⟨0, 0⟩, .openDocument u "plaintext" 1 "h :- f.".toList]
    let es := before ++ .hover u ⟨0, 0⟩ :: after
    let s := (start Dictionary.empty).run es
    LastActivation Dictionary.empty u es before (.hover u ⟨0, 0⟩) after ∧
      s.symbols.document = some u ∧
      (∃ c, ((start Dictionary.empty).run (before ++ [.hover u ⟨0, 0⟩])).contents? u = some c ∧
        s.symbols = SymbolTable.scan c.text u) ∧
      (¬∃ u before e after, LastActivation Dictionary.empty u [] before e after) ∧
      ((start Dictionary.empty).run []).symbols = SymbolTable.empty ∧
      (∀ w, ¬s.Activates w (.complete v ⟨0, 0⟩)) ∧
      (s.step (.complete v ⟨0, 0⟩)).symbols = s.symbols := by
  intro u v before after es s
  have hlast : LastActivation Dictionary.empty u es before (.hover u ⟨0, 0⟩) after := by
    refine ⟨rfl, ?_, ?_, by decide, by decide⟩
    · exact .hovered (d := ⟨0, u, "lmntal", "f :- g.".toList, 1⟩) (by decide) (by decide)
    · intro mid f rest hafter w hactivates
      have hf : f ∈ after := by
        rw [hafter]
        simp
      rcases (by simpa [after] using hf : f = .closeDocument v ∨ f = .complete u ⟨0, 0⟩ ∨
        f = .openDocument u "plaintext" 1 "h :- f.".toList) with rfl | rfl | rfl
      · cases hactivates
      · cases hactivates
      · cases hactivates with
        | opened hlmntal => exact absurd hlmntal (by decide)
  have hnone : ¬∃ u before e after, LastActivation Dictionary.empty u [] before e after := by
    rintro ⟨u, before, e, after, hlast⟩
    simpa using hlast.split
  have hquiet : ∀ w, ¬s.Activates w (.complete v ⟨0, 0⟩) := by
    intro w hactivates
    cases hactivates
  obtain ⟨hdocument, htable, -, hstep⟩ := symbols_after_run Dictionary.empty es
  obtain ⟨-, -, hempty, -⟩ := symbols_after_run Dictionary.empty []
  exact ⟨hlast, (hdocument u).2 ⟨_, _, _, hlast⟩, (htable u _ _ _ hlast).1, hnone, hempty hnone,
    hquiet, hstep _ hquiet (by simp) (by simp)⟩

end Session
end LmntalServer
