import LmntalServer.Proofs.Session.Freshness
import Mathlib.Data.List.DropRight

/-!
# Documents do not interfere

What a client can see of a document depends only on what was done to this document since the last
shutdown.  Other documents, questions about any document, and everything before a shutdown leave
their traces in the symbol table and in the identifiers, but not in any answer.

Main definitions:

* `Session.View`, `Session.view`: what a client can see of a document.
* `ownEvents`: the events of a run that count for a document.

Main results:

* `Session.contents?_run_ownEvents`: the contents of a document come from its own events.
* `Session.view_run_congr`: runs that leave a document the same contents look the same from it.
* `Session.view_run`: a run, its own events, and all runs that differ from it in other documents,
  in questions or before a shutdown look the same from a document.
-/

namespace LmntalServer

namespace Event

/-- Whether an event opens, changes or closes the document `u`. -/
def touches (u : Uri) : Event → Bool
  | openDocument v _ _ _ => v = u
  | changeDocument v _ _ => v = u
  | closeDocument v => v = u
  | _ => false

/-- Whether an event asks for an answer about some document. -/
def isQuestion : Event → Bool
  | hover _ _ => true
  | complete _ _ => true
  | _ => false

/-- An event that does not touch a document leaves its contents alone, unless it is a shutdown. -/
theorem act_of_not_touches {u : Uri} {e : Event} (h : e.touches u = false) (hne : e ≠ shutdown)
    (c : Option Contents) : e.act u c = c := by
  cases e with
  | shutdown => exact absurd rfl hne
  | openDocument v => exact if_neg (of_decide_eq_false h)
  | changeDocument v => exact if_neg (of_decide_eq_false h)
  | closeDocument v => exact if_neg (of_decide_eq_false h)
  | _ => rfl

/-- A question leaves all contents alone. -/
theorem act_of_isQuestion {e : Event} (h : e.isQuestion = true) (u : Uri) (c : Option Contents) :
    e.act u c = c := by
  cases e with
  | hover => rfl
  | complete => rfl
  | _ => cases h

end Event

/-- The events after the last shutdown. -/
def sinceShutdown (es : List Event) : List Event :=
  es.rtakeWhile (· ≠ .shutdown)

/-- The events after the last shutdown that open, change or close the document `u`. -/
def ownEvents (u : Uri) (es : List Event) : List Event :=
  (sinceShutdown es).filter (Event.touches u)

/-- Without a shutdown, all events of a document are its own. -/
theorem ownEvents_of_shutdown_notMem {es : List Event} (h : .shutdown ∉ es) (u : Uri) :
    ownEvents u es = es.filter (Event.touches u) := by
  have hall : es.rtakeWhile (· ≠ .shutdown) = es := by
    rw [List.rtakeWhile_eq_self_iff]
    intro e he
    exact decide_eq_true fun heq => h (heq ▸ he)
  rw [ownEvents, sinceShutdown, hall]

/-- The contents that a run makes are made by the document's own events. -/
theorem foldl_act_ownEvents (u : Uri) (es : List Event) :
    (ownEvents u es).foldl (fun c e => e.act u c) none = es.foldl (fun c e => e.act u c) none := by
  -- From the last event backwards, since a shutdown at the end leaves no own events at all.
  induction es using List.reverseRecOn with
  | nil => rfl
  | append_singleton es e ih =>
      unfold ownEvents sinceShutdown at ih ⊢
      rw [List.foldl_append, List.foldl_cons, List.foldl_nil]
      by_cases hshutdown : e = .shutdown
      · subst hshutdown
        rw [List.rtakeWhile_concat_neg _ _ _ (by simp)]
        rfl
      · rw [List.rtakeWhile_concat_pos _ _ _ (by simpa using hshutdown), List.filter_append,
          List.foldl_append, ih]
        cases htouches : e.touches u with
        | true => rw [List.filter_cons_of_pos htouches, List.filter_nil]; rfl
        | false =>
            rw [List.filter_cons_of_neg (by simp [htouches]), List.filter_nil, List.foldl_nil,
              Event.act_of_not_touches htouches hshutdown]

namespace Session

/-- What a client can see of a document: the answers at every position, and what it has put into
the document. -/
@[ext]
structure View where
  hover : Position → Answer
  completion : Position → Answer
  contents : Option Contents

/-- What a client can see of the document `u`. -/
def view (s : Session) (u : Uri) : View where
  hover p := (s.handle (.hover u p)).2
  completion p := (s.handle (.complete u p)).2
  contents := s.contents? u

/-- The contents of a document after a run come from its own events. -/
theorem contents?_run_ownEvents (library : Library) (u : Uri) (es : List Event) :
    ((start library).run (ownEvents u es)).contents? u =
      ((start library).run es).contents? u := by
  rw [contents?_run, contents?_run, contents?_start, foldl_act_ownEvents]

/-- Two runs that leave a document the same contents look the same from it, although their symbol
tables may describe different documents. -/
theorem view_run_congr {library : Library} {u : Uri} {es fs : List Event}
    (h : ((start library).run es).contents? u = ((start library).run fs).contents? u) :
    ((start library).run es).view u = ((start library).run fs).view u := by
  have hes := isCurrent_run (isCurrent_start library) es u
  have hfs := isCurrent_run (isCurrent_start library) fs u
  ext p
  · refine congrArg Answer.hover ?_
    rw [hover_eq_of_isCurrent hes, hover_eq_of_isCurrent hfs, h, library_run, library_run]
  · refine congrArg Answer.completion ?_
    rw [complete_eq, complete_eq, h]
  · rw [view, view, h]

/-- A document looks the same after a run as after its own events alone.  So other orders of the
events of different documents, further questions, and everything before a shutdown make no
difference to it. -/
theorem view_run (library : Library) (u : Uri) (es : List Event) :
    let look := fun fs => ((start library).run fs).view u
    look es = look (ownEvents u es) ∧
      (∀ fs, .shutdown ∉ es → .shutdown ∉ fs →
        fs.filter (Event.touches u) = es.filter (Event.touches u) → look fs = look es) ∧
      (∀ e fs, e.isQuestion = true → look (es ++ e :: fs) = look (es ++ fs)) ∧
      ∀ fs, look (es ++ .shutdown :: fs) = look fs := by
  intro look
  refine ⟨?_, ?_, ?_, ?_⟩
  · exact view_run_congr (contents?_run_ownEvents library u es).symm
  · intro fs hes hfs hfilter
    apply view_run_congr
    rw [← contents?_run_ownEvents library u fs, ← contents?_run_ownEvents library u es,
      ownEvents_of_shutdown_notMem hes, ownEvents_of_shutdown_notMem hfs, hfilter]
  · intro e fs hquestion
    apply view_run_congr
    rw [contents?_run, contents?_run, List.foldl_append, List.foldl_append, List.foldl_cons,
      Event.act_of_isQuestion hquestion]
  · intro fs
    apply view_run_congr
    rw [contents?_run, contents?_run, List.foldl_append, List.foldl_cons]
    rfl

/-- Two orders of the events of two documents, of which one run has a further question. -/
theorem view_run_of_two_documents :
    let u : Uri := ⟨"untitled", none, "a", none, none⟩
    let v : Uri := ⟨"untitled", none, "b", none, none⟩
    let es : List Event :=
      [.openDocument u "lmntal" 1 "f :- g.".toList, .openDocument v "lmntal" 1 "g :- f.".toList,
        .changeDocument u 2 [⟨none, "g :- f.".toList⟩]]
    let fs : List Event :=
      [.openDocument u "lmntal" 1 "f :- g.".toList,
        .changeDocument u 2 [⟨none, "g :- f.".toList⟩], .hover u ⟨0, 0⟩,
        .openDocument v "lmntal" 1 "g :- f.".toList]
    let look := fun es => ((start Dictionary.empty).run es).view u
    .shutdown ∉ es ∧ .shutdown ∉ fs ∧
      fs.filter (Event.touches u) = es.filter (Event.touches u) ∧ look fs = look es ∧
      Event.isQuestion (.hover v ⟨0, 0⟩) = true ∧
      look (es ++ .hover v ⟨0, 0⟩ :: fs) = look (es ++ fs) := by
  intro u v es fs look
  have hes : .shutdown ∉ es := by decide
  have hfs : .shutdown ∉ fs := by decide
  have hfilter : fs.filter (Event.touches u) = es.filter (Event.touches u) := by decide
  obtain ⟨-, horder, hask, -⟩ := view_run Dictionary.empty u es
  exact ⟨hes, hfs, hfilter, horder fs hes hfs hfilter, rfl, hask (.hover v ⟨0, 0⟩) fs rfl⟩

end Session
end LmntalServer
