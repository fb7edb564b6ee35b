import LmntalServer.Proofs.Session.Contents
import Mathlib.Data.List.Induction

/-!
# Versions over a run

The version of an open document only grows, and a revision counts only if it is newer than
everything that came before it since the document was opened.  The revisions that count are thus
the records of the sequence of all revisions, accepted or refused, and can be told from the run
alone.

Main definitions:

* `Revision`: some changes with their version.
* `LastOpened`: how a run opened a document last, and the revisions since.
* `IsRecord`, `records`: the revisions that are newer than all before them.

Main results:

* `Contents.max?_version_revise`, `Contents.text_revise`: what a sequence of revisions makes of a
  version and of a text.
* `Session.lastOpened_of_contents?`: an open document has the contents with which it was last
  opened, revised by the revisions since.
* `Session.version_discipline`: versions, texts and languages over whole runs, and the revisions
  that do nothing.
-/

namespace LmntalServer

/-- Some changes of a document and the version to which they lead. -/
structure Revision where
  version : Int
  changes : List Change
deriving DecidableEq, Repr, Inhabited

namespace Event

/-- The revision of the document `u` that an event asks for. -/
def revision? (u : Uri) : Event → Option Revision
  | changeDocument v version changes => if v = u then some ⟨version, changes⟩ else none
  | _ => none

/-- Whether an event ends what was before for the document `u`: by opening it, by closing it, or
by a shutdown. -/
def resets (u : Uri) : Event → Bool
  | shutdown => true
  | openDocument v _ _ _ => v = u
  | closeDocument v => v = u
  | _ => false

end Event

/-- The run `es` has opened the document `u` for the last time with the contents `o`, has neither
closed it nor shut down since, and has asked for the revisions `rs` since, accepted or refused. -/
def LastOpened (u : Uri) (es : List Event) (o : Contents) (rs : List Revision) : Prop :=
  ∃ before after,
    es = before ++ .openDocument u o.language o.version o.text :: after ∧
      (∀ e ∈ after, e.resets u = false) ∧ after.filterMap (Event.revision? u) = rs

/-! ## Records -/

/-- Whether a version is newer than the version `first` and than those of all revisions in
`earlier`. -/
def IsRecord (first : Int) (earlier : List Revision) (version : Int) : Prop :=
  ∀ v ∈ first :: earlier.map Revision.version, v < version

instance (first : Int) (earlier : List Revision) (version : Int) :
    Decidable (IsRecord first earlier version) :=
  inferInstanceAs (Decidable (∀ v ∈ first :: earlier.map Revision.version, v < version))

/-- The revisions that are newer than the version `first` and than every revision before them. -/
def records (first : Int) (rs : List Revision) : List Revision :=
  (rs.zipIdx.filter fun (r, i) => IsRecord first (rs.take i) r.version).map Prod.fst

/-- A further revision is a record or not, and changes nothing about the revisions before it. -/
theorem records_concat (first : Int) (rs : List Revision) (r : Revision) :
    records first (rs ++ [r]) =
      records first rs ++ if IsRecord first rs r.version then [r] else [] := by
  have hbefore : ∀ x ∈ rs.zipIdx, (rs ++ [r]).take x.2 = rs.take x.2 := by
    intro x hx
    have hlt := List.snd_lt_of_mem_zipIdx hx
    exact List.take_append_of_le_length (by omega)
  unfold records
  rw [List.zipIdx_append, List.filter_append, List.map_append]
  congr 1
  · congr 1
    apply List.filter_congr
    intro x hx
    simp only [hbefore x hx]
  · by_cases h : IsRecord first rs r.version
    · simp [h]
    · simp [h]

namespace Contents

/-- The contents after some revisions, of which those without a newer version do nothing. -/
def revise (c : Contents) (rs : List Revision) : Contents :=
  rs.foldl (fun c r => c.edit r.changes r.version) c

@[simp]
theorem revise_nil (c : Contents) : c.revise [] = c :=
  rfl

theorem revise_cons (c : Contents) (r : Revision) (rs : List Revision) :
    c.revise (r :: rs) = (c.edit r.changes r.version).revise rs :=
  rfl

/-- Revisions apply in their order. -/
theorem revise_append (c : Contents) (rs qs : List Revision) :
    c.revise (rs ++ qs) = (c.revise rs).revise qs :=
  List.foldl_append

theorem language_edit (c : Contents) (changes : List Change) (version : Int) :
    (c.edit changes version).language = c.language := by
  unfold edit
  split <;> rfl

/-- A change, whether or not it is taken, leaves the greater one of the two versions. -/
theorem version_edit (c : Contents) (changes : List Change) (version : Int) :
    (c.edit changes version).version = max c.version version := by
  unfold edit
  split
  · next h => exact (Int.max_eq_right (Int.le_of_lt h)).symm
  · next h => exact (Int.max_eq_left (Int.not_lt.1 h)).symm

theorem language_revise (c : Contents) (rs : List Revision) :
    (c.revise rs).language = c.language := by
  induction rs generalizing c with
  | nil => rfl
  | cons r rs ih => rw [revise_cons, ih, language_edit]

/-- The version after some revisions is the largest of all versions so far. -/
theorem max?_version_revise (c : Contents) (rs : List Revision) :
    (c.version :: rs.map Revision.version).max? = some (c.revise rs).version := by
  rw [List.max?_cons']
  induction rs generalizing c with
  | nil => rfl
  | cons r rs ih =>
      rw [revise_cons, ← ih, version_edit]
      rfl

/-- A version is a record after some revisions if it is newer than that of the contents. -/
theorem isRecord_iff_version_revise_lt (c : Contents) (rs : List Revision) (version : Int) :
    IsRecord c.version rs version ↔ (c.revise rs).version < version := by
  obtain ⟨hmem, hle⟩ := List.max?_eq_some_iff.1 (max?_version_revise c rs)
  constructor
  · intro h
    exact h _ hmem
  · intro h v hv
    exact Int.lt_of_le_of_lt (hle v hv) h

/-- The text after some revisions is changed by the records among them, in order. -/
theorem text_revise (c : Contents) (rs : List Revision) :
    (c.revise rs).text =
      (records c.version rs).foldl (fun t r => t.edit r.changes) c.text := by
  induction rs using List.reverseRecOn with
  | nil => rfl
  | append_singleton rs r ih =>
      rw [revise_append, records_concat, List.foldl_append, ← ih]
      by_cases h : IsRecord c.version rs r.version
      · rw [if_pos h, revise_cons, edit_of_newer ((isRecord_iff_version_revise_lt c rs _).1 h)]
        rfl
      · have hle : r.version ≤ (c.revise rs).version :=
          Int.not_lt.1 (mt (isRecord_iff_version_revise_lt c rs _).2 h)
        rw [if_neg h, revise_cons, edit_of_stale hle]
        rfl

end Contents

/-- An event that does not reset a document revises it, or leaves it alone. -/
theorem Event.act_of_not_resets {u : Uri} {e : Event} (h : e.resets u = false)
    (c : Option Contents) :
    e.act u c = c.map (·.revise (e.revision? u).toList) := by
  cases e with
  | shutdown => cases h
  | openDocument v language version text =>
      have hne : v ≠ u := of_decide_eq_false h
      cases c <;> simp [Event.act, Event.revision?, hne]
  | closeDocument v =>
      have hne : v ≠ u := of_decide_eq_false h
      cases c <;> simp [Event.act, Event.revision?, hne]
  | changeDocument v version changes =>
      by_cases hv : v = u
      · cases c <;> simp [Event.act, Event.revision?, hv, Contents.revise]
      · cases c <;> simp [Event.act, Event.revision?, hv]
  | _ => cases c <;> rfl

namespace Session

/-! ## Open documents over a run -/

/-- Events that do not reset an open document revise it. -/
theorem foldl_act_of_not_resets {u : Uri} {es : List Event}
    (h : ∀ e ∈ es, e.resets u = false) (c : Contents) :
    es.foldl (fun c e => e.act u c) (some c) =
      some (c.revise (es.filterMap (Event.revision? u))) := by
  induction es generalizing c with
  | nil => rfl
  | cons e es ih =>
      have hes : ∀ e ∈ es, e.resets u = false := fun e he => h e (List.mem_cons_of_mem _ he)
      rw [List.foldl_cons, Event.act_of_not_resets (h e List.mem_cons_self), Option.map_some,
        ih hes, ← Contents.revise_append]
      cases hr : e.revision? u with
      | none => rw [List.filterMap_cons_none hr]; rfl
      | some r => rw [List.filterMap_cons_some hr]; rfl

/-- A document that was opened and not reset since is open, with revised contents. -/
theorem contents?_of_lastOpened (library : Library) {u : Uri} {es : List Event} {o : Contents}
    {rs : List Revision} (h : LastOpened u es o rs) :
    ((start library).run es).contents? u = some (o.revise rs) := by
  obtain ⟨before, after, rfl, hafter, rfl⟩ := h
  rw [contents?_run, List.foldl_append, List.foldl_cons]
  rw [show Event.act u (.openDocument u o.language o.version o.text) _ = some o from if_pos rfl]
  exact foldl_act_of_not_resets hafter o

/-- An open document was opened by the run and not reset since: of the events that reset a document,
only its opening leaves it open. -/
theorem exists_lastOpened {library : Library} {u : Uri} {es : List Event} {c : Contents}
    (h : ((start library).run es).contents? u = some c) : ∃ o rs, LastOpened u es o rs := by
  induction es using List.reverseRecOn generalizing c with
  | nil => cases h
  | append_singleton es e ih =>
      rw [run_concat, contents?_step] at h
      by_cases hresets : e.resets u = true
      · cases e with
        | shutdown => cases h
        | closeDocument v =>
            have hv : v = u := of_decide_eq_true hresets
            simp [Event.act, hv] at h
        | openDocument v language version text =>
            have hv : v = u := of_decide_eq_true hresets
            subst hv
            exact ⟨⟨language, version, text⟩, [], es, [], rfl, by simp, rfl⟩
        | _ => cases hresets
      · have hkeep : e.resets u = false := Bool.eq_false_iff.2 hresets
        cases hc : ((start library).run es).contents? u with
        | none =>
            rw [hc, Event.act_of_not_resets hkeep] at h
            cases h
        | some c' =>
            obtain ⟨o, rs, before, after, rfl, hafter, rfl⟩ := ih hc
            refine ⟨o, _, before, after ++ [e], by simp, ?_, rfl⟩
            intro e' he'
            rcases List.mem_append.1 he' with he' | he'
            · exact hafter e' he'
            · rw [List.mem_singleton.1 he']
              exact hkeep

/-- The contents of an open document come from its last opening and the revisions since. -/
theorem lastOpened_of_contents? {library : Library} {u : Uri} {es : List Event} {c : Contents}
    (h : ((start library).run es).contents? u = some c) :
    ∃ o rs, LastOpened u es o rs ∧ c = o.revise rs := by
  obtain ⟨o, rs, hopened⟩ := exists_lastOpened h
  rw [contents?_of_lastOpened library hopened] at h
  exact ⟨o, rs, hopened, (Option.some.inj h).symm⟩

/-- A document is open exactly if it was opened and not reset since.  It then has the language of
its last opening, the largest version given since, and the text of its opening changed by the
records among the revisions since.  A revision that is no record, or of a document that is not
open, leaves the whole session as it is; so does a revision that is delivered again. -/
theorem version_discipline (library : Library) (es : List Event) (u : Uri) :
    (∀ d, ((start library).run es).documents.find? u = some d → ∃ o rs, LastOpened u es o rs) ∧
    (∀ o rs, LastOpened u es o rs →
      ∃ d, ((start library).run es).documents.find? u = some d ∧ d.language = o.language ∧
        (o.version :: rs.map Revision.version).max? = some d.version ∧
        d.text = (records o.version rs).foldl (fun t r => t.edit r.changes) o.text) ∧
    (∀ version changes,
      (¬∃ o rs, LastOpened u es o rs ∧ IsRecord o.version rs version) →
        (start library).run (es ++ [.changeDocument u version changes]) =
          (start library).run es) ∧
    ∀ version changes,
      (start library).run
          (es ++ [.changeDocument u version changes, .changeDocument u version changes]) =
        (start library).run (es ++ [.changeDocument u version changes]) := by
  refine ⟨?_, ?_, ?_, ?_⟩
  · intro d hd
    exact exists_lastOpened (contents?_of_find? hd)
  · intro o rs hopened
    obtain ⟨d, hd, hrevise⟩ :=
      Option.map_eq_some_iff.1 (contents?_of_lastOpened library hopened)
    refine ⟨d, hd, ?_, ?_, ?_⟩
    · rw [← Contents.language_revise o rs, ← hrevise]
      rfl
    · rw [Contents.max?_version_revise, ← hrevise]
      rfl
    · rw [← Contents.text_revise, ← hrevise]
      rfl
  · intro version changes hother
    rw [run_concat]
    apply changeDocument_of_stale
    intro c hc
    obtain ⟨o, rs, hopened, rfl⟩ := lastOpened_of_contents? hc
    by_contra hnew
    exact hother ⟨o, rs, hopened,
      (Contents.isRecord_iff_version_revise_lt o rs version).2 (Int.not_le.1 hnew)⟩
  · intro version changes
    rw [List.append_cons, run_concat]
    apply changeDocument_of_stale
    intro c hc
    rw [run_concat, contents?_step] at hc
    simp only [Event.act] at hc
    obtain ⟨c', -, rfl⟩ := Option.map_eq_some_iff.1 hc
    rw [Contents.version_edit]
    exact Int.le_max_right _ _

/-- A document whose stale and repeated revisions count for its version only. -/
theorem version_discipline_of_four_revisions :
    let u : Uri := ⟨"untitled", none, "a", none, none⟩
    let es : List Event :=
      [.openDocument u "lmntal" 3 "f :- g.".toList,
        .changeDocument u 2 [⟨none, "stale".toList⟩],
        .changeDocument u 5 [⟨some ⟨⟨0, 0⟩, ⟨0, 1⟩⟩, "h".toList⟩],
        .changeDocument u 5 [⟨none, "again".toList⟩]]
    let d : Document := ⟨0, u, "lmntal", "h :- g.".toList, 5⟩
    let o : Contents := ⟨"lmntal", 3, "f :- g.".toList⟩
    let rs := es.filterMap (Event.revision? u)
    ((start Dictionary.empty).run es).documents.find? u = some d ∧
      (∃ o rs, LastOpened u es o rs) ∧
      LastOpened u es o rs ∧
      (∃ d, ((start Dictionary.empty).run es).documents.find? u = some d ∧
        d.language = o.language ∧
        (o.version :: rs.map Revision.version).max? = some d.version ∧
        d.text = (records o.version rs).foldl (fun t r => t.edit r.changes) o.text) ∧
      (¬∃ o rs, LastOpened u es o rs ∧ IsRecord o.version rs 4) ∧
      (start Dictionary.empty).run (es ++ [.changeDocument u 4 []]) =
        (start Dictionary.empty).run es := by
  intro u es d o rs
  have hfind : ((start Dictionary.empty).run es).documents.find? u = some d := by decide +kernel
  have hopened : LastOpened u es o rs := ⟨[], es.tail, rfl, by decide, rfl⟩
  have hother : ¬∃ o rs, LastOpened u es o rs ∧ IsRecord o.version rs 4 := by
    rintro ⟨o, rs, hopened, hrecord⟩
    have hcontents := contents?_of_lastOpened Dictionary.empty hopened
    rw [contents?_of_find? hfind] at hcontents
    have hlt := (Contents.isRecord_iff_version_revise_lt o rs 4).1 hrecord
    rw [← Option.some.inj hcontents] at hlt
    exact absurd hlt (by decide)
  obtain ⟨hopen, hlast, hstale, -⟩ := version_discipline Dictionary.empty es u
  exact ⟨hfind, hopen d hfind, hopened, hlast o rs hopened, hother, hstale 4 [] hother⟩

end Session
end LmntalServer
