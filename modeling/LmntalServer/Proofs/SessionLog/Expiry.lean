import LmntalServer.Proofs.Text.ByteOrder
import LmntalServer.SessionLog
import Mathlib.Data.List.Nodup

/-!
# Which session logs are removed

A directory is listed in an order that nobody promises, and the entries are examined and removed one
by one as they are listed.  Whether an entry goes depends on nothing but the entry and the clock: on
its kind, its name, the time of its last modification, and on whether it can be removed.  So the
order of the listing does not matter, an entry that cannot be removed hinders no other, and since
expired logs stay expired, a later clean-up finds what it would have found without an earlier one.

Main definitions:

* `LogEntry.IsExpiredLog`: the entries that are to be removed.
* `LogEntry.isRemoved`: those of them that can be.
* `sweep`: a directory after its entries have been looked at in some order.

Main results:

* `LogEntry.isExpired_iff`: the test of an entry.
* `sweep_eq_filter`: what a listing leaves of a directory.
* `sweep_eq_cleanUp`: the order of the listing does not matter.
* `cleanUp_cleanUp`: one clean-up after another.
* `cleanUp_expired`: what a clean-up removes, and what two of them remove.
-/

namespace LmntalServer

namespace LogEntry

/-- An entry is an expired session log: a regular file with the name of a session log, which was
last modified not in the future and more than seven days ago. -/
structure IsExpiredLog (now : Int) (e : LogEntry) : Prop where
  name : ∃ s : String, utf8Bytes s = e.name ∧
    "session-".toList <+: s.toList ∧ ".log".toList <:+ s.toList
  status : ∃ modified, e.status = some ⟨.file, some modified⟩ ∧ modified ≤ now ∧
    7 * 24 * 3600 * 1000000000 < now - modified

/-- An entry that a clean-up removes: it is expired, and can be removed. -/
def isRemoved (now : Int) (e : LogEntry) : Bool :=
  e.isExpired now && e.isRemovable

end LogEntry

/-- A directory after one of its entries has been looked at: if it is to be removed, its name is
gone. -/
def sweepEntry (now : Int) (dir : List LogEntry) (e : LogEntry) : List LogEntry :=
  if e.isRemoved now then dir.filter (·.name ≠ e.name) else dir

/-- A directory after its entries have been looked at in the order of a listing. -/
def sweep (now : Int) (dir listing : List LogEntry) : List LogEntry :=
  listing.foldl (sweepEntry now) dir

/-! ## The test of an entry -/

/-- A name is that of a session log by how it begins and ends. -/
theorem isSessionLog_iff {name : String} :
    isSessionLog name = true ↔
      "session-".toList <+: name.toList ∧ ".log".toList <:+ name.toList := by
  have hback : name.endsWith ".log" = true ↔ ".log".toList <:+ name.toList := by
    rw [String.endsWith_eq_endsWith_toSlice, String.Slice.endsWith_string_iff, String.copy_toSlice]
  rw [isSessionLog, Bool.and_eq_true, String.startsWith_string_iff, hback]

namespace LogEntry

variable {now now' : Int} {e : LogEntry}

/-- A name is text if it consists of the bytes of a string. -/
theorem text?_eq_some_iff {s : String} : e.text? = some s ↔ utf8Bytes s = e.name := by
  rw [text?, String.fromUTF8?]
  constructor
  · intro h
    split at h
    · cases h
      rfl
    · cases h
  · intro h
    have hbytes : (⟨e.name.toArray⟩ : ByteArray) = s.toByteArray := by
      rw [← h, utf8Bytes, Array.toArray_toList]
    rw [dif_pos (hbytes ▸ s.isValidUTF8)]
    exact congrArg some (String.toByteArray_inj.1 hbytes)

/-- The test of an entry finds the expired session logs. -/
theorem isExpired_iff : e.isExpired now = true ↔ e.IsExpiredLog now := by
  have hname : e.text?.any isSessionLog = true ↔
      ∃ s : String, utf8Bytes s = e.name ∧
        "session-".toList <+: s.toList ∧ ".log".toList <:+ s.toList := by
    rw [Option.any_eq_true]
    simp only [text?_eq_some_iff, isSessionLog_iff]
  have hstatus : (e.status.any fun s =>
        s.kind = .file && s.modified.any fun m => m ≤ now && retention < now - m) = true ↔
      ∃ modified, e.status = some ⟨.file, some modified⟩ ∧ modified ≤ now ∧
        7 * 24 * 3600 * 1000000000 < now - modified := by
    have hseven : (7 * 24 * 3600 * 1000000000 : Int) = retention := rfl
    rw [hseven]
    rcases e.status with _ | ⟨kind, time⟩
    · simp
    · cases time with
      | none => simp
      | some modified => simp
  rw [isExpired, Bool.and_eq_true, hname, hstatus]
  exact ⟨fun h => ⟨h.1, h.2⟩, fun h => ⟨h.name, h.status⟩⟩

/-- An expired log stays expired. -/
theorem IsExpiredLog.mono (h : e.IsExpiredLog now) (hle : now ≤ now') : e.IsExpiredLog now' := by
  obtain ⟨hname, modified, he, hpast, hold⟩ := h
  exact ⟨hname, modified, he, by omega, by omega⟩

/-- An entry is removed if it is an expired session log and can be removed. -/
theorem isRemoved_iff :
    e.isRemoved now = true ↔ e.IsExpiredLog now ∧ e.isRemovable = true := by
  rw [isRemoved, Bool.and_eq_true, isExpired_iff]

/-- What a clean-up removes a later one would remove, too. -/
theorem isRemoved_mono (h : e.isRemoved now = true) (hle : now ≤ now') :
    e.isRemoved now' = true := by
  obtain ⟨hexpired, hremovable⟩ := isRemoved_iff.1 h
  exact isRemoved_iff.2 ⟨hexpired.mono hle, hremovable⟩

end LogEntry

/-! ## One listing -/

variable {now now' : Int} {dir listing : List LogEntry}

/-- A listing leaves the entries with the name of none of those that it removes. -/
theorem sweep_eq_filter (now : Int) (dir listing : List LogEntry) :
    sweep now dir listing =
      dir.filter fun e => listing.all fun d => !d.isRemoved now || d.name ≠ e.name := by
  induction listing generalizing dir with
  | nil => simp [sweep]
  | cons d listing ih =>
      have hstep : sweep now dir (d :: listing) = sweep now (sweepEntry now dir d) listing := rfl
      rw [hstep, ih, sweepEntry]
      cases hd : d.isRemoved now with
      | false => simp [hd]
      | true =>
          rw [if_pos rfl, List.filter_filter]
          refine List.filter_congr fun e _ => ?_
          simp [hd, Bool.and_comm, eq_comm]

/-- In a directory, where no two entries have the same name, the order of the listing does not
matter: what is left are the entries that are not to be removed. -/
theorem sweep_eq_cleanUp (hnames : (dir.map LogEntry.name).Nodup) (hlisting : listing.Perm dir) :
    sweep now dir listing = cleanUp now dir := by
  rw [sweep_eq_filter, cleanUp]
  refine List.filter_congr fun e he => ?_
  change _ = !e.isRemoved now
  rw [Bool.eq_iff_iff, List.all_eq_true]
  constructor
  · intro hall
    have hself := hall e (hlisting.mem_iff.2 he)
    simpa using hself
  · intro hstays d hd
    by_cases hname : d.name = e.name
    · obtain rfl := List.inj_on_of_nodup_map hnames (hlisting.mem_iff.1 hd) he hname
      rw [hstays, Bool.true_or]
    · simp [hname]

/-! ## Two listings -/

/-- A later clean-up leaves the same, whether or not there was an earlier one. -/
theorem cleanUp_cleanUp (hle : now ≤ now') (dir : List LogEntry) :
    cleanUp now' (cleanUp now dir) = cleanUp now' dir := by
  rw [cleanUp, cleanUp, cleanUp, List.filter_filter]
  refine List.filter_congr fun e _ => ?_
  change (!e.isRemoved now' && !e.isRemoved now) = !e.isRemoved now'
  cases hnow : e.isRemoved now with
  | false => rw [Bool.not_false, Bool.and_true]
  | true =>
      rw [LogEntry.isRemoved_mono hnow hle]
      rfl

/-- A clean-up removes just those expired session logs that can be removed, and leaves all other
entries as they are.  In whatever order the entries are listed, examined and removed, the result is
the same; and a clean-up, in whatever order, followed by a later one leaves what the later one
alone leaves. -/
theorem cleanUp_expired {dir : List LogEntry} (hnames : (dir.map LogEntry.name).Nodup)
    (now : Int) :
    (∀ e ∈ dir, e ∉ cleanUp now dir ↔ e.IsExpiredLog now ∧ e.isRemovable = true) ∧
    (cleanUp now dir).Sublist dir ∧
    (∀ listing : List LogEntry, listing.Perm dir → sweep now dir listing = cleanUp now dir) ∧
    ∀ now' : Int, now ≤ now' → ∀ listing later alone : List LogEntry, listing.Perm dir →
      later.Perm (sweep now dir listing) → alone.Perm dir →
        sweep now' (sweep now dir listing) later = sweep now' dir alone := by
  refine ⟨fun e he => ?_, List.filter_sublist, fun listing => sweep_eq_cleanUp hnames, ?_⟩
  · rw [mem_cleanUp_iff, ← LogEntry.isExpired_iff, not_and_not_right]
    exact ⟨fun h => h he, fun h _ => h⟩
  · intro now' hle listing later alone hlisting hlater halone
    rw [sweep_eq_cleanUp hnames hlisting] at hlater ⊢
    have hleft : ((cleanUp now dir).map LogEntry.name).Nodup :=
      hnames.sublist (List.filter_sublist.map LogEntry.name)
    calc
      sweep now' (cleanUp now dir) later = cleanUp now' (cleanUp now dir) :=
        sweep_eq_cleanUp hleft hlater
      _ = cleanUp now' dir := cleanUp_cleanUp hle dir
      _ = sweep now' dir alone := (sweep_eq_cleanUp hnames halone).symm

/-- A log that is just old enough, one that is exactly seven days old, a link, a name that is no
text, and a log that cannot be removed, listed from the last to the first; a nanosecond later the
second log goes, too. -/
theorem cleanUp_expired_of_five_entries :
    let log (number : Char) (kind : EntryKind) (modified : Int) (isRemovable : Bool) : LogEntry :=
      ⟨utf8Bytes (String.ofList ("session-".toList ++ number :: ".log".toList)),
        some ⟨kind, some modified⟩, isRemovable⟩
    let broken : LogEntry := ⟨0xFF :: utf8Bytes "session-.log", some ⟨.file, some 0⟩, true⟩
    let now : Int := retention + 1
    let dir : List LogEntry :=
      [log '1' .file 0 true, log '2' .file 1 true, log '3' .link 0 true, broken,
        log '5' .file 0 false]
    (dir.map LogEntry.name).Nodup ∧ (log '1' .file 0 true) ∈ dir ∧
      (log '1' .file 0 true).IsExpiredLog now ∧ log '1' .file 0 true ∉ cleanUp now dir ∧
      dir.reverse.Perm dir ∧ sweep now dir dir.reverse = dir.tail ∧ now ≤ now + 1 ∧
      sweep (now + 1) (sweep now dir dir.reverse) dir.tail = dir.tail.tail := by
  intro log broken now dir
  have hnames : (dir.map LogEntry.name).Nodup := by decide +kernel
  have hexpired : (log '1' .file 0 true).IsExpiredLog now :=
    LogEntry.isExpired_iff.1 (by decide +kernel)
  have hreverse : dir.reverse.Perm dir := dir.reverse_perm
  have hleft : cleanUp now dir = dir.tail := by decide +kernel
  obtain ⟨hgone, -, horder, htwice⟩ := cleanUp_expired hnames now
  have hsweep : sweep now dir dir.reverse = dir.tail := (horder _ hreverse).trans hleft
  have hlater := htwice (now + 1) (by decide) dir.reverse dir.tail dir hreverse
    (by rw [hsweep]) (List.Perm.refl dir)
  refine ⟨hnames, List.mem_cons_self, hexpired, ?_, hreverse, hsweep, by decide, ?_⟩
  · exact (hgone _ List.mem_cons_self).2 ⟨hexpired, rfl⟩
  · exact hlater.trans (by decide +kernel)

end LmntalServer
