import LmntalServer.Symbol.Head
import Mathlib.Data.List.TakeWhile

/-!
# The grammar of rule heads

This module says what a rule head is, without saying how one is found: blanks, a name, blanks,
perhaps an argument list, blanks, and the rule sign.  A text begins with a written head exactly if
the scanner finds one at its front, and the scanner finds all of it.  It never has to try another
way of cutting, since what follows a part cannot continue it.

Main definitions:

* `IsName`, `IsArgumentList`: the parts of heads.
* `WrittenHead`: a head, part by part, and its characters.

Main results:

* `Text.headShape?_append`: a written head is found at the front of a text.
* `Text.exists_of_headShape?`: what is found at the front of a text is a written head.
* `Text.headShape?_eq_some_iff`: the two together.
-/

namespace LmntalServer

/-! ## Characters -/

/-- There are two blanks, the space and the tabulator. -/
theorem eq_of_isBlank {c : Char} (h : isBlank c = true) : c = ' ' ∨ c = '\t' := by
  simpa [isBlank] using h

theorem isBreak_eq_false_of_isBlank {c : Char} (h : isBlank c = true) : isBreak c = false := by
  rcases eq_of_isBlank h with rfl | rfl <;> rfl

theorem isNameChar_eq_false_of_isBlank {c : Char} (h : isBlank c = true) :
    isNameChar c = false := by
  rcases eq_of_isBlank h with rfl | rfl <;> rfl

theorem isBreak_eq_false_of_isNameChar {c : Char} (h : isNameChar c = true) :
    isBreak c = false := by
  cases hbreak : isBreak c with
  | false => rfl
  | true =>
      rcases (by simpa [isBreak] using hbreak : c = '\n' ∨ c = '\r') with rfl | rfl
      · cases h
      · cases h

theorem isBlank_eq_false_of_isNameStart {c : Char} (h : isNameStart c = true) :
    isBlank c = false := by
  cases hblank : isBlank c with
  | false => rfl
  | true =>
      rcases eq_of_isBlank hblank with rfl | rfl
      · cases h
      · cases h

/-- A name begins with a name character. -/
theorem isNameChar_of_isNameStart {c : Char} (h : isNameStart c = true) : isNameChar c = true := by
  rcases Bool.or_eq_true_iff.1 h with hlower | hunderscore
  · change (((c.isUpper || c.isLower) || c.isDigit) || decide (c = '_')) = true
    simp [hlower]
  · exact Bool.or_eq_true_iff.2 (Or.inr hunderscore)

/-! ## Parts of heads -/

/-- A segment of a name: one or more name characters. -/
def IsSegment (s : Text) : Prop :=
  s ≠ [] ∧ ∀ c ∈ s, isNameChar c = true

/-- The names: a lower-case letter or an underscore, name characters, and any number of segments,
each behind a point. -/
inductive IsName : Text → Prop
  | mk {c : Char} {first : Text} {segments : List Text} (hc : isNameStart c = true)
      (hfirst : ∀ d ∈ first, isNameChar d = true) (hsegments : ∀ s ∈ segments, IsSegment s) :
      IsName (c :: (first ++ segments.flatMap ('.' :: ·)))

/-- The argument lists: nothing, or whatever stands between an opening parenthesis and the first
closing one. -/
inductive IsArgumentList : Text → Prop
  | absent : IsArgumentList []
  | present {arguments : Text} (h : ')' ∉ arguments) :
      IsArgumentList ('(' :: (arguments ++ [')']))

/-- A rule head as it is written: blanks, the name, blanks, the argument list, which may be
absent, and blanks before the rule sign. -/
structure WrittenHead where
  indent : Text
  name : Text
  gap : Text
  list : Text
  space : Text
  indent_blank : ∀ c ∈ indent, isBlank c = true
  isName : IsName name
  gap_blank : ∀ c ∈ gap, isBlank c = true
  isArgumentList : IsArgumentList list
  space_blank : ∀ c ∈ space, isBlank c = true

namespace WrittenHead

/-- What stands behind the name of a head, up to the end of the rule sign. -/
def afterName (w : WrittenHead) : Text :=
  w.gap ++ (w.list ++ (w.space ++ [':', '-']))

/-- The characters of a head. -/
def chars (w : WrittenHead) : Text :=
  w.indent ++ (w.name ++ w.afterName)

/-- The shape of a head. -/
def shape (w : WrittenHead) : HeadShape :=
  ⟨w.indent.length, w.name, w.chars.length⟩

/-- A head is as long as its parts and the two characters of the rule sign. -/
theorem length_chars (w : WrittenHead) :
    w.chars.length =
      w.indent.length + w.name.length + w.gap.length + w.list.length + w.space.length + 2 := by
  simp only [chars, afterName, List.length_append, List.length_cons, List.length_nil]
  omega

/-- Behind the name of a head stands a blank, a parenthesis, or the rule sign. -/
theorem exists_afterName_eq_cons (w : WrittenHead) :
    ∃ c t, w.afterName = c :: t ∧ (isBlank c = true ∨ c = '(' ∨ c = ':') := by
  obtain ⟨indent, name, gap, list, space, -, -, hgap, hlist, hspace⟩ := w
  unfold afterName
  cases gap with
  | cons c gap => exact ⟨c, _, rfl, Or.inl (hgap c List.mem_cons_self)⟩
  | nil =>
      cases hlist with
      | present => exact ⟨'(', _, rfl, Or.inr (Or.inl rfl)⟩
      | absent =>
          cases space with
          | cons c space => exact ⟨c, _, rfl, Or.inl (hspace c List.mem_cons_self)⟩
          | nil => exact ⟨':', _, rfl, Or.inr (Or.inr rfl)⟩

end WrittenHead

namespace IsName

/-- A name has a first character, with which names may begin. -/
theorem exists_eq_cons {n : Text} (h : IsName n) : ∃ c t, n = c :: t ∧ isNameStart c = true := by
  cases h with
  | mk hc _ _ => exact ⟨_, _, rfl, hc⟩

/-- A name consists of name characters and points. -/
theorem isNameChar_or_eq_of_mem {n : Text} (h : IsName n) {c : Char} (hc : c ∈ n) :
    isNameChar c = true ∨ c = '.' := by
  cases h with
  | mk hstart hfirst hsegments =>
      rcases List.mem_cons.1 hc with rfl | hc
      · exact Or.inl (isNameChar_of_isNameStart hstart)
      rcases List.mem_append.1 hc with hc | hc
      · exact Or.inl (hfirst c hc)
      obtain ⟨s, hs, hc⟩ := List.mem_flatMap.1 hc
      rcases List.mem_cons.1 hc with rfl | hc
      · exact Or.inr rfl
      · exact Or.inl ((hsegments s hs).2 c hc)

/-- A name stands on one line. -/
theorem isBreak_eq_false_of_mem {n : Text} (h : IsName n) {c : Char} (hc : c ∈ n) :
    isBreak c = false := by
  rcases h.isNameChar_or_eq_of_mem hc with hname | rfl
  · exact isBreak_eq_false_of_isNameChar hname
  · rfl

end IsName

namespace Text

/-! ## Blanks -/

/-- All blanks at the front of a text are taken. -/
theorem blanks_append {b t : Text} (hb : ∀ c ∈ b, isBlank c = true)
    (ht : ∀ c s, t = c :: s → isBlank c = false) : blanks (b ++ t) = b.length := by
  have hnone : t.takeWhile isBlank = [] := by
    cases t with
    | nil => rfl
    | cons c t => rw [List.takeWhile_cons_of_neg (by simp [ht c t rfl])]
  rw [blanks, List.takeWhile_append_of_pos hb, hnone, List.append_nil]

/-- The blanks that are counted stand in front of the text. -/
theorem exists_of_blanks (t : Text) :
    ∃ b s, t = b ++ s ∧ (∀ c ∈ b, isBlank c = true) ∧ blanks t = b.length :=
  ⟨t.takeWhile isBlank, t.dropWhile isBlank, List.takeWhile_append_dropWhile.symm,
    fun _ hc => List.mem_takeWhile_imp hc, rfl⟩

/-! ## Names -/

/-- The characters of a segment are read with what follows them. -/
theorem nameTail_append {s : Text} (hs : ∀ c ∈ s, isNameChar c = true) (t : Text) :
    nameTail (s ++ t) = s ++ nameTail t := by
  induction s with
  | nil => rfl
  | cons c s ih =>
      have hc : isNameChar c = true := hs c List.mem_cons_self
      rw [List.cons_append, nameTail, if_pos (by simp [hc]),
        ih fun d hd => hs d (List.mem_cons_of_mem _ hd), List.cons_append]

/-- A point and a segment are read with what follows them. -/
theorem nameTail_point_append {s : Text} (hs : IsSegment s) (t : Text) :
    nameTail ('.' :: (s ++ t)) = '.' :: (s ++ nameTail t) := by
  obtain ⟨hne, hchars⟩ := hs
  obtain ⟨c, u, rfl⟩ := List.exists_cons_of_ne_nil hne
  have hc : isNameChar c = true := hchars c List.mem_cons_self
  rw [nameTail, if_pos (by simp [hc]), nameTail_append hchars]

/-- Several points, each with its segment, are read with what follows them. -/
theorem nameTail_segments_append {segments : List Text} (h : ∀ s ∈ segments, IsSegment s)
    (t : Text) :
    nameTail (segments.flatMap ('.' :: ·) ++ t) =
      segments.flatMap ('.' :: ·) ++ nameTail t := by
  induction segments with
  | nil => rfl
  | cons s segments ih =>
      rw [List.flatMap_cons, List.append_assoc, List.cons_append,
        nameTail_point_append (h s List.mem_cons_self),
        ih fun r hr => h r (List.mem_cons_of_mem _ hr)]
      simp

/-- A name is taken whole, if what follows it does not continue it. -/
theorem name?_append {n t : Text} (hn : IsName n) (ht : nameTail t = []) :
    name? (n ++ t) = some n := by
  cases hn with
  | mk hc hfirst hsegments =>
      rw [List.cons_append, name?, if_pos hc, List.append_assoc, nameTail_append hfirst,
        nameTail_segments_append hsegments, ht, List.append_nil]

/-- What continues a name is name characters and segments behind points.  It begins with a name
character if the text does. -/
theorem exists_of_nameTail (t : Text) :
    ∃ (first : Text) (segments : List Text), nameTail t = first ++ segments.flatMap ('.' :: ·) ∧
      (∀ c ∈ first, isNameChar c = true) ∧ (∀ s ∈ segments, IsSegment s) ∧
      (t.head?.any isNameChar = true → first ≠ []) := by
  induction t with
  | nil => exact ⟨[], [], rfl, by simp, by simp, by simp⟩
  | cons c t ih =>
      obtain ⟨first, segments, htail, hfirst, hsegments, hne⟩ := ih
      by_cases hc : isNameChar c = true
      · refine ⟨c :: first, segments, ?_, ?_, hsegments, fun _ => List.cons_ne_nil _ _⟩
        · rw [nameTail, if_pos (by simp [hc]), htail, List.cons_append]
        · intro d hd
          rcases List.mem_cons.1 hd with rfl | hd
          · exact hc
          · exact hfirst d hd
      · by_cases hpoint : c = '.' ∧ t.head?.any isNameChar = true
        · obtain ⟨rfl, hnext⟩ := hpoint
          refine ⟨[], first :: segments, ?_, by simp, ?_, by simp [hc]⟩
          · rw [nameTail, if_pos (by simp [hnext]), htail]
            simp
          · intro s hs
            rcases List.mem_cons.1 hs with rfl | hs
            · exact ⟨hne hnext, hfirst⟩
            · exact hsegments s hs
        · refine ⟨[], [], ?_, by simp, by simp, by simp [hc]⟩
          rw [nameTail, if_neg]
          · rfl
          · simpa [hc] using hpoint

/-- What is read as a name is one. -/
theorem isName_of_name? {t n : Text} (h : name? t = some n) : IsName n := by
  cases t with
  | nil => cases h
  | cons c t =>
      simp only [name?] at h
      split at h
      · next hc =>
          cases h
          obtain ⟨first, segments, htail, hfirst, hsegments, -⟩ := exists_of_nameTail t
          rw [htail]
          exact .mk hc hfirst hsegments
      · cases h

/-! ## Argument lists -/

/-- An argument list is read up to its closing parenthesis; an absent one is read if no parenthesis
is opened in its place. -/
theorem argumentList?_append {l t : Text} (hl : IsArgumentList l)
    (ht : ∀ c s, t = c :: s → c ≠ '(') : argumentList? (l ++ t) = some l.length := by
  cases hl with
  | absent =>
      rw [List.nil_append]
      unfold argumentList?
      split
      · next s => exact absurd rfl (ht '(' s rfl)
      · rfl
  | @present arguments h =>
      have htake : (arguments ++ ')' :: t).takeWhile (· ≠ ')') = arguments := by
        rw [List.takeWhile_append_of_pos (by
          intro c hc
          simpa using fun heq : c = ')' => h (heq ▸ hc)), List.takeWhile_cons_of_neg (by simp),
          List.append_nil]
      have hchars : '(' :: (arguments ++ [')']) ++ t = '(' :: (arguments ++ ')' :: t) := by simp
      rw [hchars, argumentList?, if_pos (by simp), htake]
      simp

/-- What is read as an argument list is one. -/
theorem exists_of_argumentList? {t : Text} {k : Nat} (h : argumentList? t = some k) :
    ∃ l s, t = l ++ s ∧ IsArgumentList l ∧ k = l.length := by
  unfold argumentList? at h
  split at h
  · next s =>
      split at h
      · next hmem =>
          cases h
          obtain ⟨rest, hrest⟩ : ∃ rest, s.dropWhile (· ≠ ')') = ')' :: rest := by
            cases hdrop : s.dropWhile (· ≠ ')') with
            | nil =>
                have hall := List.dropWhile_eq_nil_iff.1 hdrop ')' (by simpa using hmem)
                simp at hall
            | cons c rest =>
                have hc := List.head?_dropWhile_not (· ≠ ')') s
                rw [hdrop] at hc
                exact ⟨rest, by simpa using hc⟩
          refine ⟨'(' :: (s.takeWhile (· ≠ ')') ++ [')']), rest, ?_, .present ?_, by simp⟩
          · have hsplit := List.takeWhile_append_dropWhile (p := (· ≠ ')')) (l := s)
            rw [hrest] at hsplit
            simpa using hsplit.symm
          · intro hparen
            have := List.mem_takeWhile_imp hparen
            simp at this
      · cases h
  · cases h
    exact ⟨[], t, rfl, .absent, rfl⟩

/-- A rule sign is a colon and a hyphen. -/
theorem exists_of_startsWithRuleSign {t : Text} (h : startsWithRuleSign t = true) :
    ∃ s, t = [':', '-'] ++ s := by
  unfold startsWithRuleSign at h
  split at h
  · exact ⟨_, rfl⟩
  · cases h

/-! ## Whole heads -/

/-- What follows a name in a head does not continue it. -/
theorem nameTail_afterName_append (w : WrittenHead) (t : Text) :
    nameTail (w.afterName ++ t) = [] := by
  obtain ⟨c, s, hs, hc⟩ := w.exists_afterName_eq_cons
  have hname : isNameChar c = false := by
    rcases hc with hc | rfl | rfl
    · exact isNameChar_eq_false_of_isBlank hc
    · rfl
    · rfl
  have hpoint : c ≠ '.' := by
    rintro rfl
    revert hc
    decide
  rw [hs, List.cons_append, nameTail, if_neg (by simp [hname, hpoint])]

/-- A written head is found at the front of a text, if without an argument list all its blanks
stand before the place of the list. -/
theorem headShape?_append_of_space (w : WrittenHead) (hw : w.list = [] → w.space = [])
    (t : Text) : headShape? (w.chars ++ t) = some w.shape := by
  have hchars : w.chars ++ t = w.indent ++ (w.name ++ (w.afterName ++ t)) := by
    simp [WrittenHead.chars]
  have hafterName : w.afterName ++ t = w.gap ++ (w.list ++ (w.space ++ ':' :: '-' :: t)) := by
    simp [WrittenHead.afterName]
  obtain ⟨c, n, hcn, hstart⟩ := w.isName.exists_eq_cons
  have hindent : blanks (w.chars ++ t) = w.indent.length := by
    rw [hchars]
    refine blanks_append w.indent_blank ?_
    intro d s hs
    rw [hcn, List.cons_append, List.cons.injEq] at hs
    rw [← hs.1]
    exact isBlank_eq_false_of_isNameStart hstart
  have hname : name? ((w.chars ++ t).drop w.indent.length) = some w.name := by
    rw [hchars, List.drop_left]
    exact name?_append w.isName (nameTail_afterName_append w t)
  have hafter : (w.chars ++ t).drop (w.indent.length + w.name.length) = w.afterName ++ t := by
    rw [hchars, List.drop_length_add_append, List.drop_left]
  have hgap : blanks (w.afterName ++ t) = w.gap.length := by
    rw [hafterName]
    refine blanks_append w.gap_blank ?_
    intro d s hs
    cases hl : w.list with
    | nil =>
        rw [hl, hw hl] at hs
        cases hs
        rfl
    | cons e l =>
        have hlist := w.isArgumentList
        rw [hl] at hs hlist
        cases hlist
        cases hs
        rfl
  have hlist : argumentList? ((w.afterName ++ t).drop w.gap.length) = some w.list.length := by
    rw [hafterName, List.drop_left]
    refine argumentList?_append w.isArgumentList ?_
    rintro d s hs rfl
    cases hspace : w.space with
    | nil =>
        rw [hspace] at hs
        cases hs
    | cons e u =>
        rw [hspace, List.cons_append, List.cons.injEq] at hs
        have hblank := w.space_blank e (hspace ▸ List.mem_cons_self)
        rw [hs.1] at hblank
        cases hblank
  have hrest : (w.afterName ++ t).drop (w.gap.length + w.list.length) =
      w.space ++ ':' :: '-' :: t := by
    rw [hafterName, List.drop_length_add_append, List.drop_left]
  have hspace : blanks (w.space ++ ':' :: '-' :: t) = w.space.length := by
    refine blanks_append w.space_blank ?_
    intro d s hs
    cases hs
    rfl
  simp only [headShape?, hindent, hname, hafter, hgap, hlist, hrest, hspace, List.drop_left,
    startsWithRuleSign, Option.bind_eq_bind, Option.bind_some, if_true]
  rw [WrittenHead.shape, WrittenHead.length_chars]

/-- A written head is found at the front of a text.  Without an argument list the blanks on both
sides of its place are read as one run. -/
theorem headShape?_append (w : WrittenHead) (t : Text) :
    headShape? (w.chars ++ t) = some w.shape := by
  by_cases hlist : w.list = []
  · let v : WrittenHead :=
      { w with
        gap := w.gap ++ w.space
        list := []
        space := []
        gap_blank := fun c hc => (List.mem_append.1 hc).elim (w.gap_blank c) (w.space_blank c)
        isArgumentList := .absent
        space_blank := by simp }
    have hchars : v.chars = w.chars := by
      simp [v, WrittenHead.chars, WrittenHead.afterName, hlist]
    have hfound := headShape?_append_of_space v (fun _ => rfl) t
    rwa [WrittenHead.shape, hchars] at hfound
  · exact headShape?_append_of_space w (fun h => absurd h hlist) t

/-- What is found at the front of a text is a written head. -/
theorem exists_of_headShape? {t : Text} {h : HeadShape} (hh : headShape? t = some h) :
    ∃ (w : WrittenHead) (s : Text), t = w.chars ++ s ∧ w.shape = h := by
  obtain ⟨indent, t₁, rfl, hindent, hblanks⟩ := exists_of_blanks t
  simp only [headShape?, hblanks, List.drop_left, Option.bind_eq_bind,
    Option.bind_eq_some_iff] at hh
  obtain ⟨name, hname, list, hlist, hh⟩ := hh
  obtain ⟨t₂, rfl⟩ := isPrefix_of_name? hname
  rw [List.drop_length_add_append, List.drop_left] at hlist hh
  obtain ⟨gap, t₃, rfl, hgap, hblanks⟩ := exists_of_blanks t₂
  rw [hblanks, List.drop_left] at hlist
  obtain ⟨l, t₄, rfl, hl, rfl⟩ := exists_of_argumentList? hlist
  rw [hblanks, List.drop_length_add_append, List.drop_left] at hh
  obtain ⟨space, t₅, rfl, hspace, hblanks⟩ := exists_of_blanks t₄
  rw [hblanks, List.drop_left] at hh
  split at hh
  · next hsign =>
      obtain ⟨t₆, rfl⟩ := exists_of_startsWithRuleSign hsign
      refine ⟨⟨indent, name, gap, l, space, hindent, isName_of_name? hname, hgap, hl, hspace⟩,
        t₆, ?_, ?_⟩
      · simp [WrittenHead.chars, WrittenHead.afterName]
      · rw [WrittenHead.shape, WrittenHead.length_chars]
        exact Option.some.inj hh
  · cases hh

/-- A head is found at the front of a text exactly if it is written there. -/
theorem headShape?_eq_some_iff {t : Text} {h : HeadShape} :
    headShape? t = some h ↔ ∃ w : WrittenHead, w.chars <+: t ∧ w.shape = h := by
  constructor
  · intro hh
    obtain ⟨w, s, rfl, hw⟩ := exists_of_headShape? hh
    exact ⟨w, List.prefix_append _ _, hw⟩
  · rintro ⟨w, ⟨s, rfl⟩, rfl⟩
    exact headShape?_append w s

end Text
end LmntalServer
