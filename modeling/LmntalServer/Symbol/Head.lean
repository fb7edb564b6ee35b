import LmntalServer.Text.Line
import LmntalServer.Text.WordChar

/-!
# Rule heads

A rule head stands at the start of a line: blanks, a name, blanks, perhaps an argument list in
parentheses, blanks, and the rule sign.  The name begins with a lower-case letter or an underscore
and may have further segments after points.  The argument list goes on to the first closing
parenthesis, over any number of lines.

Every part goes on as long as its characters allow, and no part can begin with a character that
may continue the part before it.  So a head stands at a place in at most one way.

Main definitions:

* `HeadShape`, `Text.headShape?`: the head at the front of a text.
* `Text.Place`: a place in a text as a scan passes it.
* `Head`, `Text.heads`: the heads of a text, none of which begins inside another.

Main results:

* `Text.headShape?_length`: a head is a part of the text that is not empty.
* `Text.pairwise_heads`: heads are listed from left to right and do not overlap.
* `Text.line_of_mem_heads`: the line of a head is that of its first byte.
-/

namespace LmntalServer

/-- The characters that may stand between the parts of a head: the space and the tab. -/
def isBlank (c : Char) : Bool :=
  c = ' ' || c = '\t'

/-- The characters with which a name begins. -/
def isNameStart (c : Char) : Bool :=
  c.isLower || c = '_'

/-- The shape of a head: the number of blanks before the name, the name, and the number of
characters up to the end of the rule sign. -/
structure HeadShape where
  indent : Nat
  name : Text
  length : Nat
deriving DecidableEq, Repr, Inhabited

/-- A head with the index at which its line starts and the number of that line. -/
structure Head extends HeadShape where
  start : Nat
  line : Nat
deriving DecidableEq, Repr, Inhabited

namespace Head

/-- The index after the rule sign. -/
def stop (h : Head) : Nat :=
  h.start + h.length

end Head

namespace Text

/-! ## One head -/

/-- The part of a text that continues a name: name characters, and points before name
characters. -/
def nameTail : Text → Text
  | [] => []
  | c :: t =>
      if isNameChar c || (c = '.' && t.head?.any isNameChar) then c :: nameTail t else []

/-- The name at the front of a text. -/
def name? : Text → Option Text
  | [] => none
  | c :: t => if isNameStart c then some (c :: nameTail t) else none

/-- The number of blanks at the front of a text. -/
def blanks (t : Text) : Nat :=
  (t.takeWhile isBlank).length

/-- The length of the argument list at the front of a text, with its parentheses; it may be
absent, but it must be closed. -/
def argumentList? : Text → Option Nat
  | '(' :: t => if t.contains ')' then some ((t.takeWhile (· ≠ ')')).length + 2) else none
  | _ => some 0

/-- Whether a text begins with the rule sign. -/
def startsWithRuleSign : Text → Bool
  | ':' :: '-' :: _ => true
  | _ => false

/-- The head at the front of a text. -/
def headShape? (t : Text) : Option HeadShape := do
  let indent := blanks t
  let name ← name? (t.drop indent)
  let afterName := t.drop (indent + name.length)
  let gap := blanks afterName
  let list ← argumentList? (afterName.drop gap)
  let afterList := afterName.drop (gap + list)
  let space := blanks afterList
  if startsWithRuleSign (afterList.drop space) then
    some ⟨indent, name, indent + name.length + gap + list + space + 2⟩
  else none

theorem isPrefix_nameTail (t : Text) : nameTail t <+: t := by
  induction t with
  | nil => exact List.prefix_refl _
  | cons c t ih =>
      simp only [nameTail]
      split
      · exact List.prefix_cons_inj c |>.2 ih
      · exact List.nil_prefix

theorem isPrefix_of_name? {t n : Text} (h : name? t = some n) : n <+: t := by
  cases t with
  | nil => simp [name?] at h
  | cons c t =>
      simp only [name?] at h
      split at h
      · cases h
        exact List.prefix_cons_inj c |>.2 (isPrefix_nameTail t)
      · cases h

theorem two_le_length_of_startsWithRuleSign {t : Text} (h : startsWithRuleSign t = true) :
    2 ≤ t.length := by
  unfold startsWithRuleSign at h
  split at h
  · simp
  · cases h

/-- A head is not empty, since its rule sign is not, and lies within the text. -/
theorem headShape?_length {t : Text} {h : HeadShape} (hh : headShape? t = some h) :
    0 < h.length ∧ h.length ≤ t.length := by
  simp only [headShape?, Option.bind_eq_bind, Option.bind_eq_some_iff] at hh
  obtain ⟨name, -, list, -, hh⟩ := hh
  split at hh
  · next hsign =>
      cases hh
      have := two_le_length_of_startsWithRuleSign hsign
      simp only [List.length_drop] at this
      simp only
      omega
  · cases hh

/-! ## All heads -/

/-- A place in a text: the character before it, its index, and its line. -/
structure Place where
  before : Option Char
  index : Nat
  line : Nat
deriving DecidableEq, Repr, Inhabited

namespace Place

/-- The place at which a text starts. -/
def start : Place :=
  ⟨none, 0, 0⟩

/-- The place after one more character, in front of the rest of the text. -/
def advance (p : Place) (c : Char) (rest : Text) : Place :=
  ⟨some c, p.index + 1, if startsLine (some c) rest then p.line + 1 else p.line⟩

@[simp]
theorem index_advance (p : Place) (c : Char) (rest : Text) :
    (p.advance c rest).index = p.index + 1 :=
  rfl

end Place

/-- The heads of a text that starts at a place, and whose first `skip` characters belong to a head
that began earlier. -/
def headsFrom (p : Place) (skip : Nat) : Text → List Head
  | [] => []
  | c :: t =>
      match skip with
      | skip + 1 => headsFrom (p.advance c t) skip t
      | 0 =>
          match if startsLine p.before (c :: t) then headShape? (c :: t) else none with
          | some h => ⟨h, p.index, p.line⟩ :: headsFrom (p.advance c t) (h.length - 1) t
          | none => headsFrom (p.advance c t) 0 t

/-- The heads of a text from left to right.  After a head the search goes on behind it. -/
def heads (t : Text) : List Head :=
  headsFrom Place.start 0 t

theorem start_le_of_mem_headsFrom {p : Place} {skip : Nat} {t : Text} {h : Head}
    (hh : h ∈ headsFrom p skip t) : p.index + skip ≤ h.start := by
  induction t generalizing p skip with
  | nil => simp [headsFrom] at hh
  | cons c t ih =>
      cases skip with
      | succ skip =>
          have := ih hh
          simp only [Place.index_advance] at this
          omega
      | zero =>
          simp only [headsFrom] at hh
          split at hh
          · rcases List.mem_cons.1 hh with rfl | hh
            · exact Nat.le_refl _
            · have := ih hh
              simp only [Place.index_advance] at this
              omega
          · have := ih hh
            simp only [Place.index_advance] at this
            omega

theorem pairwise_headsFrom (p : Place) (skip : Nat) (t : Text) :
    (headsFrom p skip t).Pairwise (fun h k => h.stop ≤ k.start) := by
  induction t generalizing p skip with
  | nil => exact List.Pairwise.nil
  | cons c t ih =>
      cases skip with
      | succ skip => exact ih ..
      | zero =>
          simp only [headsFrom]
          split
          · next h hh =>
              refine List.Pairwise.cons (fun k hk => ?_) (ih ..)
              have hle := start_le_of_mem_headsFrom hk
              have hpos : 0 < h.length := by
                split at hh
                · exact (headShape?_length hh).1
                · cases hh
              simp only [Place.index_advance] at hle
              simp only [Head.stop]
              omega
          · exact ih ..

/-- Heads are listed from left to right, and none begins before the end of the one before it. -/
theorem pairwise_heads (t : Text) : (heads t).Pairwise (fun h k => h.stop ≤ k.start) :=
  pairwise_headsFrom Place.start 0 t

/-! ## Lines of heads -/

/-- Going on by a character counts the line break that it ends. -/
theorem line_advance (p : Place) (c : Char) (t : Text) (base n : Nat) :
    p.line + (breakEnds base (c :: t)).countP (· ≤ base + c.utf8Size + n) =
      (p.advance c t).line +
        (breakEnds (base + c.utf8Size) t).countP (· ≤ base + c.utf8Size + n) := by
  rw [breakEnds_cons, List.countP_append]
  cases hc : startsLine (some c) t with
  | false => simp [Place.advance, hc]
  | true => simp [Place.advance, hc, Nat.add_assoc]

theorem line_of_mem_headsFrom {p : Place} {skip : Nat} {t : Text} {h : Head}
    (hh : h ∈ headsFrom p skip t) (base : Nat) :
    h.line = p.line +
      (breakEnds base t).countP (· ≤ base + bytes (t.take (h.start - p.index))) := by
  induction t generalizing p skip base with
  | nil => simp [headsFrom] at hh
  | cons c t ih =>
      have hnext : ∀ {skip : Nat}, h ∈ headsFrom (p.advance c t) skip t →
          h.line = p.line + (breakEnds base (c :: t)).countP
            (· ≤ base + bytes ((c :: t).take (h.start - p.index))) := by
        intro skip hmem
        have hle := start_le_of_mem_headsFrom hmem
        simp only [Place.index_advance] at hle
        have hsub : h.start - p.index = h.start - (p.index + 1) + 1 := by
          omega
        rw [ih hmem (base + c.utf8Size), hsub, List.take_succ_cons, bytes_cons, ← Nat.add_assoc,
          line_advance]
        rfl
      cases skip with
      | succ skip => exact hnext hh
      | zero =>
          simp only [headsFrom] at hh
          split at hh
          · rcases List.mem_cons.1 hh with rfl | hh
            · simp [countP_breakEnds_base]
            · exact hnext hh
          · exact hnext hh

/-- The line of a head is the line of the byte at which it starts. -/
theorem line_of_mem_heads {t : Text} {h : Head} (hh : h ∈ heads t) :
    h.line = t.lineOfByte (bytes (t.take h.start)) := by
  have hle : bytes (t.take h.start) ≤ t.bytes := by
    have := congrArg bytes (List.take_append_drop h.start t)
    rw [bytes_append] at this
    omega
  simpa [lineOfByte, Nat.min_eq_left hle, Place.start] using line_of_mem_headsFrom hh 0

end Text
end LmntalServer
