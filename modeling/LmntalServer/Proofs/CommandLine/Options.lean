import LmntalServer.CommandLine.Settings
import LmntalServer.Proofs.CommandLine.Spelling
import Mathlib.Data.List.Nodup

/-!
# Options in any order

What a command line says is the same as which options are present and with which values.  Giving one
more option changes just this one, and is refused if the option is present.  So some options lead to
the same arguments in whatever order they are given, each of them once, and no option can be
repeated, at whatever distance.

Main definitions:

* `Arguments.given?`, `Arguments.options`: the options that are present.
* `GivenOption.IsPlain`: the options with a value that is accepted.
* `GivenOption.repetition`: the refusal of an option that is present.

Main results:

* `Arguments.ext_given?`: arguments are determined by the options that are present.
* `Arguments.give_cases`, `Arguments.given?_of_give`: what giving an option does, and what it leaves
  alone.
* `Arguments.foldlM_give_of_nodup`: options of different names, one after another.
* `Arguments.nodup_of_foldlM_give`: no option is accepted twice.
* `Arguments.foldlM_give_of_again`: the refusal of an option that comes again.
* `Arguments.read_commandLine`: what a command line says, and the settings that follow.
-/

namespace LmntalServer

namespace Arguments

/-- An option that is present, by its name. -/
def given? (a : Arguments) : Setting ⊕ Switch → Option GivenOption
  | .inl .logLevel => a.logLevel.map (.setting .logLevel)
  | .inl .library => a.library.map (.setting .library)
  | .inl .clientProcessId => a.clientProcessId.map fun id => .setting .clientProcessId (toString id)
  | .inr .noColor => if a.noColor then some (.switch .noColor) else .none
  | .inr .noFileLogging => if a.noFileLogging then some (.switch .noFileLogging) else .none
  | .inr _ => .none

/-- The names of the options that arguments can have. -/
def optionNames : List (Setting ⊕ Switch) :=
  [.inl .logLevel, .inr .noColor, .inr .noFileLogging, .inl .library, .inl .clientProcessId]

/-- The options that are present. -/
def options (a : Arguments) : List GivenOption :=
  optionNames.filterMap a.given?

end Arguments

namespace GivenOption

/-- An option with a value that is accepted: a plain one, or the digits of a process identifier.
The questions for the help text and for the version are never accepted. -/
def IsPlain : GivenOption → Prop
  | setting .logLevel value => IsPlainValue value
  | setting .library value => IsPlainValue value
  | setting .clientProcessId value => ∃ id : UInt32, value = toString id
  | switch .noColor => True
  | switch .noFileLogging => True
  | switch _ => False

/-- The refusal of an option that is present. -/
def repetition : GivenOption → ArgumentError
  | setting option _ => .repeatedSetting option
  | switch option => .repeatedSwitch option

/-- Giving an option again is reported by its name, whatever its value is. -/
theorem repetition_congr {o p : GivenOption} (h : o.name = p.name) :
    o.repetition = p.repetition := by
  cases o with
  | setting s v =>
      cases p with
      | setting s' v' =>
          cases h
          rfl
      | switch s' => cases h
  | switch s =>
      cases p with
      | setting s' v' => cases h
      | switch s' =>
          cases h
          rfl

/-- The value of an accepted option can be read, however it is spelled. -/
theorem IsPlain.isReadable {o : GivenOption} (h : o.IsPlain) (joined : Bool) :
    IsReadable (o, joined) := by
  obtain ⟨option, value⟩ | option := o
  · cases joined with
    | true => trivial
    | false =>
        refine formOf_word ?_
        cases option with
        | logLevel => exact h.2
        | library => exact h.2
        | clientProcessId =>
            obtain ⟨id, rfl⟩ := h
            exact head?_toString_ne id
  · trivial

end GivenOption

namespace Arguments

variable {a b : Arguments} {o : GivenOption} {n : Setting ⊕ Switch}

/-! ## Options that are present -/

@[simp]
theorem given?_none (n : Setting ⊕ Switch) : none.given? n = .none := by
  rcases n with (_ | _ | _) | (_ | _ | _ | _) <;> rfl

theorem name_of_given? (h : a.given? n = some o) : o.name = n := by
  rcases n with (_ | _ | _) | (_ | _ | _ | _) <;> simp only [given?] at h
  case inl.logLevel =>
    obtain ⟨v, -, rfl⟩ := Option.map_eq_some_iff.1 h
    rfl
  case inl.library =>
    obtain ⟨v, -, rfl⟩ := Option.map_eq_some_iff.1 h
    rfl
  case inl.clientProcessId =>
    obtain ⟨id, -, rfl⟩ := Option.map_eq_some_iff.1 h
    rfl
  case inr.noColor =>
    split at h <;> cases h
    rfl
  case inr.noFileLogging =>
    split at h <;> cases h
    rfl
  all_goals cases h

theorem mem_optionNames (h : a.given? n = some o) : n ∈ optionNames := by
  rcases n with (_ | _ | _) | (_ | _ | _ | _) <;> simp [optionNames, given?] at h ⊢

/-- The options that are listed are those that are present. -/
theorem mem_options : o ∈ a.options ↔ a.given? o.name = some o := by
  rw [options, List.mem_filterMap]
  constructor
  · rintro ⟨n, -, h⟩
    rwa [name_of_given? h]
  · exact fun h => ⟨o.name, mem_optionNames h, h⟩

/-- No option is present twice. -/
theorem nodup_names (a : Arguments) : (a.options.map GivenOption.name).Nodup := by
  have hnames : optionNames.Nodup := by decide
  rw [options, List.map_filterMap]
  refine hnames.filterMap fun n n' m hn hn' => ?_
  obtain ⟨o, ho, rfl⟩ := Option.map_eq_some_iff.1 hn
  obtain ⟨o', ho', heq⟩ := Option.map_eq_some_iff.1 hn'
  rw [← name_of_given? ho, ← name_of_given? ho', heq]

/-- Different process numbers are written differently. -/
theorem toString_processId_injective : Function.Injective (toString : UInt32 → String) := by
  intro i j h
  have hread := readProcessId_toString i
  rw [h, readProcessId_toString j] at hread
  exact (Except.ok.inj hread).symm

/-- A switch is known from whether it is present. -/
theorem eq_of_ite_some_eq {x y : Bool}
    (h : (if x then some o else Option.none) = if y then some o else Option.none) : x = y := by
  cases x <;> cases y <;> first | rfl | cases h

/-- Arguments are determined by the options that are present. -/
theorem ext_given? (h : ∀ n, a.given? n = b.given? n) : a = b := by
  have hlevel : a.logLevel = b.logLevel :=
    Option.map_injective (fun v w hvw => by cases hvw; rfl) (h (.inl .logLevel))
  have hlibrary : a.library = b.library :=
    Option.map_injective (fun v w hvw => by cases hvw; rfl) (h (.inl .library))
  have hclient : a.clientProcessId = b.clientProcessId :=
    Option.map_injective (fun i j hij => toString_processId_injective (by injection hij))
      (h (.inl .clientProcessId))
  have hcolor : a.noColor = b.noColor := eq_of_ite_some_eq (h (.inr .noColor))
  have hlog : a.noFileLogging = b.noFileLogging := eq_of_ite_some_eq (h (.inr .noFileLogging))
  cases a
  cases b
  cases hlevel
  cases hlibrary
  cases hclient
  cases hcolor
  cases hlog
  rfl

/-! ## One more option -/

/-- A setting is given if it is present. -/
theorem has_eq_isSome_given? (a : Arguments) (option : Setting) :
    a.has option = (a.given? (.inl option)).isSome := by
  cases option <;> simp [has, given?]

theorem not_has_of_absent {option : Setting} (h : a.given? (.inl option) = .none) :
    ¬a.has option = true := by
  rw [has_eq_isSome_given?, h]
  exact Bool.false_ne_true

/-- An option that is present is refused. -/
theorem give_of_present (h : (a.given? o.name).isSome) : a.give o = .error o.repetition := by
  cases o with
  | setting option value =>
      have hhas : a.has option = true := (a.has_eq_isSome_given? option).trans h
      rw [give, set.eq_def, if_pos hhas]
      rfl
  | switch option =>
      cases option <;> simp_all [given?, give, switch, GivenOption.name, GivenOption.repetition]

/-- Everything that giving an option can do. -/
theorem give_cases (h : a.give o = .ok b) :
    a.given? o.name = .none ∧
      ((∃ v, o = .setting .logLevel v ∧ b = { a with logLevel := some v }) ∨
        (∃ v, o = .setting .library v ∧ v ≠ "" ∧ b = { a with library := some v }) ∨
        (∃ v id, o = .setting .clientProcessId v ∧ readProcessId v = .ok id ∧
          b = { a with clientProcessId := some id }) ∨
        (o = .switch .noColor ∧ b = { a with noColor := true }) ∨
        (o = .switch .noFileLogging ∧ b = { a with noFileLogging := true })) := by
  have habsent : a.given? o.name = .none := by
    by_contra hpresent
    rw [give_of_present (Option.isSome_iff_ne_none.2 hpresent)] at h
    cases h
  refine ⟨habsent, ?_⟩
  cases o with
  | setting option value =>
      rw [give, set.eq_def, if_neg (not_has_of_absent habsent)] at h
      cases option with
      | logLevel => exact .inl ⟨value, rfl, (Except.ok.inj h).symm⟩
      | library =>
          dsimp only at h
          split at h
          · cases h
          · next hvalue => exact .inr (.inl ⟨value, rfl, hvalue, (Except.ok.inj h).symm⟩)
      | clientProcessId =>
          dsimp only at h
          split at h
          · next id hid => exact .inr (.inr (.inl ⟨value, id, rfl, hid, (Except.ok.inj h).symm⟩))
          · cases h
  | switch option =>
      cases option with
      | noColor =>
          rw [give, switch] at h
          split at h
          · cases h
          · exact .inr (.inr (.inr (.inl ⟨rfl, (Except.ok.inj h).symm⟩)))
      | noFileLogging =>
          rw [give, switch] at h
          split at h
          · cases h
          · exact .inr (.inr (.inr (.inr ⟨rfl, (Except.ok.inj h).symm⟩)))
      | help => cases h
      | version => cases h

/-- Only the option that is given changes. -/
theorem given?_of_give (h : a.give o = .ok b) (hn : n ≠ o.name) : b.given? n = a.given? n := by
  obtain ⟨-, ⟨v, rfl, rfl⟩ | ⟨v, rfl, -, rfl⟩ | ⟨v, id, rfl, -, rfl⟩ | ⟨rfl, rfl⟩ | ⟨rfl, rfl⟩⟩ :=
    give_cases h <;>
  rcases n with (_ | _ | _) | (_ | _ | _ | _) <;>
  first | rfl | exact absurd rfl hn

/-- An option that was accepted is present, perhaps with another spelling of its value. -/
theorem isSome_given?_of_give (h : a.give o = .ok b) : (b.given? o.name).isSome := by
  obtain ⟨-, ⟨v, rfl, rfl⟩ | ⟨v, rfl, -, rfl⟩ | ⟨v, id, rfl, -, rfl⟩ | ⟨rfl, rfl⟩ | ⟨rfl, rfl⟩⟩ :=
    give_cases h <;>
  rfl

/-- An option with a plain value is present as it was given. -/
theorem given?_name_of_give (h : a.give o = .ok b) (ho : o.IsPlain) : b.given? o.name = some o := by
  obtain ⟨-, ⟨v, rfl, rfl⟩ | ⟨v, rfl, -, rfl⟩ | ⟨v, id, rfl, hid, rfl⟩ | ⟨rfl, rfl⟩ | ⟨rfl, rfl⟩⟩ :=
    give_cases h
  case inr.inr.inl =>
    obtain ⟨id', rfl⟩ := ho
    rw [readProcessId_toString] at hid
    cases hid
    rfl
  all_goals rfl

/-- An option with a plain value is accepted if it is not present. -/
theorem exists_give (h : a.given? o.name = .none) (ho : o.IsPlain) : ∃ b, a.give o = .ok b := by
  cases o with
  | setting option value =>
      rw [give, set.eq_def, if_neg (not_has_of_absent h)]
      cases option with
      | logLevel => exact ⟨_, rfl⟩
      | library =>
          have hvalue : value ≠ "" := ho.1
          exact ⟨_, if_neg hvalue⟩
      | clientProcessId =>
          obtain ⟨id, rfl⟩ := ho
          rw [readProcessId_toString]
          exact ⟨_, rfl⟩
  | switch option =>
      cases option <;> simp_all [given?, give, switch, GivenOption.name, GivenOption.IsPlain]

/-! ## Several options -/

/-- Plain options of different names are accepted one after another, and nothing else changes. -/
theorem foldlM_give_of_nodup {os : List GivenOption} (hplain : ∀ o ∈ os, o.IsPlain)
    (hnodup : (os.map GivenOption.name).Nodup) (habsent : ∀ o ∈ os, a.given? o.name = .none) :
    ∃ b, os.foldlM give a = .ok b ∧ (∀ o ∈ os, b.given? o.name = some o) ∧
      ∀ n ∉ os.map GivenOption.name, b.given? n = a.given? n := by
  induction os generalizing a with
  | nil => exact ⟨a, rfl, fun o ho => absurd ho List.not_mem_nil, fun n _ => rfl⟩
  | cons o os ih =>
      rw [List.map_cons, List.nodup_cons] at hnodup
      obtain ⟨hfresh, hrest⟩ := hnodup
      have ho : o.IsPlain := hplain o List.mem_cons_self
      obtain ⟨c, hc⟩ := exists_give (habsent o List.mem_cons_self) ho
      have hother : ∀ p ∈ os, c.given? p.name = .none := fun p hp => by
        have hne : p.name ≠ o.name := fun heq => hfresh (heq ▸ List.mem_map_of_mem hp)
        rw [given?_of_give hc hne, habsent p (List.mem_cons_of_mem _ hp)]
      obtain ⟨b, hb, hgiven, hframe⟩ :=
        ih (fun p hp => hplain p (List.mem_cons_of_mem _ hp)) hrest hother
      refine ⟨b, ?_, ?_, ?_⟩
      · rw [List.foldlM_cons, hc, ok_bind, hb]
      · intro p hp
        rcases List.mem_cons.1 hp with rfl | hp
        · rw [hframe _ hfresh, given?_name_of_give hc ho]
        · exact hgiven p hp
      · intro n hn
        rw [List.map_cons, List.mem_cons, not_or] at hn
        rw [hframe n hn.2, given?_of_give hc hn.1]

/-- No option is accepted twice, nor an option that is present. -/
theorem nodup_of_foldlM_give {os : List GivenOption} (h : os.foldlM give a = .ok b) :
    (os.map GivenOption.name).Nodup ∧ ∀ o ∈ os, a.given? o.name = .none := by
  induction os generalizing a with
  | nil => exact ⟨List.nodup_nil, fun o ho => absurd ho List.not_mem_nil⟩
  | cons o os ih =>
      rw [List.foldlM_cons] at h
      obtain ⟨c, hc, hrest⟩ := exists_of_bind_eq_ok h
      obtain ⟨hnodup, habsent⟩ := ih hrest
      have hne : ∀ p ∈ os, p.name ≠ o.name := by
        intro p hp heq
        have hsome := isSome_given?_of_give hc
        rw [← heq, habsent p hp] at hsome
        cases hsome
      refine ⟨?_, ?_⟩
      · rw [List.map_cons, List.nodup_cons]
        refine ⟨fun hmem => ?_, hnodup⟩
        obtain ⟨p, hp, heq⟩ := List.mem_map.1 hmem
        exact hne p hp heq
      · intro p hp
        rcases List.mem_cons.1 hp with rfl | hp
        · exact (give_cases hc).1
        · rw [← given?_of_give hc (hne p hp), habsent p hp]

/-- Behind plain options of different names, one of these names is refused. -/
theorem foldlM_give_of_mem {front : List GivenOption} (hplain : ∀ p ∈ front, p.IsPlain)
    (hnodup : (front.map GivenOption.name).Nodup) (ho : o.name ∈ front.map GivenOption.name)
    (back : List GivenOption) :
    (front ++ o :: back).foldlM give none = .error o.repetition := by
  obtain ⟨b, hb, hgiven, -⟩ := foldlM_give_of_nodup hplain hnodup fun p _ => given?_none p.name
  obtain ⟨p, hp, heq⟩ := List.mem_map.1 ho
  have hpresent : (b.given? o.name).isSome := by
    rw [← heq, hgiven p hp]
    rfl
  rw [List.foldlM_append, hb, ok_bind, List.foldlM_cons, give_of_present hpresent]
  rfl

/-- Among plain options of different names, the name of an option that comes again is refused: this
one if the other stands before it, and else the other. -/
theorem foldlM_give_of_again {front back : List GivenOption}
    (hplain : ∀ p ∈ front ++ o :: back, p.IsPlain)
    (hnodup : ((front ++ back).map GivenOption.name).Nodup)
    (ho : o.name ∈ (front ++ back).map GivenOption.name) :
    (front ++ o :: back).foldlM give none = .error o.repetition := by
  rw [List.map_append] at hnodup ho
  rcases List.mem_append.1 ho with hfront | hback
  · exact foldlM_give_of_mem (fun p hp => hplain p (List.mem_append_left _ hp))
      (List.Nodup.of_append_left hnodup) hfront back
  · obtain ⟨later, hlater, heq⟩ := List.mem_map.1 hback
    obtain ⟨between, behind, rfl⟩ := List.append_of_mem hlater
    have hfresh : ((front ++ o :: between).map GivenOption.name).Nodup := by
      rw [List.map_append, List.map_cons, ← List.append_assoc, List.nodup_middle,
        List.nodup_cons, ← List.map_append] at hnodup
      rw [List.map_append, List.map_cons, List.nodup_middle, ← heq, List.nodup_cons,
        ← List.map_append]
      exact ⟨fun hmem => hnodup.1 (List.mem_append_left _ hmem), hnodup.2.of_append_left⟩
    have hsplit : front ++ o :: (between ++ later :: behind) =
        (front ++ o :: between) ++ later :: behind := by
      rw [List.append_assoc, List.cons_append]
    rw [hsplit] at hplain ⊢
    rw [← GivenOption.repetition_congr heq]
    refine foldlM_give_of_mem (fun p hp => hplain p (List.mem_append_left _ hp)) hfresh ?_ behind
    rw [heq]
    exact List.mem_map_of_mem (List.mem_append_right _ List.mem_cons_self)

/-! ## Command lines -/

/-- The options of a command line in any order have different names. -/
theorem nodup_names_of_perm {os : List (GivenOption × Bool)}
    (horder : (os.map Prod.fst).Perm a.options) :
    ((os.map Prod.fst).map GivenOption.name).Nodup :=
  (horder.map _).nodup_iff.2 a.nodup_names

section
variable (hlevel : ∀ value, a.logLevel = some value → IsPlainValue value)
    (hlibrary : ∀ value, a.library = some value → IsPlainValue value)
    {os : List (GivenOption × Bool)} (horder : (os.map Prod.fst).Perm a.options)
include hlevel hlibrary

theorem isPlain_of_mem_options (ho : o ∈ a.options) : o.IsPlain := by
  have hgiven := mem_options.1 ho
  obtain ⟨option, value⟩ | option := o
  · cases option with
    | logLevel =>
        obtain ⟨v, hv, heq⟩ := Option.map_eq_some_iff.1 hgiven
        cases heq
        exact hlevel _ hv
    | library =>
        obtain ⟨v, hv, heq⟩ := Option.map_eq_some_iff.1 hgiven
        cases heq
        exact hlibrary _ hv
    | clientProcessId =>
        obtain ⟨id, -, heq⟩ := Option.map_eq_some_iff.1 hgiven
        cases heq
        exact ⟨id, rfl⟩
  · cases option with
    | noColor => trivial
    | noFileLogging => trivial
    | help => cases hgiven
    | version => cases hgiven

include horder

theorem isPlain_of_perm : ∀ o ∈ os.map Prod.fst, o.IsPlain := fun _ ho =>
  isPlain_of_mem_options hlevel hlibrary (horder.mem_iff.1 ho)

/-- The options in any order and with any spelling are read as they are. -/
theorem read_commandLine_of_perm : read (commandLine os) = .ok a := by
  have hplain := isPlain_of_perm hlevel hlibrary horder
  have hreadable : ∀ o ∈ os, GivenOption.IsReadable o := fun o ho =>
    (hplain o.1 (List.mem_map_of_mem ho)).isReadable o.2
  obtain ⟨b, hb, hgiven, hframe⟩ :=
    foldlM_give_of_nodup hplain (nodup_names_of_perm horder) fun o _ => given?_none o.name
  have heq : b = a := by
    refine ext_given? fun n => ?_
    by_cases hn : n ∈ (os.map Prod.fst).map GivenOption.name
    · obtain ⟨o, ho, rfl⟩ := List.mem_map.1 hn
      rw [hgiven o ho, mem_options.1 (horder.mem_iff.1 ho)]
    · rw [hframe n hn, given?_none]
      cases ha : a.given? n with
      | none => rfl
      | some o =>
          obtain rfl := name_of_given? ha
          have ho : o ∈ os.map Prod.fst := horder.mem_iff.2 (mem_options.2 ha)
          exact absurd (List.mem_map_of_mem ho) hn
  rw [read, readFrom_eq_foldlM hreadable, hb, heq]

/-- The message about an option that comes again names it, wherever it stands. -/
theorem read_commandLine_of_again {front back : List (GivenOption × Bool)}
    (hos : os = front ++ back) {again : GivenOption × Bool} (hplain : again.1.IsPlain)
    (hagain : again.1.name ∈ a.options.map GivenOption.name) :
    read (commandLine (front ++ again :: back)) = .error again.1.repetition := by
  have hnodup := nodup_names_of_perm horder
  have hmem : again.1.name ∈ (os.map Prod.fst).map GivenOption.name :=
    (horder.map _).mem_iff.2 hagain
  have hall : ∀ o ∈ front ++ again :: back, o.1.IsPlain := by
    intro o ho
    rw [List.mem_append, List.mem_cons, or_left_comm, ← List.mem_append, ← hos] at ho
    rcases ho with rfl | ho
    · exact hplain
    · exact isPlain_of_perm hlevel hlibrary horder o.1 (List.mem_map_of_mem ho)
  rw [hos, List.map_append] at hnodup hmem
  rw [read, readFrom_eq_foldlM fun o ho => (hall o ho).isReadable o.2, List.map_append,
    List.map_cons]
  refine foldlM_give_of_again (fun p hp => ?_) hnodup hmem
  rw [← List.map_cons, ← List.map_append] at hp
  obtain ⟨o, ho, rfl⟩ := List.mem_map.1 hp
  exact hall o ho

end

section
variable {os : List (GivenOption × Bool)} {again : GivenOption × Bool}
    (hagain : again.1.name ∈ (os.map Prod.fst).map GivenOption.name)
include hagain

/-- A command line is refused if an option comes again, with whatever value. -/
theorem exists_error_of_again {front back : List (GivenOption × Bool)} (hos : os = front ++ back) :
    ∃ e, read (commandLine (front ++ again :: back)) = .error e := by
  cases h : read (commandLine (front ++ again :: back)) with
  | error e => exact ⟨e, rfl⟩
  | ok b =>
      have hfold : ((front ++ again :: back).map Prod.fst).foldlM give none = .ok b := by
        rw [← readFrom_eq_foldlM (isReadable_of_readFrom h)]
        exact h
      have hnodup := (nodup_of_foldlM_give hfold).1
      simp only [hos, List.map_append, List.map_cons, List.nodup_middle, List.nodup_cons]
        at hnodup hagain
      exact absurd hagain hnodup.1

/-- This holds between any two arguments, also between an option and its value. -/
theorem exists_error_of_again_append {before after : List String}
    (hplace : commandLine os = before ++ after) :
    ∃ e, read (before ++ again.1.arguments again.2 ++ after) = .error e := by
  rcases commandLine_eq_append hplace with
    ⟨front, back, hos, rfl, rfl⟩ | ⟨front, option, value, back, -, rfl, rfl⟩
  · have hwhole : commandLine front ++ again.1.arguments again.2 ++ commandLine back =
        commandLine (front ++ again :: back) := by
      rw [commandLine, commandLine, commandLine, List.flatMap_append, List.flatMap_cons,
        List.append_assoc]
    rw [hwhole]
    exact exists_error_of_again hagain hos
  · obtain ⟨argument, rest, heq, hform⟩ := exists_arguments_eq_cons again.1 again.2
    rw [heq, List.append_assoc, List.append_assoc, List.singleton_append, List.cons_append]
    exact exists_error_of_name_append hform option front none .none _

end

/-- What a command line says, and the settings that follow.  The options that are present can come
in any order and with any spelling, and none of them can come again at any place.  The library of
the command line comes before the one of the environment. -/
theorem read_commandLine (hlevel : ∀ value, a.logLevel = some value → IsPlainValue value)
    (hlibrary : ∀ value, a.library = some value → IsPlainValue value)
    {os : List (GivenOption × Bool)} (horder : (os.map Prod.fst).Perm a.options) :
    read (commandLine os) = .ok a ∧
      (∀ (again : GivenOption × Bool), again.1.name ∈ a.options.map GivenOption.name →
        (∀ before after, commandLine os = before ++ after →
          ∃ e, read (before ++ again.1.arguments again.2 ++ after) = .error e) ∧
        ∀ front back, os = front ++ back → again.1.IsPlain →
          read (commandLine (front ++ again :: back)) = .error again.1.repetition) ∧
      ∀ env : String → Option String,
        (∀ path, a.library = some path → (Settings.resolve a env).libraryPath = some path) ∧
        (a.library = .none → ∀ path, (Settings.resolve a env).libraryPath = some path ↔
          env "LMNTAL_LIBRARY_PATH" = some path ∧ path ≠ "") ∧
        (Settings.resolve a env).clientProcessId = a.clientProcessId ∧
        ∀ env' : String → Option String,
          env' "LMNTAL_LIBRARY_PATH" = env "LMNTAL_LIBRARY_PATH" →
            Settings.resolve a env' = Settings.resolve a env := by
  refine ⟨read_commandLine_of_perm hlevel hlibrary horder, fun again hagain => ⟨?_, ?_⟩,
    fun env => ⟨?_, ?_, rfl, ?_⟩⟩
  · intro before after hplace
    exact exists_error_of_again_append ((horder.map _).mem_iff.2 hagain) hplace
  · intro front back hos hplain
    exact read_commandLine_of_again hlevel hlibrary horder hos hplain hagain
  · exact fun path hpath => Settings.libraryPath_resolve_of_some hpath env
  · exact fun hnone path => Settings.libraryPath_resolve_of_none hnone env
  · exact fun env' henv => Settings.resolve_eq_of_env henv a

/-- Five options with mixed spellings.  One value is the name of another option, and one has an
equals sign and a character beyond ASCII.  A sixth option is refused at the end and between an
option and its value. -/
theorem read_commandLine_of_five_options :
    let a : Arguments := ⟨some "trace=色", true, true, some "no-color", some 4294967295⟩
    read ["--library", "no-color", "--no-color", "--client-process-id=4294967295",
        "--log-level=trace=色", "--no-file-logging"] = .ok a ∧
    read ["--library", "no-color", "--no-color", "--client-process-id=4294967295",
        "--log-level=trace=色", "--no-file-logging", "--library=x"] =
      .error (.repeatedSetting .library) ∧
    (∃ e, read ["--library", "--no-color", "no-color", "--no-color",
        "--client-process-id=4294967295", "--log-level=trace=色", "--no-file-logging"] =
      .error e) ∧
    (Settings.resolve a fun _ => some "/env/library").libraryPath = some "no-color" := by
  intro a
  have hlevel : ∀ value, a.logLevel = some value → IsPlainValue value := by
    rintro value ⟨⟩
    exact ⟨by decide, by decide⟩
  have hlibrary : ∀ value, a.library = some value → IsPlainValue value := by
    rintro value ⟨⟩
    exact ⟨by decide, by decide⟩
  let os : List (GivenOption × Bool) :=
    [(.setting .library "no-color", false), (.switch .noColor, false),
      (.setting .clientProcessId "4294967295", true), (.setting .logLevel "trace=色", true),
      (.switch .noFileLogging, false)]
  have horder : (os.map Prod.fst).Perm a.options := by decide
  obtain ⟨hread, hagain, hresolve⟩ := read_commandLine hlevel hlibrary horder
  refine ⟨hread, ?_, ?_, ?_⟩
  · refine (hagain (.setting .library "x", true) ?_).2 os [] (List.append_nil _).symm
      ⟨by decide, by decide⟩
    exact List.mem_map.2 ⟨.setting .library "no-color", by decide, rfl⟩
  · refine (hagain (.switch .noColor, false) ?_).1 ["--library"] _ rfl
    exact List.mem_map.2 ⟨.switch .noColor, by decide, rfl⟩
  · exact (hresolve _).1 _ rfl

end Arguments
end LmntalServer
