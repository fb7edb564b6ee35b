import LmntalServer.CommandLine.Reader
import Mathlib.Data.List.TakeWhile

/-!
# Command lines as options

A command line is a list of options, each with one or two arguments.  The reader sees arguments
only: it takes the value of an option from behind an equals sign or from the next argument, and
looks at a value of its own argument when the next option comes.  This makes no difference to what
is read.  A command line is accepted as if its options were given one after another, whichever way
they are spelled, and one with a value that cannot stand in an argument of its own is refused.

Main definitions:

* `GivenOption`: an option with its value.
* `GivenOption.arguments`, `commandLine`: the arguments of an option, and of several.
* `IsPlainValue`, `GivenOption.IsReadable`: the values that can stand in an argument of their own.
* `Arguments.give`: the arguments with one more option.

Main results:

* `readProcessId_toString`: a process identifier is read from its decimal digits.
* `Arguments.readFrom_commandLine`: an option whose value has come is looked at before the others.
* `Arguments.readFrom_eq_foldlM`: a command line gives its options one after another.
* `Arguments.isReadable_of_readFrom`: there is no other way to be accepted.
* `Arguments.commandLine_eq_append`: the places of a command line.
* `Arguments.exists_error_of_name_append`: nothing can stand between an option and its value.
-/

namespace LmntalServer

/-- An option as a command line gives it, with its value if it takes one. -/
inductive GivenOption where
  | setting (option : Setting) (value : String)
  | switch (option : Switch)
deriving DecidableEq, Repr

namespace GivenOption

/-- Which option is given. -/
def name : GivenOption → Setting ⊕ Switch
  | setting option _ => .inl option
  | switch option => .inr option

/-- The arguments of an option.  Its value is joined to the name by an equals sign, or it is an
argument of its own. -/
def arguments (joined : Bool) : GivenOption → List String
  | setting option value =>
      if joined then ["--" ++ option.name ++ "=" ++ value] else ["--" ++ option.name, value]
  | switch option => ["--" ++ option.name]

end GivenOption

/-- The arguments of some options, each with its spelling. -/
def commandLine (options : List (GivenOption × Bool)) : List String :=
  options.flatMap fun o => o.1.arguments o.2

/-- The values that can stand in an argument of their own, since they are not empty and do not look
like an option. -/
def IsPlainValue (value : String) : Prop :=
  value ≠ "" ∧ value.toList.head? ≠ some '-'

/-- A value in an argument of its own does not look like an option; what stands behind an equals
sign may be anything. -/
def GivenOption.IsReadable : GivenOption × Bool → Prop
  | (setting _ value, false) => Arguments.formOf value = .word
  | _ => True

/-- The arguments with one more option, which may not be present yet. -/
def Arguments.give (a : Arguments) : GivenOption → Except ArgumentError Arguments
  | .setting option value => a.set option value
  | .switch option => a.switch option

/-! ## Process identifiers -/

theorem digitValue_digitChar {d : Nat} (hd : d < 10) : digitValue d.digitChar = d := by
  revert d
  decide

/-- A digit behind a number that is not too large. -/
theorem readDigits_digitChar {n d : Nat} (hd : d < 10) (hn : 10 * n + d < UInt32.size)
    (rest : List Char) :
    readDigits false n (d.digitChar :: rest) = readDigits false (10 * n + d : Nat) rest := by
  have hsize : UInt32.size = 4294967296 := rfl
  have hcast : ((10 * n + d : Nat) : Int) = 10 * n + d := by omega
  have hmax : ¬maxInt64 < 10 * (n : Int) + d := by
    rw [maxInt64]
    omega
  have hmin : ¬10 * (n : Int) + d < minInt64 := by
    rw [minInt64]
    omega
  rw [readDigits, if_pos (by rw [Nat.isDigit_digitChar]; exact decide_eq_true hd)]
  simp only [digitValue_digitChar hd, Bool.false_eq_true, if_false]
  rw [if_neg hmax, if_neg hmin, hcast]

/-- The digits of a number that is not too large are read to the last. -/
theorem readDigits_toDigits_append {n : Nat} (hn : n < UInt32.size) (rest : List Char) :
    readDigits false 0 (Nat.toDigits 10 n ++ rest) = readDigits false n rest := by
  induction n using Nat.strongRecOn generalizing rest with
  | _ n ih =>
      rw [Nat.toDigits_eq_if (by decide)]
      split
      · next hsmall =>
          have hdigit := readDigits_digitChar (n := 0) hsmall (by omega) rest
          rwa [Nat.mul_zero, Nat.zero_add] at hdigit
      · have hdiv : n / 10 < n := by omega
        have hsum : 10 * (n / 10) + n % 10 = n := Nat.div_add_mod n 10
        have hdigit := readDigits_digitChar (n := n / 10) (Nat.mod_lt n (by decide))
          (by rwa [hsum]) rest
        rw [hsum] at hdigit
        rw [List.append_assoc, List.singleton_append, ih _ hdiv (Nat.lt_trans hdiv hn), hdigit]

/-- A number that begins with a digit has no sign. -/
theorem readInt64_of_isDigit {c : Char} (hc : c.isDigit = true) (t : List Char) :
    readInt64 (c :: t) = readDigits false 0 (c :: t) := by
  have hplus : c ≠ '+' := by
    rintro rfl
    cases hc
  have hminus : c ≠ '-' := by
    rintro rfl
    cases hc
  unfold readInt64
  split <;> simp_all

/-- A process identifier is written with digits. -/
theorem exists_toList_toString (id : UInt32) :
    ∃ c t, Nat.toDigits 10 id.toNat = c :: t ∧ (toString id).toList = c :: t ∧
      c.isDigit = true := by
  have hlist : (toString id).toList = Nat.toDigits 10 id.toNat := by
    change (toString id.toNat).toList = _
    rw [Nat.toString_eq_repr, Nat.toList_repr]
  obtain ⟨c, t, hct⟩ := List.exists_cons_of_ne_nil (Nat.toDigits_ne_nil (n := id.toNat) (b := 10))
  exact ⟨c, t, hct, hlist.trans hct,
    Nat.isDigit_of_mem_toDigits (by decide) (by decide) (hct ▸ List.mem_cons_self)⟩

/-- A process number is not written with a sign. -/
theorem head?_toString_ne (id : UInt32) : (toString id).toList.head? ≠ some '-' := by
  obtain ⟨c, t, -, hct, hc⟩ := exists_toList_toString id
  rw [hct]
  intro h
  cases h
  cases hc

/-- A process identifier is read from its decimal digits. -/
theorem readProcessId_toString (id : UInt32) : readProcessId (toString id) = .ok id := by
  have hlt : id.toNat < UInt32.size := id.toNat_lt
  have hread : readInt64 (toString id).toList = .ok id.toNat := by
    obtain ⟨c, t, hdigits, hct, hc⟩ := exists_toList_toString id
    have hall := readDigits_toDigits_append hlt []
    rw [List.append_nil, hdigits] at hall
    rw [hct, readInt64_of_isDigit hc, hall]
    rfl
  have hbounds : 0 ≤ (id.toNat : Int) ∧ (id.toNat : Int) ≤ 0xFFFFFFFF := by
    have hsize : UInt32.size = 4294967296 := rfl
    omega
  rw [readProcessId, hread]
  simp only
  rw [if_pos hbounds, Int.toNat_natCast, Nat.toUInt32, UInt32.ofNat_toNat]

/-! ## Forms of arguments -/

section
variable {name value : String}

/-- Two hyphens and a name are an option without a value. -/
theorem formOf_name (hne : name.toList ≠ []) (hname : '=' ∉ name.toList) :
    Arguments.formOf ("--" ++ name) = .long name none := by
  have hall : ∀ c ∈ name.toList, decide (c ≠ '=') = true := fun c hc =>
    decide_eq_true fun heq => hname (heq ▸ hc)
  have hlist : ("--" ++ name).toList = '-' :: '-' :: name.toList := by simp
  obtain ⟨c, t, hct⟩ := List.exists_cons_of_ne_nil hne
  rw [hct] at hall hlist
  rw [Arguments.formOf, hlist]
  simp only
  rw [List.dropWhile_eq_nil_iff.2 hall, List.takeWhile_eq_self_iff.2 hall, ← hct,
    String.ofList_toList]

/-- Two hyphens, a name, an equals sign and a value are an option with the value. -/
theorem formOf_joined (hne : name.toList ≠ []) (hname : '=' ∉ name.toList) (value : String) :
    Arguments.formOf ("--" ++ name ++ "=" ++ value) = .long name (some value) := by
  have hall : ∀ c ∈ name.toList, decide (c ≠ '=') = true := fun c hc =>
    decide_eq_true fun heq => hname (heq ▸ hc)
  have hlist : ("--" ++ name ++ "=" ++ value).toList =
      '-' :: '-' :: (name.toList ++ '=' :: value.toList) := by simp
  obtain ⟨c, t, hct⟩ := List.exists_cons_of_ne_nil hne
  rw [hct] at hall hlist
  rw [Arguments.formOf, hlist]
  simp only [List.cons_append]
  rw [← List.cons_append, List.dropWhile_append_of_pos hall, List.takeWhile_append_of_pos hall]
  simp [← hct]

/-- An argument that does not begin with a hyphen is no option. -/
theorem formOf_word (h : value.toList.head? ≠ some '-') : Arguments.formOf value = .word := by
  unfold Arguments.formOf
  split <;> simp_all

end

namespace Setting

theorem name_ne_nil (s : Setting) : s.name.toList ≠ [] := by
  cases s <;> decide

theorem equals_not_mem_name (s : Setting) : '=' ∉ s.name.toList := by
  cases s <;> decide

theorem ofName?_name (s : Setting) : ofName? s.name = some s := by
  cases s <;> decide

end Setting

namespace Switch

theorem name_ne_nil (s : Switch) : s.name.toList ≠ [] := by
  cases s <;> decide

theorem equals_not_mem_name (s : Switch) : '=' ∉ s.name.toList := by
  cases s <;> decide

theorem ofName?_name (s : Switch) : ofName? s.name = some s := by
  cases s <;> decide

theorem settingOfName?_name (s : Switch) : Setting.ofName? s.name = none := by
  cases s <;> decide

end Switch

/-! ## Single arguments -/

namespace Arguments

variable {a b : Arguments} {pending : Pending} {rest : List String}

theorem ok_bind {α β : Type} (x : α) (f : α → Except ArgumentError β) :
    ((Except.ok x : Except ArgumentError α) >>= f) = f x :=
  rfl

/-- If two readings in a row end well, each of them does. -/
theorem exists_of_bind_eq_ok {α β : Type} {x : Except ArgumentError α}
    {f : α → Except ArgumentError β} {y : β} (h : (x >>= f) = .ok y) :
    ∃ z, x = .ok z ∧ f z = .ok y := by
  cases x with
  | error e => cases h
  | ok z => exact ⟨z, rfl, h⟩

/-- If the second of two readings fails on every result of the first, the two fail in a row. -/
theorem exists_error_of_bind {α β : Type} {x : Except ArgumentError α}
    {f : α → Except ArgumentError β} (h : ∀ z, ∃ e, f z = .error e) :
    ∃ e, (x >>= f) = .error e := by
  cases x with
  | error e => exact ⟨e, rfl⟩
  | ok z => exact h z

/-- A value behind an equals sign is looked at once. -/
theorem readFrom_joined (a : Arguments) (pending : Pending) (option : Setting) (value : String)
    (rest : List String) :
    a.readFrom pending (("--" ++ option.name ++ "=" ++ value) :: rest) = (do
      let a ← a.settle pending
      let a ← a.set option value
      a.readFrom .none rest) := by
  rw [readFrom.eq_def]
  simp only [formOf_joined option.name_ne_nil option.equals_not_mem_name, option.ofName?_name]

/-- An option without an equals sign waits for its value. -/
theorem readFrom_name (a : Arguments) (pending : Pending) (option : Setting)
    (rest : List String) :
    a.readFrom pending (("--" ++ option.name) :: rest) = (do
      let a ← a.settle pending
      a.readFrom (some (option, .none)) rest) := by
  rw [readFrom.eq_def]
  simp only [formOf_name option.name_ne_nil option.equals_not_mem_name, option.ofName?_name]

/-- A switch settles what was pending before it, and is then set. -/
theorem readFrom_switch (a : Arguments) (pending : Pending) (option : Switch)
    (rest : List String) :
    a.readFrom pending (("--" ++ option.name) :: rest) = (do
      let a ← a.settle pending
      let a ← a.switch option
      a.readFrom .none rest) := by
  rw [readFrom.eq_def]
  simp only [formOf_name option.name_ne_nil option.equals_not_mem_name,
    option.settingOfName?_name, option.ofName?_name]

/-- A value that an option has waited for. -/
theorem readFrom_value {value : String} (hvalue : formOf value = .word)
    (a : Arguments) (option : Setting) (rest : List String) :
    a.readFrom (some (option, .none)) (value :: rest) =
      a.readFrom (some (option, some value)) rest := by
  rw [readFrom.eq_def]
  simp only [hvalue]

/-- An option that waits for its value does not get it from an argument that looks like another
option. -/
theorem exists_error_of_formOf {value : String} (hvalue : formOf value ≠ .word) (a : Arguments)
    (option : Setting) (rest : List String) :
    ∃ e, a.readFrom (some (option, .none)) (value :: rest) = .error e := by
  rw [readFrom.eq_def]
  dsimp only
  generalize formOf value = form at hvalue ⊢
  cases form with
  | word => exact absurd rfl hvalue
  | endOfOptions =>
      cases rest with
      | nil => exact ⟨_, rfl⟩
      | cons next rest => exact ⟨_, rfl⟩
  | long name joined =>
      dsimp only
      split <;> exact ⟨_, rfl⟩
  | short letter =>
      dsimp only
      split <;> exact ⟨_, rfl⟩

/-! ## Whole command lines -/

@[simp]
theorem commandLine_nil : commandLine [] = [] :=
  rfl

/-- The arguments of a command line are those of its options in their order. -/
theorem commandLine_cons (o : GivenOption × Bool) (options : List (GivenOption × Bool)) :
    commandLine (o :: options) = o.1.arguments o.2 ++ commandLine options :=
  List.flatMap_cons

/-- An option whose value has come is looked at before all that follows. -/
theorem readFrom_commandLine (a : Arguments) (pending : Pending)
    (options : List (GivenOption × Bool)) :
    a.readFrom pending (commandLine options) = (do
      let a ← a.settle pending
      a.readFrom .none (commandLine options)) := by
  have hnone (a : Arguments) : a.settle .none = .ok a := rfl
  rcases options with _ | ⟨⟨option | option, joined⟩, options⟩
  · cases hsettle : a.settle pending with
    | ok a' => exact hsettle
    | error e => exact hsettle
  · cases joined with
    | true => simp [commandLine_cons, GivenOption.arguments, readFrom_joined, hnone, ok_bind]
    | false => simp [commandLine_cons, GivenOption.arguments, readFrom_name, hnone, ok_bind]
  · simp [commandLine_cons, GivenOption.arguments, readFrom_switch, hnone, ok_bind]

/-- An option whose value can be read is given before the others are read. -/
theorem readFrom_commandLine_cons {o : GivenOption × Bool} (ho : GivenOption.IsReadable o)
    (a : Arguments) (options : List (GivenOption × Bool)) :
    a.readFrom .none (commandLine (o :: options)) = (do
      let a ← a.give o.1
      a.readFrom .none (commandLine options)) := by
  have hnone (a : Arguments) : a.settle .none = .ok a := rfl
  obtain ⟨option | option, joined⟩ := o
  · cases joined with
    | true => simp [commandLine_cons, GivenOption.arguments, readFrom_joined, hnone, ok_bind, give]
    | false =>
        have hvalue : formOf _ = .word := ho
        rw [commandLine_cons, GivenOption.arguments, if_neg Bool.false_ne_true, List.cons_append,
          List.singleton_append, readFrom_name, hnone, ok_bind, readFrom_value hvalue,
          readFrom_commandLine]
        rfl
  · simp [commandLine_cons, GivenOption.arguments, readFrom_switch, hnone, ok_bind, give]

/-- A command line gives its options one after another. -/
theorem readFrom_eq_foldlM {options : List (GivenOption × Bool)}
    (h : ∀ o ∈ options, GivenOption.IsReadable o) (a : Arguments) :
    a.readFrom .none (commandLine options) = (options.map Prod.fst).foldlM give a := by
  induction options generalizing a with
  | nil => rfl
  | cons o options ih =>
      rw [readFrom_commandLine_cons (h o List.mem_cons_self), List.map_cons, List.foldlM_cons]
      congr 1
      funext b
      exact ih (fun p hp => h p (List.mem_cons_of_mem _ hp)) b

/-- A command line is accepted only if all values of its options can be read. -/
theorem isReadable_of_readFrom {options : List (GivenOption × Bool)} {a b : Arguments}
    (h : a.readFrom .none (commandLine options) = .ok b) :
    ∀ o ∈ options, GivenOption.IsReadable o := by
  induction options generalizing a with
  | nil => exact fun o ho => absurd ho List.not_mem_nil
  | cons o options ih =>
      have hreadable : GivenOption.IsReadable o := by
        obtain ⟨option | option, joined⟩ := o
        · cases joined with
          | true => trivial
          | false =>
              by_contra hvalue
              rw [commandLine_cons, GivenOption.arguments, if_neg Bool.false_ne_true,
                List.cons_append, readFrom_name] at h
              obtain ⟨c, -, h⟩ := exists_of_bind_eq_ok h
              obtain ⟨e, he⟩ := exists_error_of_formOf hvalue c option (commandLine options)
              rw [List.singleton_append, he] at h
              cases h
        · trivial
      rw [readFrom_commandLine_cons hreadable] at h
      obtain ⟨c, -, hrest⟩ := exists_of_bind_eq_ok h
      intro p hp
      rcases List.mem_cons.1 hp with rfl | hp
      · exact hreadable
      · exact ih hrest p hp

/-! ## Places between arguments -/

/-- An option begins with an argument that looks like one. -/
theorem exists_arguments_eq_cons (o : GivenOption) (joined : Bool) :
    ∃ argument rest, o.arguments joined = argument :: rest ∧ formOf argument ≠ .word := by
  cases o with
  | setting option value =>
      cases joined with
      | true =>
          refine ⟨_, _, rfl, ?_⟩
          rw [formOf_joined option.name_ne_nil option.equals_not_mem_name]
          exact Form.noConfusion
      | false =>
          refine ⟨_, _, rfl, ?_⟩
          rw [formOf_name option.name_ne_nil option.equals_not_mem_name]
          exact Form.noConfusion
  | switch option =>
      refine ⟨_, _, rfl, ?_⟩
      rw [formOf_name option.name_ne_nil option.equals_not_mem_name]
      exact Form.noConfusion

/-- A place of a command line is between two options, or between an option and its value, since only
an option with a value of its own has two arguments. -/
theorem commandLine_eq_append {options : List (GivenOption × Bool)} {before after : List String}
    (h : commandLine options = before ++ after) :
    (∃ front back, options = front ++ back ∧ before = commandLine front ∧
      after = commandLine back) ∨
    ∃ front option value back, options = front ++ (.setting option value, false) :: back ∧
      before = commandLine front ++ ["--" ++ option.name] ∧
      after = value :: commandLine back := by
  induction options generalizing before with
  | nil =>
      obtain ⟨rfl, rfl⟩ := List.append_eq_nil_iff.1 h.symm
      exact .inl ⟨[], [], rfl, rfl, rfl⟩
  | cons o options ih =>
      rw [commandLine_cons] at h
      rcases List.append_eq_append_iff.1 h with ⟨middle, rfl, hrest⟩ | ⟨middle, hfirst, rfl⟩
      · rcases ih hrest with
          ⟨front, back, rfl, rfl, rfl⟩ | ⟨front, option, value, back, rfl, rfl, rfl⟩
        · exact .inl ⟨o :: front, back, rfl, rfl, rfl⟩
        · refine .inr ⟨o :: front, option, value, back, rfl, ?_, rfl⟩
          rw [commandLine_cons, List.append_assoc]
      · rcases before with _ | ⟨argument, before⟩
        · refine .inl ⟨[], o :: options, rfl, rfl, ?_⟩
          rw [commandLine_cons, hfirst, List.nil_append]
        rcases middle with _ | ⟨next, middle⟩
        · refine .inl ⟨[o], options, rfl, ?_, rfl⟩
          rw [commandLine_cons, hfirst, commandLine_nil, List.append_nil, List.append_nil]
        obtain ⟨⟨option, value⟩ | option, joined⟩ := o
        · cases joined with
          | true => simp [GivenOption.arguments] at hfirst
          | false =>
              obtain ⟨rfl, hvalue⟩ := List.cons.inj hfirst
              obtain ⟨rfl, hnext⟩ | ⟨-, hnext⟩ := List.append_eq_singleton_iff.1 hvalue.symm
              · cases hnext
                exact .inr ⟨[], option, _, options, rfl, rfl, rfl⟩
              · cases hnext
        · simp [GivenOption.arguments] at hfirst

/-- Nothing that looks like an option can stand between an option and its value. -/
theorem exists_error_of_name_append {argument : String} (hargument : formOf argument ≠ .word)
    (option : Setting) (front : List (GivenOption × Bool)) (a : Arguments) (pending : Pending)
    (rest : List String) :
    ∃ e, a.readFrom pending (commandLine front ++ ("--" ++ option.name) :: argument :: rest) =
      .error e := by
  induction front generalizing a pending with
  | nil =>
      rw [commandLine_nil, List.nil_append, readFrom_name]
      exact exists_error_of_bind fun b => exists_error_of_formOf hargument b option rest
  | cons o front ih =>
      rw [commandLine_cons, List.append_assoc]
      obtain ⟨other | other, joined⟩ := o
      · rename_i value
        cases joined with
        | true =>
            rw [GivenOption.arguments, if_pos rfl, List.singleton_append, readFrom_joined]
            exact exists_error_of_bind fun b => exists_error_of_bind fun c => ih c .none
        | false =>
            rw [GivenOption.arguments, if_neg Bool.false_ne_true, List.cons_append,
              List.singleton_append, readFrom_name]
            refine exists_error_of_bind fun b => ?_
            by_cases hvalue : formOf value = .word
            · rw [readFrom_value hvalue]
              exact ih b _
            · exact exists_error_of_formOf hvalue b other _
      · rw [GivenOption.arguments, List.singleton_append, readFrom_switch]
        exact exists_error_of_bind fun b => exists_error_of_bind fun c => ih c .none

end Arguments

end LmntalServer
