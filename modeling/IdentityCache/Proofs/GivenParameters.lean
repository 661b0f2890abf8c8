import IdentityCache.CommandLine.Launch
import IdentityCache.Proofs.MarkedText

/-!
# Parameters as they are given

A parameter is given by one argument, or by two if it is an option whose value stands by itself
(`Gives`).  The reader of a command line goes by arguments and keeps an option whose value may still
be to come.  Reading the arguments that give some parameters is taking in the parameters one by one
(`Selection.foldlM_takeArgument`), whichever way their values are given: a value that stands by
itself is taken in late, but nothing looks at the options in between.

Parameters that are all given once and whose values can be read are taken in, and a second one is
refused wherever it stands (`Selection.foldlM_take_of_twice`).
-/

namespace IdentityCache.CommandLine

set_option autoImplicit false

/-! ## Names -/

theorem Parameter.ofName?_name (parameter : Parameter) :
    Parameter.ofName? parameter.name = some parameter := by
  cases parameter with
  | switch switch => cases switch <;> rfl
  | option option => cases option <;> rfl

theorem Parameter.mem_all (parameter : Parameter) : parameter ∈ Parameter.all := by
  cases parameter with
  | switch switch => cases switch <;> decide
  | option option => cases option <;> decide

/-- A name has no equals sign, and it is not empty. -/
theorem Parameter.name_plain (parameter : Parameter) :
    '=' ∉ parameter.name.toList ∧ parameter.name.toList ≠ [] := by
  have plain : ∀ parameter ∈ Parameter.all,
      '=' ∉ parameter.name.toList ∧ parameter.name.toList ≠ [] := by
    decide +kernel
  exact plain parameter parameter.mem_all

/-- An argument is split at its first equals sign. -/
theorem splitArgument_append {name : List Char} (plain : '=' ∉ name) (value : List Char) :
    splitArgument (name ++ '=' :: value) = (String.ofList name, some (String.ofList value)) := by
  unfold splitArgument
  rw [takeWhile_append_mark plain]
  dsimp only
  rw [List.drop_left]

/-- An argument without an equals sign is a name. -/
theorem splitArgument_of_plain {name : List Char} (plain : '=' ∉ name) :
    splitArgument name = (String.ofList name, none) := by
  have whole : name.takeWhile (fun c => decide (c ≠ '=')) = name :=
    List.takeWhile_eq_self_iff.mpr fun c member =>
      decide_eq_true fun (same : c = '=') => plain (same ▸ member)
  unfold splitArgument
  rw [whole]
  dsimp only
  rw [List.drop_length]

/-! ## Giving parameters -/

/-- A parameter that is given, with the text of its value if it is an option. -/
inductive Given
  | switch (switch : Switch)
  | option (option : ValueOption) (text : String)
  deriving DecidableEq, Repr

/-- The parameter that is given. -/
def Given.parameter : Given → Parameter
  | .switch named => .switch named
  | .option named _ => .option named

/-- Whether arguments give parameters, in this order: a switch by its name, an option by its name
and its value, in one argument or in two.  A value that stands by itself is not empty and does not
begin with a hyphen. -/
inductive Gives : List Given → List String → Prop
  | nil : Gives [] []
  | switch (switch : Switch) {givens : List Given} {arguments : List String}
      (rest : Gives givens arguments) :
      Gives (.switch switch :: givens) (("--" ++ switch.name) :: arguments)
  | attached (option : ValueOption) (text : String) {givens : List Given}
      {arguments : List String} (rest : Gives givens arguments) :
      Gives (.option option text :: givens) (("--" ++ option.name ++ "=" ++ text) :: arguments)
  | separate (option : ValueOption) {text : String} (nonempty : text ≠ "")
      (noHyphen : text.toList.head? ≠ some '-') {givens : List Given} {arguments : List String}
      (rest : Gives givens arguments) :
      Gives (.option option text :: givens) (("--" ++ option.name) :: text :: arguments)

namespace Selection

variable {selection settled : Selection}

/-! ## Arguments -/

/-- Takes in a parameter that is given. -/
def take (selection : Selection) : Given → Except UsageError Selection
  | .switch named => do
    let selection ← selection.note (.switch named)
    .ok { selection with options := selection.options.turnOn named }
  | .option named text => selection.assign named text

/-- An argument that begins with two hyphens and goes on is the name of a parameter, with its value
if there is one. -/
theorem takeArgument_of_dashes (unended : selection.ended = false) {argument : String}
    {first : Char} {rest : List Char} (dashes : argument.toList = '-' :: '-' :: first :: rest)
    {name : String} {value : Option String} (split : splitArgument (first :: rest) = (name, value))
    {parameter : Parameter} (named : Parameter.ofName? name = some parameter) :
    selection.takeArgument argument = selection.takeParameter parameter value := by
  unfold takeArgument
  rw [dashes, unended, if_neg Bool.false_ne_true]
  simp only [split, named]

theorem takeArgument_name (unended : selection.ended = false) (parameter : Parameter) :
    selection.takeArgument ("--" ++ parameter.name) = selection.takeParameter parameter none := by
  obtain ⟨plain, nonempty⟩ := parameter.name_plain
  obtain ⟨first, rest, chars⟩ := List.exists_cons_of_ne_nil nonempty
  have dashes : ("--" ++ parameter.name).toList = '-' :: '-' :: first :: rest := by
    rw [String.toList_append, chars]
    rfl
  rw [chars] at plain
  refine takeArgument_of_dashes unended dashes (splitArgument_of_plain plain) ?_
  rw [← chars, String.ofList_toList, Parameter.ofName?_name]

theorem takeArgument_switch (unended : selection.ended = false) (switch : Switch) :
    selection.takeArgument ("--" ++ switch.name) =
      selection.finishCurrent >>= fun settled => settled.take (.switch switch) :=
  takeArgument_name unended (.switch switch)

theorem takeArgument_option (unended : selection.ended = false) (option : ValueOption) :
    selection.takeArgument ("--" ++ option.name) =
      selection.finishCurrent >>= fun settled =>
        .ok { settled with current := some (option, none) } :=
  takeArgument_name unended (.option option)

/-- An option with its value behind an equals sign is taken in at once. -/
theorem takeArgument_attached (unended : selection.ended = false) (option : ValueOption)
    (text : String) :
    selection.takeArgument ("--" ++ option.name ++ "=" ++ text) =
      selection.finishCurrent >>= fun settled => settled.take (.option option text) := by
  obtain ⟨plain, nonempty⟩ := (Parameter.option option).name_plain
  obtain ⟨first, rest, chars⟩ := List.exists_cons_of_ne_nil nonempty
  have dashes : ("--" ++ (Parameter.option option).name ++ "=" ++ text).toList =
      '-' :: '-' :: first :: (rest ++ '=' :: text.toList) := by
    rw [String.toList_append, String.toList_append, String.toList_append, chars,
      List.append_assoc, List.append_assoc]
    rfl
  rw [chars] at plain
  have split := splitArgument_append plain text.toList
  rw [← chars, String.ofList_toList, String.ofList_toList, chars] at split
  exact takeArgument_of_dashes unended dashes split (Parameter.option option).ofName?_name

/-- An argument that does not begin with a hyphen is the value of the option before it. -/
theorem takeArgument_value (unended : selection.ended = false) {option : ValueOption}
    (current : selection.current = some (option, none)) {text : String}
    (noHyphen : text.toList.head? ≠ some '-') :
    selection.takeArgument text =
      .ok { selection with current := some (option, some text) } := by
  unfold takeArgument
  rw [unended, if_neg Bool.false_ne_true]
  split
  -- Only the last form does not begin with a hyphen.
  case h_1 chars | h_2 chars | h_3 chars =>
    rw [chars] at noHyphen
    exact absurd rfl noHyphen
  case h_4 => rw [current]

/-! ## Reading the arguments -/

/-- Whether the next argument has to be a parameter: no option lacks its value. -/
def AwaitsParameter (selection : Selection) : Prop :=
  selection.ended = false ∧ ∀ option, selection.current ≠ some (option, none)

/-- Whether all that was given has been taken in. -/
def IsSettled (selection : Selection) : Prop :=
  selection.ended = false ∧ selection.current = none

theorem IsSettled.awaitsParameter (isSettled : selection.IsSettled) :
    selection.AwaitsParameter := by
  refine ⟨isSettled.1, fun option => ?_⟩
  rw [isSettled.2]
  exact nofun

theorem IsSettled.finishCurrent (isSettled : selection.IsSettled) :
    selection.finishCurrent = .ok selection := by
  rw [Selection.finishCurrent, isSettled.2]

/-- Taking in leaves nothing that is still to be taken in. -/
theorem IsSettled.of_take (isSettled : selection.IsSettled) (given : Given)
    (taken : selection.take given = .ok settled) : settled.IsSettled := by
  cases given with
  | switch named =>
    simp only [take, note] at taken
    split at taken
    · cases taken
    · cases taken
      exact isSettled
  | option named text =>
    simp only [take, assign, note] at taken
    split at taken
    · cases taken
    · simp only [bind, Except.bind] at taken
      split at taken
      · cases taken
        exact isSettled
      · cases taken

theorem AwaitsParameter.isSettled_of_finishCurrent (awaits : selection.AwaitsParameter)
    (finished : selection.finishCurrent = .ok settled) : settled.IsSettled := by
  unfold Selection.finishCurrent at finished
  split at finished
  · rename_i current
    cases finished
    exact ⟨awaits.1, current⟩
  · cases finished
  · rename_i option text current
    have done : IsSettled { selection with current := none } := ⟨awaits.1, rfl⟩
    exact done.of_take (.option option text) finished

/-- If the rest of a line is read as it should be, so is what takes in one parameter first. -/
theorem IsSettled.foldlM_take_cons (isSettled : settled.IsSettled) (given : Given)
    {givens : List Given} {arguments : List String}
    (rest : ∀ {selection : Selection}, selection.AwaitsParameter →
      (arguments.foldlM takeArgument selection >>= Selection.finishCurrent) =
        (selection.finishCurrent >>= fun settled => givens.foldlM take settled)) :
    ((settled.take given >>= fun next => arguments.foldlM takeArgument next) >>=
        Selection.finishCurrent) =
      (given :: givens).foldlM take settled := by
  rw [List.foldlM_cons]
  cases taken : settled.take given with
  | error cause => rfl
  | ok next =>
    have isSettledNext := isSettled.of_take given taken
    calc ((Except.ok next >>= fun next => arguments.foldlM takeArgument next) >>=
          Selection.finishCurrent)
        = (next.finishCurrent >>= fun settled => givens.foldlM take settled) :=
          rest isSettledNext.awaitsParameter
      _ = givens.foldlM take next := by
          rw [isSettledNext.finishCurrent]
          rfl

/-- **Reading arguments is taking in the parameters that they give.** -/
theorem foldlM_takeArgument {givens : List Given} {arguments : List String}
    (gives : Gives givens arguments) {selection : Selection} (awaits : selection.AwaitsParameter) :
    (arguments.foldlM takeArgument selection >>= finishCurrent) =
      (selection.finishCurrent >>= fun settled => givens.foldlM take settled) := by
  induction gives generalizing selection with
  | nil => exact (bind_pure selection.finishCurrent).symm
  | @switch named givens arguments rest ih =>
    rw [List.foldlM_cons, takeArgument_switch awaits.1]
    cases finished : selection.finishCurrent with
    | error cause => rfl
    | ok settled =>
      exact (awaits.isSettled_of_finishCurrent finished).foldlM_take_cons (.switch named) ih
  | @attached named text givens arguments rest ih =>
    rw [List.foldlM_cons, takeArgument_attached awaits.1]
    cases finished : selection.finishCurrent with
    | error cause => rfl
    | ok settled =>
      exact (awaits.isSettled_of_finishCurrent finished).foldlM_take_cons (.option named text) ih
  | @separate named text nonempty noHyphen givens arguments rest ih =>
    rw [List.foldlM_cons, takeArgument_option awaits.1]
    cases finished : selection.finishCurrent with
    | error cause => rfl
    | ok settled =>
      have isSettled := awaits.isSettled_of_finishCurrent finished
      -- The value is read now, and taken in when the rest of the line is looked at.
      let waiting : Selection := { settled with current := some (named, none) }
      let held : Selection := { settled with current := some (named, some text) }
      have unended : waiting.ended = false := isSettled.1
      have isHeld : waiting.takeArgument text = .ok held :=
        takeArgument_value unended rfl noHyphen
      have taken : held.finishCurrent = settled.take (.option named text) := by
        have idle : { settled with current := none } = settled := by
          rw [← isSettled.2]
        exact congrArg (Selection.assign · named text) idle
      calc ((text :: arguments).foldlM takeArgument waiting >>= finishCurrent)
          = (arguments.foldlM takeArgument held >>= finishCurrent) := by
            rw [List.foldlM_cons, isHeld]
            rfl
        _ = (held.finishCurrent >>= fun settled => givens.foldlM take settled) :=
            ih ⟨isSettled.1, nofun⟩
        _ = (.option named text :: givens).foldlM take settled := by
            rw [taken, List.foldlM_cons]

/-- A command line is read by taking in what it gives, and then the variables. -/
theorem ofArguments_of_gives (environment : Environment) {givens : List Given}
    {arguments : List String} (gives : Gives givens arguments) :
    Options.ofArguments environment arguments = do
      let selection ← givens.foldlM take {}
      let selection ← selection.takeVariable .logLevel environment.logFilter
      let selection ← selection.takeVariable .namespaceName environment.namespaceName
      return selection.options := by
  have blank : IsSettled {} := ⟨rfl, rfl⟩
  have read := foldlM_takeArgument gives blank.awaitsParameter
  rw [blank.finishCurrent] at read
  rw [Options.ofArguments, ← bind_assoc, read]
  rfl

/-- A command line is accepted if what it gives can be taken in, and then each variable. -/
theorem ofArguments_of_ok (environment : Environment) {givens : List Given}
    {arguments : List String} (gives : Gives givens arguments) {taken filtered placed : Selection}
    (isTaken : givens.foldlM take {} = .ok taken)
    (isFiltered : taken.takeVariable .logLevel environment.logFilter = .ok filtered)
    (isPlaced : filtered.takeVariable .namespaceName environment.namespaceName = .ok placed) :
    Options.ofArguments environment arguments = .ok placed.options := by
  rw [ofArguments_of_gives environment gives, isTaken]
  simp only [bind, Except.bind, isFiltered, isPlaced]
  rfl

/-- A command line is refused if what it gives cannot be taken in. -/
theorem ofArguments_of_error (environment : Environment) {givens : List Given}
    {arguments : List String} (gives : Gives givens arguments) {cause : UsageError}
    (refused : givens.foldlM take {} = .error cause) :
    Options.ofArguments environment arguments = .error cause := by
  rw [ofArguments_of_gives environment gives, refused]
  rfl

/-! ## Values that can be read, and parameters that are given again -/

theorem note_of_mem (parameter : Parameter) (again : parameter ∈ selection.given) :
    selection.note parameter = .error .argumentConflict := if_pos again

theorem note_of_notMem (parameter : Parameter) (fresh : parameter ∉ selection.given) :
    selection.note parameter = .ok { selection with given := parameter :: selection.given } :=
  if_neg fresh

/-- An option that was not given takes the value that its text is read as. -/
theorem assign_of_read {option : ValueOption} {text : String} {options : Options}
    (fresh : .option option ∉ selection.given)
    (read : selection.options.assign? option text = some options) :
    selection.assign option text =
      .ok { selection with options, given := .option option :: selection.given } := by
  simp only [assign, note_of_notMem _ fresh, bind, Except.bind, read]

theorem take_of_mem {given : Given} (again : given.parameter ∈ selection.given) :
    selection.take given = .error .argumentConflict := by
  cases given with
  | switch named =>
    rw [take, note_of_mem (.switch named) again]
    rfl
  | option named text =>
    rw [take, assign, note_of_mem (.option named) again]
    rfl

end Selection

/-- A line that gives one option sets this option. -/
theorem Options.ofArguments_attached {option : ValueOption} {text : String} {options : Options}
    (read : Options.assign? {} option text = some options) :
    Options.ofArguments {} ["--" ++ option.name ++ "=" ++ text] = .ok options := by
  have taken : Selection.take {} (.option option text) =
      .ok { options, given := [.option option] } :=
    Selection.assign_of_read List.not_mem_nil read
  have gives : Gives [.option option text] ["--" ++ option.name ++ "=" ++ text] :=
    .attached option text .nil
  have allTaken : [Given.option option text].foldlM Selection.take {} =
      .ok { options, given := [.option option] } := by
    rw [List.foldlM_cons, taken]
    rfl
  exact Selection.ofArguments_of_ok {} gives allTaken rfl rfl

/-- Whether a text can be read as the value of an option does not depend on the other values. -/
theorem Options.isSome_assign? (options : Options) (option : ValueOption) (text : String) :
    (options.assign? option text).isSome = (Options.assign? {} option text).isSome := by
  cases option with
  | logLevel | kubeconfig =>
    simp only [Options.assign?]
    split <;> rfl
  | logFormat | adminAddress | tokenExpiration | gracePeriod | queueSize | debugAddress =>
    simp only [Options.assign?, Option.isSome_map]
  | _ => rfl

/-- Whether the text of a given option can be read as its value. -/
def Given.IsReadable : Given → Prop
  | .switch _ => True
  | .option named text => (Options.assign? {} named text).isSome = true

namespace Selection

variable {selection : Selection} {given : Given}

theorem take_of_isReadable (fresh : given.parameter ∉ selection.given)
    (readable : given.IsReadable) :
    ∃ options, selection.take given =
      .ok { selection with options, given := given.parameter :: selection.given } := by
  cases given with
  | switch named =>
    refine ⟨selection.options.turnOn named, ?_⟩
    rw [take, note_of_notMem (.switch named) fresh]
    rfl
  | option named text =>
    obtain ⟨options, read⟩ := Option.isSome_iff_exists.mp
      ((selection.options.isSome_assign? named text).trans readable)
    exact ⟨options, assign_of_read fresh read⟩

theorem take_of_not_isReadable (selection : Selection) (unreadable : ¬ given.IsReadable) :
    ∃ cause, selection.take given = .error cause := by
  by_cases again : given.parameter ∈ selection.given
  · exact ⟨_, take_of_mem again⟩
  cases given with
  | switch named => exact absurd trivial unreadable
  | option named text =>
    have unread : selection.options.assign? named text = none := by
      rw [← Option.not_isSome_iff_eq_none, selection.options.isSome_assign?]
      exact unreadable
    refine ⟨valueFault named text, ?_⟩
    rw [take, assign, note_of_notMem (.option named) again]
    simp only [bind, Except.bind, unread]

/-- **A parameter that is given again is refused**, wherever it stands, if all values can be
read. -/
theorem foldlM_take_of_twice {givens : List Given} (readable : ∀ given ∈ givens, given.IsReadable)
    (once : selection.given.Nodup)
    (twice : ¬ (givens.map Given.parameter ++ selection.given).Nodup) :
    givens.foldlM take selection = .error .argumentConflict := by
  induction givens generalizing selection with
  | nil => exact absurd once twice
  | cons given givens ih =>
    rw [List.foldlM_cons]
    by_cases again : given.parameter ∈ selection.given
    · rw [take_of_mem again]
      rfl
    · obtain ⟨options, taken⟩ := take_of_isReadable again (readable given List.mem_cons_self)
      rw [taken]
      refine ih (fun other member => readable other (List.mem_cons_of_mem _ member))
        (List.nodup_cons.mpr ⟨again, once⟩) fun onceToo => twice ?_
      exact List.perm_middle.nodup_iff.mp onceToo

/-- A value that cannot be read is refused. -/
theorem foldlM_take_of_not_isReadable (selection : Selection) {givens : List Given}
    (member : given ∈ givens) (unreadable : ¬ given.IsReadable) :
    ∃ cause, givens.foldlM take selection = .error cause := by
  induction givens generalizing selection with
  | nil => cases member
  | cons first givens ih =>
    rw [List.foldlM_cons]
    cases taken : selection.take first with
    | error cause => exact ⟨cause, rfl⟩
    | ok next =>
      rcases List.mem_cons.mp member with rfl | later
      · obtain ⟨cause, refused⟩ := selection.take_of_not_isReadable unreadable
        rw [taken] at refused
        cases refused
      · exact ih next later

end Selection

end IdentityCache.CommandLine
