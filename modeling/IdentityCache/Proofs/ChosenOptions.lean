import IdentityCache.Proofs.Launching
import Mathlib.Data.List.Nodup

/-!
# Options as they are chosen

Whoever launches the service chooses values for some of its own options and turns some of its
switches on (`Choices`).  The choices are written on the command line in any order, each value
behind an equals sign or as the next argument, and are read back as they were chosen
(`ofArguments_of_choices`).

What has been read of a line is a part of the choices, told by the parameters that have been given
(`Choices.only`), so the order in which they are given leaves no trace.  The main statement is
`command_line_is_read_back`.
-/

namespace IdentityCache.CommandLine

set_option autoImplicit false

/-! ## Choices -/

/-- Values for some of the service's own options, and the switches that are on. -/
structure Choices where
  annotationDomain : Option String := none
  tokenAudience : Option String := none
  tokenExpiration : Option Seconds := none
  partition : Option String := none
  account : Option String := none
  namespaceName : Option String := none
  configMapName : Option String := none
  gracePeriod : Option UInt64 := none
  queueSize : Option UInt64 := none
  regionalEndpoint : Bool := false
  composeRoleArn : Bool := false
  watchConfigMap : Bool := false
  deriving DecidableEq, Repr

namespace Choices

/-- The text of the value that is chosen for an option. -/
def text? (choices : Choices) : ValueOption → Option String
  | .annotationDomain => choices.annotationDomain
  | .tokenAudience => choices.tokenAudience
  | .tokenExpiration =>
    choices.tokenExpiration.map fun lifetime => String.ofList (Decimal.numeral lifetime.toInt)
  | .partition => choices.partition
  | .account => choices.account
  | .namespaceName => choices.namespaceName
  | .configMapName => choices.configMapName
  | .gracePeriod =>
    choices.gracePeriod.map fun milliseconds => String.ofList (Decimal.digits milliseconds.toNat)
  | .queueSize => choices.queueSize.map fun size => String.ofList (Decimal.digits size.toNat)
  | .logLevel | .logFormat | .adminAddress | .kubeconfig | .context | .debugAddress => none

/-- Whether a switch is turned on. -/
def turnsOn (choices : Choices) : Switch → Bool
  | .regionalEndpoint => choices.regionalEndpoint
  | .composeRoleArn => choices.composeRoleArn
  | .watchConfigMap => choices.watchConfigMap

/-- Whether a parameter is given as it is chosen. -/
def Chooses (choices : Choices) : Given → Prop
  | .switch named => choices.turnsOn named = true
  | .option named text => choices.text? named = some text

/-- A parameter as it is given, if something is chosen for it. -/
def given? (choices : Choices) : Parameter → Option Given
  | .switch named => if choices.turnsOn named then some (.switch named) else none
  | .option named => (choices.text? named).map (.option named)

/-- All that is given for the choices, in the order in which the parameters are listed. -/
def listed (choices : Choices) : List Given :=
  Parameter.all.filterMap choices.given?

/-- The values of all parameters for the choices and an environment. -/
def options (choices : Choices) (environment : Environment) : Options where
  logFilter := environment.logFilter.getD "pod_identity_webhook=info,warn"
  annotationDomain := choices.annotationDomain.getD "eks.amazonaws.com"
  tokenAudience := choices.tokenAudience.getD "sts.amazonaws.com"
  tokenExpiration := choices.tokenExpiration.getD .oneDay
  regionalEndpoint := choices.regionalEndpoint
  composeRoleArn := choices.composeRoleArn
  partition := choices.partition.getD "aws"
  account := choices.account
  namespaceName := (choices.namespaceName.or environment.namespaceName).getD "default"
  configMapName := choices.configMapName.getD "pod-identity-webhook"
  watchConfigMap := choices.watchConfigMap
  gracePeriod := (choices.gracePeriod.map UInt64.toNat).getD 0
  queueSize := (choices.queueSize.map UInt64.toNat).getD 1000

variable {choices : Choices}

/-- For each parameter one value is chosen at most. -/
theorem Chooses.unique {given other : Given} (chosen : choices.Chooses given)
    (chosenToo : choices.Chooses other) (same : given.parameter = other.parameter) :
    given = other := by
  cases given with
  | switch named =>
    cases other with
    | switch otherNamed =>
      cases same
      rfl
    | option otherNamed otherText => cases same
  | option named text =>
    cases other with
    | switch otherNamed => cases same
    | option otherNamed otherText =>
      cases same
      have texts : some text = some otherText := Eq.trans (Eq.symm chosen) chosenToo
      cases texts
      rfl

theorem given?_eq_some_iff {parameter : Parameter} {given : Given} :
    choices.given? parameter = some given ↔
      choices.Chooses given ∧ given.parameter = parameter := by
  constructor
  · intro isGiven
    cases parameter with
    | switch named =>
      obtain ⟨on, same⟩ := Option.ite_none_right_eq_some.mp isGiven
      cases same
      exact ⟨on, rfl⟩
    | option named =>
      obtain ⟨text, isText, rfl⟩ := Option.map_eq_some_iff.mp isGiven
      exact ⟨isText, rfl⟩
  · rintro ⟨chosen, rfl⟩
    cases given with
    | switch named => exact if_pos chosen
    | option named text => exact Option.map_eq_some_iff.mpr ⟨text, chosen, rfl⟩

/-- What is listed is all that is chosen. -/
theorem mem_listed_iff {given : Given} : given ∈ choices.listed ↔ choices.Chooses given := by
  rw [listed, List.mem_filterMap]
  constructor
  · rintro ⟨parameter, -, isGiven⟩
    exact (given?_eq_some_iff.mp isGiven).1
  · intro chosen
    exact ⟨given.parameter, given.parameter.mem_all, given?_eq_some_iff.mpr ⟨chosen, rfl⟩⟩

/-- What is chosen is listed once for each parameter. -/
theorem nodup_map_listed (choices : Choices) : (choices.listed.map Given.parameter).Nodup := by
  have once : choices.listed.Nodup := by
    refine List.Nodup.filterMap (fun parameter other given isGiven isGivenToo => ?_)
      (by decide : Parameter.all.Nodup)
    obtain ⟨-, same⟩ := given?_eq_some_iff.mp isGiven
    obtain ⟨-, sameToo⟩ := given?_eq_some_iff.mp isGivenToo
    exact same.symm.trans sameToo
  refine List.Nodup.map_on (fun given member other memberToo same => ?_) once
  exact (mem_listed_iff.mp member).unique (mem_listed_iff.mp memberToo) same

/-- An option is given if a value is chosen for it. -/
theorem exists_chooses_option_iff (choices : Choices) (named : ValueOption) :
    (∃ given, choices.Chooses given ∧ given.parameter = .option named) ↔
      (choices.text? named).isSome = true := by
  rw [Option.isSome_iff_exists]
  constructor
  · rintro ⟨given, chosen, same⟩
    cases given with
    | switch other => cases same
    | option other text =>
      cases same
      exact ⟨text, chosen⟩
  · rintro ⟨text, chosen⟩
    exact ⟨.option named text, chosen, rfl⟩

/-! ## Parts of the choices -/

/-- What is chosen for a parameter, if that is among the given ones. -/
def keep {α : Type} (given : List Parameter) (parameter : Parameter) (value : Option α) :
    Option α :=
  if parameter ∈ given then value else none

/-- The choices for some of the parameters. -/
def only (choices : Choices) (given : List Parameter) : Choices where
  annotationDomain := keep given (.option .annotationDomain) choices.annotationDomain
  tokenAudience := keep given (.option .tokenAudience) choices.tokenAudience
  tokenExpiration := keep given (.option .tokenExpiration) choices.tokenExpiration
  partition := keep given (.option .partition) choices.partition
  account := keep given (.option .account) choices.account
  namespaceName := keep given (.option .namespaceName) choices.namespaceName
  configMapName := keep given (.option .configMapName) choices.configMapName
  gracePeriod := keep given (.option .gracePeriod) choices.gracePeriod
  queueSize := keep given (.option .queueSize) choices.queueSize
  regionalEndpoint := choices.regionalEndpoint && decide (.switch .regionalEndpoint ∈ given)
  composeRoleArn := choices.composeRoleArn && decide (.switch .composeRoleArn ∈ given)
  watchConfigMap := choices.watchConfigMap && decide (.switch .watchConfigMap ∈ given)

theorem keep_eq_self {α : Type} {given : List Parameter} {parameter : Parameter} (value : Option α)
    (all : value.isSome = true → parameter ∈ given) : keep given parameter value = value := by
  cases value with
  | none => exact ite_self _
  | some content => exact if_pos (all rfl)

/-- An option takes the value that is chosen for it, and the others keep theirs. -/
theorem assign?_only {given : List Parameter} {named : ValueOption} {text : String}
    (chosen : choices.text? named = some text) :
    ((choices.only given).options {}).assign? named text =
      some ((choices.only (.option named :: given)).options {}) := by
  cases named with
  | annotationDomain | tokenAudience | partition | account | namespaceName | configMapName =>
    simp only [text?] at chosen
    simp [Options.assign?, options, only, keep, chosen]
  | tokenExpiration =>
    obtain ⟨lifetime, isLifetime, rfl⟩ := Option.map_eq_some_iff.mp chosen
    simp [Options.assign?, options, only, keep, isLifetime, lifetime.ofText?_numeral]
  | gracePeriod =>
    obtain ⟨milliseconds, isPeriod, rfl⟩ := Option.map_eq_some_iff.mp chosen
    have read := Decimal.below?_digits milliseconds.toNat_lt
    simp [Options.assign?, Options.word?, options, only, keep, isPeriod, read]
  | queueSize =>
    obtain ⟨size, isSize, rfl⟩ := Option.map_eq_some_iff.mp chosen
    have read := Decimal.below?_digits size.toNat_lt
    simp [Options.assign?, Options.word?, options, only, keep, isSize, read]
  | logLevel | logFormat | adminAddress | kubeconfig | context | debugAddress => cases chosen

theorem turnOn_only {given : List Parameter} {named : Switch}
    (chosen : choices.turnsOn named = true) :
    ((choices.only given).options {}).turnOn named =
      (choices.only (.switch named :: given)).options {} := by
  cases named with
  | regionalEndpoint | composeRoleArn | watchConfigMap =>
    simp only [turnsOn] at chosen
    simp [Options.turnOn, options, only, keep, chosen]

/-- What has been read of a line that gives some of the choices. -/
def read (choices : Choices) (given : List Parameter) : Selection :=
  { options := (choices.only given).options {}, given }

/-- Before anything has been read, all options have their defaults. -/
theorem read_nil (choices : Choices) : choices.read [] = {} := by
  simp [read, only, keep, options]

/-- Taking in a choice makes it one of those that have been read. -/
theorem take_read {given : List Parameter} {added : Given} (chosen : choices.Chooses added)
    (fresh : added.parameter ∉ given) :
    (choices.read given).take added = .ok (choices.read (added.parameter :: given)) := by
  cases added with
  | switch named =>
    rw [Selection.take, Selection.note_of_notMem (.switch named) fresh]
    exact congrArg
      (fun options => Except.ok ({ options, given := .switch named :: given } : Selection))
      (turnOn_only chosen)
  | option named text => exact Selection.assign_of_read fresh (assign?_only chosen)

/-- Choices are taken in in any order. -/
theorem foldlM_take_read {given : List Parameter} {order : List Given}
    (chosen : ∀ added ∈ order, choices.Chooses added)
    (once : (order.map Given.parameter ++ given).Nodup) :
    ∃ all, order.foldlM Selection.take (choices.read given) = .ok (choices.read all) ∧
      ∀ parameter, parameter ∈ all ↔ parameter ∈ order.map Given.parameter ++ given := by
  induction order generalizing given with
  | nil => exact ⟨given, rfl, fun parameter => Iff.rfl⟩
  | cons added order ih =>
    obtain ⟨fresh, onceToo⟩ := List.nodup_cons.mp once
    have notGiven : added.parameter ∉ given := fun member =>
      fresh (List.mem_append_right _ member)
    obtain ⟨all, taken, members⟩ := ih
      (fun other member => chosen other (List.mem_cons_of_mem _ member))
      (List.perm_middle.nodup_iff.mpr once)
    refine ⟨all, ?_, fun parameter => ?_⟩
    · rw [List.foldlM_cons, take_read (chosen added List.mem_cons_self) notGiven]
      exact taken
    · rw [members parameter]
      exact List.perm_middle.mem_iff

theorem and_eq_self {given : List Parameter} {parameter : Parameter} (on : Bool)
    (all : on = true → parameter ∈ given) : (on && decide (parameter ∈ given)) = on := by
  cases on with
  | false => rfl
  | true => exact decide_eq_true (all rfl)

/-- The choices for all parameters that are given are all choices. -/
theorem only_eq_self {given : List Parameter}
    (all : ∀ added, choices.Chooses added → added.parameter ∈ given) :
    choices.only given = choices := by
  have option (named : ValueOption) (chosen : (choices.text? named).isSome = true) :
      .option named ∈ given := by
    obtain ⟨text, isText⟩ := Option.isSome_iff_exists.mp chosen
    exact all (.option named text) isText
  have switch (named : Switch) (on : choices.turnsOn named = true) : .switch named ∈ given :=
    all (.switch named) on
  unfold only
  rw [keep_eq_self choices.annotationDomain (option .annotationDomain),
    keep_eq_self choices.tokenAudience (option .tokenAudience),
    keep_eq_self choices.tokenExpiration fun chosen =>
      option .tokenExpiration (Option.isSome_map.trans chosen),
    keep_eq_self choices.partition (option .partition),
    keep_eq_self choices.account (option .account),
    keep_eq_self choices.namespaceName (option .namespaceName),
    keep_eq_self choices.configMapName (option .configMapName),
    keep_eq_self choices.gracePeriod fun chosen =>
      option .gracePeriod (Option.isSome_map.trans chosen),
    keep_eq_self choices.queueSize fun chosen =>
      option .queueSize (Option.isSome_map.trans chosen),
    and_eq_self choices.regionalEndpoint (switch .regionalEndpoint),
    and_eq_self choices.composeRoleArn (switch .composeRoleArn),
    and_eq_self choices.watchConfigMap (switch .watchConfigMap)]

/-! ## The environment -/

/-- A variable with a log filter that can be used is taken in, since no filter is chosen. -/
theorem takeVariable_logLevel (choices : Choices) {given : List Parameter}
    (fresh : .option .logLevel ∉ given) {logFilter : Option String}
    (usable : ∀ text, logFilter = some text → filterVerdict text = .accepted) :
    ∃ all, Selection.takeVariable { options := choices.options {}, given } .logLevel logFilter =
        .ok { options := choices.options { logFilter }, given := all } ∧
      (.option .namespaceName ∈ all ↔ .option .namespaceName ∈ given) := by
  cases logFilter with
  | none => exact ⟨given, rfl, Iff.rfl⟩
  | some text =>
    refine ⟨.option .logLevel :: given, ?_, by simp⟩
    have read : (choices.options {}).assign? .logLevel text =
        some (choices.options { logFilter := some text }) := if_pos (usable text rfl)
    exact (if_neg fresh).trans (Selection.assign_of_read fresh read)

/-- A variable with a namespace is taken in if none is chosen. -/
theorem takeVariable_namespaceName {given : List Parameter}
    (given_iff : .option .namespaceName ∈ given ↔ choices.namespaceName.isSome = true)
    (environment : Environment) :
    ∃ all, Selection.takeVariable
        { options := choices.options { environment with namespaceName := none }, given }
        .namespaceName environment.namespaceName =
      .ok { options := choices.options environment, given := all } := by
  obtain ⟨namespaceName, logFilter⟩ := environment
  cases namespaceName with
  | none => exact ⟨given, rfl⟩
  | some text =>
    cases chosen : choices.namespaceName with
    | none =>
      have fresh : .option .namespaceName ∉ given := by
        rw [given_iff, chosen]
        exact Bool.false_ne_true
      refine ⟨.option .namespaceName :: given, ?_⟩
      refine (if_neg fresh).trans (Selection.assign_of_read fresh ?_)
      simp [Options.assign?, options, chosen]
    | some named =>
      have isGiven : .option .namespaceName ∈ given := by
        rw [given_iff, chosen]
        rfl
      refine ⟨given, (if_pos isGiven).trans ?_⟩
      simp [options, chosen]

/-- **Choices are read back from a line that gives each of them once**, in any order, with the
variables of the environment for what is not chosen. -/
theorem ofArguments_of_choices (environment : Environment)
    (usable : ∀ text, environment.logFilter = some text → filterVerdict text = .accepted)
    {order : List Given} (ordered : order.Perm choices.listed) {arguments : List String}
    (gives : Gives order arguments) :
    Options.ofArguments environment arguments = .ok (choices.options environment) := by
  have chosen (given : Given) : given ∈ order ↔ choices.Chooses given :=
    ordered.mem_iff.trans mem_listed_iff
  have distinct : (order.map Given.parameter ++ []).Nodup := by
    rw [List.append_nil]
    exact (ordered.map Given.parameter).nodup_iff.mpr choices.nodup_map_listed
  obtain ⟨all, taken, members⟩ := foldlM_take_read (fun given => (chosen given).mp) distinct
  have given_iff (parameter : Parameter) :
      parameter ∈ all ↔ ∃ added, choices.Chooses added ∧ added.parameter = parameter := by
    rw [members parameter, List.append_nil, List.mem_map]
    exact exists_congr fun given => and_congr_left fun _ => chosen given
  have whole : choices.read all = { options := choices.options {}, given := all } := by
    rw [read, only_eq_self fun added isChosen => (given_iff _).mpr ⟨added, isChosen, rfl⟩]
  have noFilter : .option .logLevel ∉ all := by
    rw [given_iff, exists_chooses_option_iff]
    exact Bool.false_ne_true
  have namespace_iff : .option .namespaceName ∈ all ↔ choices.namespaceName.isSome = true := by
    rw [given_iff, exists_chooses_option_iff]
    rfl
  obtain ⟨withFilter, filtered, sameNamespace⟩ := choices.takeVariable_logLevel noFilter usable
  obtain ⟨final, placed⟩ :=
    takeVariable_namespaceName (sameNamespace.trans namespace_iff) environment
  rw [choices.read_nil, whole] at taken
  exact Selection.ofArguments_of_ok environment gives taken filtered placed

/-! ## Giving a parameter again -/

/-- The text of a chosen value can be read. -/
theorem Chooses.isReadable {given : Given} (chosen : choices.Chooses given) :
    given.IsReadable := by
  cases given with
  | switch named => trivial
  | option named text =>
    have read : ((choices.only []).options {}).assign? named text =
        some ((choices.only [.option named]).options {}) := assign?_only chosen
    rw [Given.IsReadable, ← Options.isSome_assign?, read]
    rfl

/-- After its first time a parameter is refused, whatever its text. -/
theorem foldlM_take_again {front : List Given} (back : List Given) {first again : Given}
    (chosen : ∀ given ∈ front, choices.Chooses given)
    (once : (front.map Given.parameter).Nodup) (before : first ∈ front)
    (same : again.parameter = first.parameter) :
    (front ++ again :: back).foldlM Selection.take (choices.read []) =
      .error .argumentConflict := by
  have onceAlone : (front.map Given.parameter ++ []).Nodup := by
    rw [List.append_nil]
    exact once
  obtain ⟨all, taken, members⟩ := foldlM_take_read chosen onceAlone
  have isGiven : again.parameter ∈ (choices.read all).given := by
    refine (members again.parameter).mpr (List.mem_append_left _ ?_)
    rw [same]
    exact List.mem_map_of_mem before
  calc (front ++ again :: back).foldlM Selection.take (choices.read [])
      = (again :: back).foldlM Selection.take (choices.read all) := by
        rw [List.foldlM_append, taken]
        rfl
    _ = .error .argumentConflict := by
        rw [List.foldlM_cons, Selection.take_of_mem isGiven]
        rfl

/-- Anywhere a parameter is refused that is given again with a value that can be read. -/
theorem foldlM_take_of_repeated {front back : List Given} {first again : Given}
    (ordered : (front ++ back).Perm choices.listed) (member : first ∈ front ++ back)
    (same : again.parameter = first.parameter) (readable : again.IsReadable) :
    (front ++ again :: back).foldlM Selection.take {} = .error .argumentConflict := by
  refine Selection.foldlM_take_of_twice (fun given isGiven => ?_) List.nodup_nil ?_
  · rcases List.mem_cons.mp (List.perm_middle.mem_iff.mp isGiven) with rfl | other
    · exact readable
    · exact (mem_listed_iff.mp (ordered.mem_iff.mp other)).isReadable
  · intro once
    rw [List.append_nil, (List.perm_middle.map Given.parameter).nodup_iff] at once
    refine (List.nodup_cons.mp once).1 ?_
    rw [same]
    exact List.mem_map_of_mem member

/-- **A parameter that is given again makes a line unusable.**  It is a conflict, unless a value
that cannot be read comes first. -/
theorem ofArguments_of_repeated (environment : Environment) {front back : List Given}
    {first again : Given} (ordered : (front ++ back).Perm choices.listed)
    (member : first ∈ front ++ back) (same : again.parameter = first.parameter)
    {arguments : List String} (gives : Gives (front ++ again :: back) arguments) :
    ∃ cause, Options.ofArguments environment arguments = .error cause ∧
      (first ∈ front ∨ again.IsReadable → cause = .argumentConflict) := by
  by_cases readable : again.IsReadable
  · have refused := foldlM_take_of_repeated ordered member same readable
    exact ⟨_, Selection.ofArguments_of_error environment gives refused, fun _ => rfl⟩
  by_cases before : first ∈ front
  · have chosen (given : Given) (isGiven : given ∈ front) : choices.Chooses given :=
      mem_listed_iff.mp (ordered.mem_iff.mp (List.mem_append_left back isGiven))
    have once : (front.map Given.parameter).Nodup := by
      have all := (ordered.map Given.parameter).nodup_iff.mpr choices.nodup_map_listed
      rw [List.map_append] at all
      exact all.of_append_left
    have refused := foldlM_take_again back chosen once before same
    rw [read_nil] at refused
    exact ⟨_, Selection.ofArguments_of_error environment gives refused, fun _ => rfl⟩
  · obtain ⟨cause, refused⟩ := Selection.foldlM_take_of_not_isReadable {}
      (List.perm_middle.mem_iff.mpr List.mem_cons_self : again ∈ front ++ again :: back) readable
    refine ⟨cause, Selection.ofArguments_of_error environment gives refused, ?_⟩
    rintro (earlier | readableToo)
    · exact absurd earlier before
    · exact absurd readableToo readable

/-! ## The main statement -/

theorem queueSize_options_eq_zero_iff (choices : Choices) (environment : Environment) :
    (choices.options environment).queueSize = 0 ↔ choices.queueSize = some 0 := by
  cases chosen : choices.queueSize with
  | none => simp [options, chosen]
  | some size => simp [options, chosen, ← UInt64.toNat_inj]

end Choices

/-- **A command line is read back as it was written.**  Let values be chosen for any of the
service's own options, and switches.  They are given in any order and in both ways of giving a
value, in an environment whose log filter can be used.  The line is accepted, with the values that
are chosen, and with the defaults and the variables for the others.  Its launch is refused exactly
for an account that is needed and not chosen, or else for a chosen queue without room.  If no
account is missing, the settings take the values over.  A line that gives a parameter again,
wherever it stands and with any value, is refused: as a conflict, unless a value that cannot be read
comes first. -/
theorem command_line_is_read_back (choices : Choices) (environment : Environment)
    (usable : ∀ text, environment.logFilter = some text → filterVerdict text = .accepted) :
    let options := choices.options environment
    let lacksAccount : Prop := choices.composeRoleArn = true ∧ choices.account = none
    (∀ order arguments, order.Perm choices.listed → Gives order arguments →
      Options.ofArguments environment arguments = .ok options ∧
      (launch environment arguments = .refused .missingAccount ↔ lacksAccount) ∧
      (launch environment arguments = .refused .emptyQueue ↔
        ¬ lacksAccount ∧ choices.queueSize = some 0)) ∧
    (¬ lacksAccount →
      ∃ settings, options.settings = .ok settings ∧ options.Configures settings) ∧
    ∀ front back first again arguments, (front ++ back).Perm choices.listed →
      first ∈ front ++ back → again.parameter = first.parameter →
      Gives (front ++ again :: back) arguments →
      ∃ cause, Options.ofArguments environment arguments = .error cause ∧
        (first ∈ front ∨ again.IsReadable → cause = .argumentConflict) := by
  intro options lacksAccount
  have lacks_iff : options.LacksAccount ↔ lacksAccount := Iff.rfl
  refine ⟨?_, fun complete => Options.exists_settings complete, ?_⟩
  · intro order arguments ordered gives
    have accepted := choices.ofArguments_of_choices environment usable ordered gives
    rw [launch_of_accepted accepted, Options.launch_eq_missingAccount_iff,
      Options.launch_eq_emptyQueue_iff, Choices.queueSize_options_eq_zero_iff]
    exact ⟨accepted, Iff.rfl, Iff.rfl⟩
  · intro front back first again arguments ordered member same gives
    exact Choices.ofArguments_of_repeated environment ordered member same gives

/-- A line with an equals sign within a value, with the name of an option as a value and with
hyphens behind an equals sign is read back, and nothing is refused.  It cannot turn a switch on that
it turns on later. -/
theorem values_like_names_are_read_back :
    let environment : Environment := { namespaceName := some "apps", logFilter := some "warn" }
    let choices : Choices :=
      { annotationDomain := some "aws-account-id", tokenAudience := some "a=b",
        tokenExpiration := some { toInt := -5 }, account := some "--namespace",
        queueSize := some 7, composeRoleArn := true }
    let line := ["--token-audience", "a=b", "--compose-role-arn", "--refresh-queue-size=7",
      "--annotation-prefix", "aws-account-id", "--token-expiration=-5",
      "--aws-account-id=--namespace"]
    let options : Options :=
      { logFilter := "warn", annotationDomain := "aws-account-id", tokenAudience := "a=b",
        tokenExpiration := { toInt := -5 }, composeRoleArn := true, account := some "--namespace",
        namespaceName := "apps", queueSize := 7 }
    choices.options environment = options ∧ Options.ofArguments environment line = .ok options ∧
      launch environment line ≠ .refused .missingAccount ∧
      launch environment line ≠ .refused .emptyQueue ∧
      (∃ settings, options.settings = .ok settings ∧ settings.defaultExpiration.toInt = 600) ∧
      Options.ofArguments environment ("--compose-role-arn" :: line) =
        .error .argumentConflict := by
  intro environment choices line options
  have chosen : choices.options environment = options := by rfl
  let order : List Given := [.option .tokenAudience "a=b", .switch .composeRoleArn,
    .option .queueSize "7", .option .annotationDomain "aws-account-id",
    .option .tokenExpiration "-5", .option .account "--namespace"]
  have ordered : order.Perm choices.listed := by decide
  have gives : Gives order line :=
    .separate .tokenAudience (by decide) (by decide) (.switch .composeRoleArn
      (.attached .queueSize "7" (.separate .annotationDomain (by decide) (by decide)
        (.attached .tokenExpiration "-5" (.attached .account "--namespace" .nil)))))
  have usable (text : String) (isFilter : environment.logFilter = some text) :
      filterVerdict text = .accepted := by
    cases isFilter
    decide
  obtain ⟨accepts, configures, repeats⟩ := command_line_is_read_back choices environment usable
  obtain ⟨accepted, missing_iff, empty_iff⟩ := accepts order line ordered gives
  obtain ⟨settings, configured, takenOver⟩ := configures (by decide)
  obtain ⟨cause, refused, conflict⟩ := repeats [] order (.switch .composeRoleArn)
    (.switch .composeRoleArn) ("--compose-role-arn" :: line) ordered (by decide) rfl
    (.switch .composeRoleArn gives)
  rw [chosen] at accepted configured takenOver
  refine ⟨chosen, accepted, fun missing => ?_, fun empty => ?_,
    ⟨settings, configured, takenOver.lifetime⟩, ?_⟩
  · exact absurd (missing_iff.mp missing) (by decide)
  · exact absurd (empty_iff.mp empty).2 (by decide)
  · rw [refused, conflict (.inr trivial)]

end IdentityCache.CommandLine
