import IdentityCache.Proofs.GivenParameters
import IdentityCache.Proofs.Numerals

/-!
# Launching the service

Options that could be read are looked at twice before anything is created: role names cannot be
completed without an account, and the refresh queue must have room.  A queue cannot be of any length
either, but nobody looks at that.  The queue is therefore the one thing that can fail behind the
checks, and it does so for the lengths that a word can hold and a queue cannot.  The main statement
is `launch_fails_exactly_for_long_queues`.
-/

namespace IdentityCache.CommandLine

set_option autoImplicit false

namespace Options

variable {options : Options} {settings : Settings}

/-! ## Settings -/

/-- Whether role names are to be completed with an account that is not given. -/
def LacksAccount (options : Options) : Prop :=
  options.composeRoleArn = true ∧ options.account = none

instance (options : Options) : Decidable options.LacksAccount :=
  inferInstanceAs (Decidable (_ ∧ _))

/-- What settings take over from options. -/
structure Configures (options : Options) (settings : Settings) : Prop where
  audience : settings.defaultAudience = options.tokenAudience
  lifetime : settings.defaultExpiration.toInt = max 600 options.tokenExpiration.toInt
  regional : settings.regionalByDefault = options.regionalEndpoint
  domain : settings.annotationDomain = options.annotationDomain
  completes : settings.composition.enabled = options.composeRoleArn
  partition : options.composeRoleArn = true → settings.composition.partition = options.partition
  account : options.composeRoleArn = true → options.account = some settings.composition.account

theorem settings_of_lacksAccount (lacks : options.LacksAccount) :
    options.settings = .error .missingAccount := by
  rw [settings, composition, if_pos lacks.1, lacks.2]
  rfl

/-- Options with whatever is needed to complete role names become settings. -/
theorem exists_settings (complete : ¬ options.LacksAccount) :
    ∃ settings, options.settings = .ok settings ∧ options.Configures settings := by
  cases composes : options.composeRoleArn with
  | false =>
    have plain : options.composition = .ok {} := by
      rw [composition, composes]
      rfl
    rw [Options.settings, plain]
    have off (on : options.composeRoleArn = true) : False :=
      Bool.false_ne_true (composes.symm.trans on)
    exact ⟨_, rfl, rfl, options.tokenExpiration.toInt_raise, rfl, rfl, composes.symm,
      fun on => (off on).elim, fun on => (off on).elim⟩
  | true =>
    cases given : options.account with
    | none => exact absurd ⟨composes, given⟩ complete
    | some account =>
      have full : options.composition =
          .ok { enabled := true, partition := options.partition, account } := by
        rw [composition, if_pos composes, given]
      rw [Options.settings, full]
      exact ⟨_, rfl, rfl, options.tokenExpiration.toInt_raise, rfl, rfl, composes.symm,
        fun _ => rfl, fun _ => given⟩

/-! ## The checks and the queue -/

theorem launch_of_lacksAccount (lacks : options.LacksAccount) :
    options.launch = .refused .missingAccount := by
  rw [launch, check, settings_of_lacksAccount lacks]
  rfl

theorem launch_of_emptyQueue (configured : options.settings = .ok settings)
    (empty : options.queueSize = 0) : options.launch = .refused .emptyQueue := by
  have refused : options.check = .error .emptyQueue := by
    rw [check, configured]
    exact if_pos empty
  rw [launch, refused]

/-- Behind the checks there is only the queue to be created. -/
theorem launch_of_room (configured : options.settings = .ok settings)
    (room : 0 < options.queueSize) :
    options.launch =
      if options.queueSize ≤ RefreshQueue.maxCapacity then
        .ready options (.new settings options.source (some { capacity := options.queueSize }))
      else .crashed := by
  have checked : options.check = .ok settings := by
    rw [check, configured]
    exact if_neg (Nat.ne_of_gt room)
  rw [launch, checked]
  by_cases fits : options.queueSize ≤ RefreshQueue.maxCapacity
  · have created : RefreshQueue.create? options.queueSize =
        some { capacity := options.queueSize } := if_pos ⟨room, fits⟩
    simp only [created, if_pos fits]
  · have uncreated : RefreshQueue.create? options.queueSize = none :=
      if_neg fun both => fits both.2
    simp only [uncreated, if_neg fits]

/-- **What a launch comes to**, for any options that could be read. -/
theorem launch_cases (options : Options) :
    options.LacksAccount ∧ options.launch = .refused .missingAccount ∨
    (¬ options.LacksAccount ∧ options.queueSize = 0) ∧ options.launch = .refused .emptyQueue ∨
    (¬ options.LacksAccount ∧ RefreshQueue.maxCapacity < options.queueSize) ∧
      options.launch = .crashed ∨
    (¬ options.LacksAccount ∧ 0 < options.queueSize ∧
      options.queueSize ≤ RefreshQueue.maxCapacity) ∧
      ∃ settings, options.settings = .ok settings ∧ options.Configures settings ∧
        options.launch = .ready options
          (.new settings options.source (some { capacity := options.queueSize })) := by
  by_cases lacks : options.LacksAccount
  · exact .inl ⟨lacks, launch_of_lacksAccount lacks⟩
  obtain ⟨settings, configured, configures⟩ := exists_settings lacks
  rcases Nat.eq_zero_or_pos options.queueSize with empty | room
  · exact .inr (.inl ⟨⟨lacks, empty⟩, launch_of_emptyQueue configured empty⟩)
  have launched := launch_of_room configured room
  rcases Nat.lt_or_ge RefreshQueue.maxCapacity options.queueSize with long | fits
  · rw [if_neg (Nat.not_le_of_gt long)] at launched
    exact .inr (.inr (.inl ⟨⟨lacks, long⟩, launched⟩))
  · rw [if_pos fits] at launched
    exact .inr (.inr (.inr ⟨⟨lacks, room, fits⟩, settings, configured, configures, launched⟩))

theorem launch_eq_missingAccount_iff (options : Options) :
    options.launch = .refused .missingAccount ↔ options.LacksAccount := by
  rcases options.launch_cases with ⟨lacks, launched⟩ | ⟨empty, launched⟩ | ⟨long, launched⟩ |
    ⟨fits, settings, -, -, launched⟩
  all_goals rw [launched]
  · exact iff_of_true rfl lacks
  · exact iff_of_false nofun empty.1
  · exact iff_of_false nofun long.1
  · exact iff_of_false nofun fits.1

theorem launch_eq_emptyQueue_iff (options : Options) :
    options.launch = .refused .emptyQueue ↔ ¬ options.LacksAccount ∧ options.queueSize = 0 := by
  rcases options.launch_cases with ⟨lacks, launched⟩ | ⟨empty, launched⟩ | ⟨long, launched⟩ |
    ⟨fits, settings, -, -, launched⟩
  all_goals rw [launched]
  · exact iff_of_false nofun fun empty => empty.1 lacks
  · exact iff_of_true rfl empty
  · exact iff_of_false nofun fun empty => absurd (empty.2 ▸ long.2) (Nat.not_lt_zero _)
  · exact iff_of_false nofun fun empty => absurd empty.2 (Nat.ne_of_gt fits.2.1)

theorem launch_eq_crashed_iff (options : Options) :
    options.launch = .crashed ↔
      ¬ options.LacksAccount ∧ RefreshQueue.maxCapacity < options.queueSize := by
  rcases options.launch_cases with ⟨lacks, launched⟩ | ⟨empty, launched⟩ | ⟨long, launched⟩ |
    ⟨fits, settings, -, -, launched⟩
  all_goals rw [launched]
  · exact iff_of_false nofun fun long => long.1 lacks
  · exact iff_of_false nofun fun long => absurd (empty.2 ▸ long.2) (Nat.not_lt_zero _)
  · exact iff_of_true rfl long
  · exact iff_of_false nofun fun long => absurd fits.2.2 (Nat.not_le_of_gt long.2)

end Options

/-- Every length that fits a word is accepted on the command line. -/
theorem ofArguments_queueSize (size : UInt64) :
    Options.ofArguments {} ["--refresh-queue-size=" ++ String.ofList (Decimal.digits size.toNat)] =
      .ok { queueSize := size.toNat } := by
  have read : Options.word? (String.ofList (Decimal.digits size.toNat)) = some size.toNat :=
    Decimal.below?_digits size.toNat_lt
  have assigned : Options.assign? {} .queueSize (String.ofList (Decimal.digits size.toNat)) =
      some { queueSize := size.toNat } := by
    rw [Options.assign?, read]
    rfl
  have name : "--" ++ ValueOption.name .queueSize ++ "=" = "--refresh-queue-size=" := by decide
  rw [← name]
  exact Options.ofArguments_attached assigned

theorem launch_of_accepted {environment : Environment} {arguments : List String}
    {options : Options} (accepted : Options.ofArguments environment arguments = .ok options) :
    launch environment arguments = options.launch := by
  rw [launch, accepted]

/-- Every length that fits a word and not a queue can be given, and crashes. -/
theorem launch_of_longQueue (size : UInt64) (long : RefreshQueue.maxCapacity < size.toNat) :
    launch {} ["--refresh-queue-size=" ++ String.ofList (Decimal.digits size.toNat)] =
      .crashed := by
  rw [launch_of_accepted (ofArguments_queueSize size), Options.launch_eq_crashed_iff]
  exact ⟨fun lacks => Bool.false_ne_true lacks.1, long⟩

/-! ## The main statement -/

/-- **A launch fails exactly for a queue that is too long.**  Let a command line be accepted, in any
environment and with any values.  The launch is refused for the one reason exactly if an account is
needed and missing, and for the other exactly if none is missing and the queue has no room.  It
crashes exactly if neither is the case and the queue is longer than a queue can be; otherwise the
queue and the cache are created from the options. -/
theorem launch_fails_exactly_for_long_queues {environment : Environment} {arguments : List String}
    {options : Options} (accepted : Options.ofArguments environment arguments = .ok options) :
    let outcome := launch environment arguments
    (outcome = .refused .missingAccount ↔ options.LacksAccount) ∧
    (outcome = .refused .emptyQueue ↔ ¬ options.LacksAccount ∧ options.queueSize = 0) ∧
    (outcome = .crashed ↔
      ¬ options.LacksAccount ∧ RefreshQueue.maxCapacity < options.queueSize) ∧
    (¬ options.LacksAccount → 0 < options.queueSize →
      options.queueSize ≤ RefreshQueue.maxCapacity →
      ∃ settings, options.settings = .ok settings ∧ options.Configures settings ∧
        outcome = .ready options
          (.new settings options.source (some { capacity := options.queueSize }))) := by
  intro outcome
  have isLaunch : outcome = options.launch := launch_of_accepted accepted
  rw [isLaunch]
  refine ⟨options.launch_eq_missingAccount_iff, options.launch_eq_emptyQueue_iff,
    options.launch_eq_crashed_iff, fun complete room fits => ?_⟩
  obtain ⟨settings, configured, configures⟩ := Options.exists_settings complete
  refine ⟨settings, configured, configures, ?_⟩
  exact (Options.launch_of_room configured room).trans (if_pos fits)

/-- The longest queue that there is can be created, with an account for the composition.  The
longest that can be given cannot. -/
theorem longest_queue_is_created :
    let line := ["--refresh-queue-size", "2305843009213693951", "--aws-account-id=1",
      "--compose-role-arn"]
    let options : Options :=
      { queueSize := 2305843009213693951, account := some "1", composeRoleArn := true }
    Options.ofArguments {} line = .ok options ∧ ¬ options.LacksAccount ∧
      (∃ settings, options.Configures settings ∧ launch {} line =
        .ready options (.new settings none (some { capacity := 2305843009213693951 }))) ∧
      launch {} ["--refresh-queue-size=18446744073709551615"] = .crashed := by
  intro line options
  have accepted : Options.ofArguments {} line = .ok options := by rfl
  have complete : ¬ options.LacksAccount := by decide
  obtain ⟨-, -, -, created⟩ := launch_fails_exactly_for_long_queues accepted
  obtain ⟨settings, -, configures, ready⟩ := created complete (by decide) (by decide)
  refine ⟨accepted, complete, ⟨settings, configures, ready⟩, ?_⟩
  exact launch_of_longQueue 18446744073709551615 (by decide)

/-- A queue that is too long by one passes both checks, and cannot be created. -/
theorem long_queue_passes_the_checks :
    let line := ["--refresh-queue-size=2305843009213693952"]
    let options : Options := { queueSize := 2305843009213693952 }
    Options.ofArguments {} line = .ok options ∧ options.check = .ok {} ∧
      launch {} line = .crashed ∧ (∀ cause, launch {} line ≠ .refused cause) ∧
        ∀ options cache, launch {} line ≠ .ready options cache := by
  intro line options
  have accepted : Options.ofArguments {} line = .ok options := by rfl
  have crashed : launch {} line = .crashed := by
    rw [launch_of_accepted accepted]
    rfl
  refine ⟨accepted, by rfl, crashed, fun cause => ?_, fun options cache => ?_⟩
  · rw [crashed]
    exact nofun
  · rw [crashed]
    exact nofun

end IdentityCache.CommandLine
