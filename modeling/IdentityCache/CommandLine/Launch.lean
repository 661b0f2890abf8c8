import IdentityCache.Cache.Basic
import IdentityCache.CommandLine.Arguments

/-!
# Launching the service

Before the service reaches out to the cluster it checks its options, creates the
refresh queue and creates the cache.  Two combinations of options are refused with a
message.  A queue that cannot be created for another reason is a crash.
-/

namespace IdentityCache.CommandLine

set_option autoImplicit false

/-- Why the service refuses to start with options that could be read. -/
inductive Refusal
  /-- Role names are to be completed with no account. -/
  | missingAccount
  /-- The refresh queue has no room. -/
  | emptyQueue
  deriving DecidableEq, Repr

/-- The message of a refusal. -/
def Refusal.message : Refusal → String
  | .missingAccount => "--aws-account-id is required when --compose-role-arn is set"
  | .emptyQueue => "--refresh-queue-size must be positive"

namespace Options

/-- How bare role names are completed. -/
def composition (options : Options) : Except Refusal RoleArn.Composition :=
  if options.composeRoleArn then
    match options.account with
    | some account => .ok { enabled := true, partition := options.partition, account }
    | none => .error .missingAccount
  else .ok {}

/-- The settings of the cache. -/
def settings (options : Options) : Except Refusal Settings := do
  let composition ← options.composition
  return {
    defaultAudience := options.tokenAudience
    defaultExpiration := options.tokenExpiration.raise
    regionalByDefault := options.regionalEndpoint
    annotationDomain := options.annotationDomain
    composition }

/-- The settings of the cache, if the service starts with these options. -/
def check (options : Options) : Except Refusal Settings := do
  let settings ← options.settings
  if options.queueSize = 0 then .error .emptyQueue else .ok settings

/-- The ConfigMap that is watched. -/
def source (options : Options) : Option WatchedMap :=
  if options.watchConfigMap then some ⟨options.namespaceName, options.configMapName⟩ else none

end Options

/-- What an attempt to launch the service comes to. -/
inductive Launch
  /-- The command line cannot be used. -/
  | misused (cause : UsageError)
  | refused (cause : Refusal)
  /-- The refresh queue could not be created. -/
  | crashed
  | ready (options : Options) (cache : Cache)

/-- Launches the service with options that could be read. -/
def Options.launch (options : Options) : Launch :=
  match options.check with
  | .error cause => .refused cause
  | .ok settings =>
    match RefreshQueue.create? options.queueSize with
    | none => .crashed
    | some queue => .ready options (.new settings options.source (some queue))

/-- Launches the service. -/
def launch (environment : Environment) (arguments : List String) : Launch :=
  match Options.ofArguments environment arguments with
  | .error cause => .misused cause
  | .ok options => options.launch

/-- The exit code of a crash. -/
def crashCode : Nat := 101

/-- The exit code for a command line that cannot be used: a filter that cannot be cut is a crash,
everything else a refusal. -/
def UsageError.exitCode : UsageError → Nat
  | .uncuttableFilter => crashCode
  | .unknownArgument | .invalidValue | .valueValidation | .argumentConflict | .tooManyValues => 2

/-- How the program ends when no cluster can be reached. -/
structure Ending where
  code : Nat
  message : Option String := none
  deriving DecidableEq, Repr

/-- How the program ends after an attempt to launch the service, given that it finds no cluster
to connect to. -/
def Launch.ending : Launch → Ending
  | .misused cause => { code := cause.exitCode }
  | .refused cause => { code := 1, message := some cause.message }
  | .crashed => { code := crashCode }
  | .ready _ _ => { code := 1 }

end IdentityCache.CommandLine
