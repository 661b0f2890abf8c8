import IdentityCache.CommandLine.LogFilter
import IdentityCache.CommandLine.SocketAddress
import IdentityCache.Seconds

/-!
# Options

The program takes switches, which are given by name alone, and options with a value.
`Parameter` lists them all; `Options` holds their values; `Options.assign?` reads the
text of a value into the field of its option.
-/

namespace IdentityCache.CommandLine

set_option autoImplicit false

/-- What may be given by name alone. -/
inductive Switch
  /-- The regional endpoint is the default. -/
  | regionalEndpoint
  /-- Bare role names are completed. -/
  | composeRoleArn
  /-- A ConfigMap is watched. -/
  | watchConfigMap
  deriving DecidableEq, Repr

/-- What is given with a value. -/
inductive ValueOption
  /-- The log filter. -/
  | logLevel
  /-- The format of log lines. -/
  | logFormat
  /-- The address of the administrative endpoint. -/
  | adminAddress
  /-- The file that says how to reach the cluster. -/
  | kubeconfig
  /-- The entry of that file to use. -/
  | context
  /-- The domain of the annotations. -/
  | annotationDomain
  /-- The default audience. -/
  | tokenAudience
  /-- The default lifetime of tokens. -/
  | tokenExpiration
  /-- The partition of completed role names. -/
  | partition
  /-- The account of completed role names. -/
  | account
  /-- The namespace of the watched ConfigMap. -/
  | namespaceName
  /-- The name of the watched ConfigMap. -/
  | configMapName
  /-- How long lookups through the debug endpoint wait. -/
  | gracePeriod
  /-- The capacity of the refresh queue. -/
  | queueSize
  /-- The address of the debug endpoint. -/
  | debugAddress
  deriving DecidableEq, Repr

/-- Everything that can be given on the command line. -/
inductive Parameter
  | switch (switch : Switch)
  | option (option : ValueOption)
  deriving DecidableEq, Repr

/-- The name of a switch. -/
def Switch.name : Switch → String
  | .regionalEndpoint => "sts-regional-endpoint"
  | .composeRoleArn => "compose-role-arn"
  | .watchConfigMap => "watch-config-map"

/-- The name of an option. -/
def ValueOption.name : ValueOption → String
  | .logLevel => "log-level"
  | .logFormat => "log-format"
  | .adminAddress => "admin-addr"
  | .kubeconfig => "kubeconfig"
  | .context => "context"
  | .annotationDomain => "annotation-prefix"
  | .tokenAudience => "token-audience"
  | .tokenExpiration => "token-expiration"
  | .partition => "aws-partition"
  | .account => "aws-account-id"
  | .namespaceName => "namespace"
  | .configMapName => "config-map-name"
  | .gracePeriod => "service-account-lookup-grace-period-ms"
  | .queueSize => "refresh-queue-size"
  | .debugAddress => "debug-addr"

namespace Parameter

/-- The name of a parameter, which is given after two hyphens. -/
def name : Parameter → String
  | .switch named => named.name
  | .option named => named.name

/-- All parameters. -/
def all : List Parameter := [
  .switch .regionalEndpoint, .switch .composeRoleArn, .switch .watchConfigMap,
  .option .logLevel, .option .logFormat, .option .adminAddress, .option .kubeconfig,
  .option .context, .option .annotationDomain, .option .tokenAudience,
  .option .tokenExpiration, .option .partition, .option .account, .option .namespaceName,
  .option .configMapName, .option .gracePeriod, .option .queueSize, .option .debugAddress]

/-- The parameter with the given name. -/
def ofName? (name : String) : Option Parameter :=
  all.find? fun parameter => parameter.name = name

end Parameter

/-- How log lines are written. -/
inductive LogFormat
  | plain
  | json
  deriving DecidableEq, Repr

/-- The format with the given name. -/
def LogFormat.ofText? (text : String) : Option LogFormat :=
  if text = "plain" then some .plain
  else if text = "json" then some .json
  else none

/-- The values of all parameters. -/
structure Options where
  logFilter : String := "pod_identity_webhook=info,warn"
  logFormat : LogFormat := .plain
  adminAddress : SocketAddress := ⟨.v4 [0, 0, 0, 0], 8080⟩
  kubeconfig : Option String := none
  context : Option String := none
  annotationDomain : String := "eks.amazonaws.com"
  tokenAudience : String := "sts.amazonaws.com"
  tokenExpiration : Seconds := .oneDay
  regionalEndpoint : Bool := false
  composeRoleArn : Bool := false
  partition : String := "aws"
  account : Option String := none
  namespaceName : String := "default"
  configMapName : String := "pod-identity-webhook"
  watchConfigMap : Bool := false
  /-- How many milliseconds lookups through the debug endpoint wait. -/
  gracePeriod : Nat := 0
  queueSize : Nat := 1000
  debugAddress : SocketAddress := ⟨.v4 [0, 0, 0, 0], 9999⟩
  deriving DecidableEq, Repr

namespace Options

/-- A number that fits an unsigned 64-bit word. -/
def word? (text : String) : Option Nat := Decimal.below? 18446744073709551616 text

/-- Turns a switch on. -/
def turnOn (options : Options) : Switch → Options
  | .regionalEndpoint => { options with regionalEndpoint := true }
  | .composeRoleArn => { options with composeRoleArn := true }
  | .watchConfigMap => { options with watchConfigMap := true }

/-- Gives an option the value that a text holds, if it holds one. -/
def assign? (options : Options) (option : ValueOption) (text : String) : Option Options :=
  match option with
  | .logLevel =>
    if filterVerdict text = .accepted then some { options with logFilter := text } else none
  | .logFormat => (LogFormat.ofText? text).map ({ options with logFormat := · })
  | .adminAddress => (SocketAddress.ofText? text).map ({ options with adminAddress := · })
  | .kubeconfig => if text.isEmpty then none else some { options with kubeconfig := some text }
  | .context => some { options with context := some text }
  | .annotationDomain => some { options with annotationDomain := text }
  | .tokenAudience => some { options with tokenAudience := text }
  | .tokenExpiration => (Seconds.ofText? text).map ({ options with tokenExpiration := · })
  | .partition => some { options with partition := text }
  | .account => some { options with account := some text }
  | .namespaceName => some { options with namespaceName := text }
  | .configMapName => some { options with configMapName := text }
  | .gracePeriod => (word? text).map ({ options with gracePeriod := · })
  | .queueSize => (word? text).map ({ options with queueSize := · })
  | .debugAddress => (SocketAddress.ofText? text).map ({ options with debugAddress := · })

end Options

end IdentityCache.CommandLine
