import IdentityCache.CommandLine.Launch

/-!
# The program

Reads the command line and the environment, launches the service, and ends with the
message and the exit code that belong to the outcome.  No cluster is ever reached, so
a service that could be launched ends as one without a usable configuration.
-/

namespace IdentityCache

set_option autoImplicit false

open CommandLine

/-- What the program says when it ends. -/
def farewell : Launch → String
  | .misused .unknownArgument => "error: unexpected argument found"
  | .misused .invalidValue => "error: a value is required for an option but none was supplied"
  | .misused .valueValidation => "error: invalid value for an option"
  | .misused .argumentConflict => "error: an argument cannot be used multiple times"
  | .misused .tooManyValues => "error: unexpected value for a flag"
  | .misused .uncuttableFilter => "a log filter cannot be cut within a character"
  | .refused cause => "Error: " ++ cause.message
  | .crashed => "the refresh queue cannot be created"
  | .ready _ _ => "Error: no usable cluster configuration"

end IdentityCache

open IdentityCache.CommandLine in
/-- Runs the program. -/
def main (arguments : List String) : IO UInt32 := do
  let environment : Environment := {
    namespaceName := ← IO.getEnv "POD_NAMESPACE"
    logFilter := ← IO.getEnv "POD_IDENTITY_WEBHOOK_LOG" }
  let outcome := launch environment arguments
  IO.eprintln (IdentityCache.farewell outcome)
  return outcome.ending.code.toUInt32
