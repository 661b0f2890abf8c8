/-!
# Reading JSON character by character

The readers of JSON text in this folder are machines that take one character at a
time.  A machine refuses at the first character with which the text can no longer
be read, so of several faults in a text the one that comes first is reported; what
is still missing when the text ends is a fault of its own kind.

A token either closes with its last character, as a string does with its quote, or
is closed by the character after it, as a number is.  `Progress` tells the two
apart.
-/

namespace IdentityCache.Json

set_option autoImplicit false

/-- Why a text is not the JSON that was asked for. -/
inductive Fault
  /-- The text ended too early. -/
  | ended
  /-- The text is JSON so far, of the wrong type, out of range or with a repeated field. -/
  | mistyped
  /-- The text is not JSON. -/
  | malformed
  deriving DecidableEq, Repr

/-- The characters that may stand between tokens. -/
def isBlank (c : Char) : Bool := c == ' ' || c == '\t' || c == '\n' || c == '\r'

/-- What a machine has come to after one more character. -/
inductive Progress (σ α : Type)
  /-- The token goes on. -/
  | more (state : σ)
  /-- The token ends with this character. -/
  | closed (value : α)
  /-- The token ended before this character, which is still to be read. -/
  | closedBefore (value : α)

/-- Runs a machine over a text. -/
def run {σ : Type} (step : σ → Char → Except Fault σ) (state : σ) (text : List Char) :
    Except Fault σ :=
  text.foldlM step state

/-- Reading nothing changes nothing. -/
@[simp] theorem run_nil {σ : Type} (step : σ → Char → Except Fault σ) (state : σ) :
    run step state [] = .ok state := rfl

/-- A text is read from its first character on. -/
theorem run_cons {σ : Type} (step : σ → Char → Except Fault σ) (state : σ) (c : Char)
    (text : List Char) :
    run step state (c :: text) = step state c >>= fun next => run step next text := rfl

/-- A text may be cut anywhere and read in two runs. -/
theorem run_append {σ : Type} (step : σ → Char → Except Fault σ) (state : σ)
    (text rest : List Char) :
    run step state (text ++ rest) = run step state text >>= fun next => run step next rest := by
  simp [run, List.foldlM_append]

end IdentityCache.Json
