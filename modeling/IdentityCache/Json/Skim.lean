import IdentityCache.Json.Scalar

/-!
# Skimming a value

The value of an unknown member is checked against the grammar and forgotten.  It
may nest to any depth, so the machine keeps the brackets that are open in a list
instead of calling itself.  Numbers are not weighed and strings are only skimmed;
a number that is cut short by the end of the text is malformed.
-/

namespace IdentityCache.Json

set_option autoImplicit false

/-- The kind of an open bracket. -/
inductive Bracket
  | array
  | object
  deriving DecidableEq, Repr

/-- What is expected next between the tokens of a skimmed value. -/
inductive SkimPlace
  | value
  /-- What may follow an opening bracket: its first item or its closing bracket. -/
  | opened
  /-- The name of a member. -/
  | name
  /-- The colon after a name. -/
  | colon
  /-- What may follow an item: a comma or the closing bracket. -/
  | after
  deriving DecidableEq, Repr

/-- A value that is being skimmed, with the brackets open around it, the innermost first. -/
inductive Skim
  /-- Between tokens. -/
  | between (place : SkimPlace) (enclosing : List Bracket)
  /-- Within a string, which may be the name of a member. -/
  | text (isName : Bool) (state : SkimmedString) (enclosing : List Bracket)
  /-- Within a number. -/
  | number (phase : NumberPhase) (enclosing : List Bracket)
  /-- Within a word of which the given letters are still to come. -/
  | word (next : Char) (rest : List Char) (enclosing : List Bracket)

namespace Skim

/-- Begins a value with its first character, which is not blank. -/
def beginValue (enclosing : List Bracket) (c : Char) : Except Fault Skim :=
  if c = '"' then .ok (.text false .plain enclosing)
  else if c = '[' then .ok (.between .opened (.array :: enclosing))
  else if c = '\x7b' then .ok (.between .opened (.object :: enclosing))
  else
    match NumberPhase.begin? c with
    | some phase => .ok (.number phase enclosing)
    | none =>
      match word? c with
      | some (next, rest, _) => .ok (.word next rest enclosing)
      | none => .error .malformed

/-- Begins the name of a member. -/
def beginName (enclosing : List Bracket) (c : Char) : Except Fault Skim :=
  if c = '"' then .ok (.text true .plain enclosing) else .error .malformed

/-- What comes after a value within the given brackets: with no bracket open, nothing. -/
def afterValue : List Bracket → Progress Skim Unit
  | [] => .closed ()
  | enclosing => .more (.between .after enclosing)

/-- Reads a character between tokens. -/
def stepBetween (place : SkimPlace) (enclosing : List Bracket) (c : Char) :
    Except Fault (Progress Skim Unit) :=
  if isBlank c then .ok (.more (.between place enclosing))
  else
    match place, enclosing with
    | .value, _ => (beginValue enclosing c).map .more
    | .name, _ => (beginName enclosing c).map .more
    | .colon, _ =>
      if c = ':' then .ok (.more (.between .value enclosing)) else .error .malformed
    | .opened, .array :: outer =>
      if c = ']' then .ok (afterValue outer) else (beginValue enclosing c).map .more
    | .opened, .object :: outer =>
      if c = '\x7d' then .ok (afterValue outer) else (beginName enclosing c).map .more
    | .after, .array :: outer =>
      if c = ']' then .ok (afterValue outer)
      else if c = ',' then .ok (.more (.between .value enclosing))
      else .error .malformed
    | .after, .object :: outer =>
      if c = '\x7d' then .ok (afterValue outer)
      else if c = ',' then .ok (.more (.between .name enclosing))
      else .error .malformed
    | .opened, [] | .after, [] => .error .malformed

/-- Reads a further character. -/
def step (skim : Skim) (c : Char) : Except Fault (Progress Skim Unit) :=
  match skim with
  | .between place enclosing => stepBetween place enclosing c
  | .text isName state enclosing =>
    (state.step c).map fun
      | some state => .more (.text isName state enclosing)
      | none => if isName then .more (.between .colon enclosing) else afterValue enclosing
  | .number phase enclosing =>
    match phase.step c with
    | .error fault => .error fault
    | .ok (some phase) => .ok (.more (.number phase enclosing))
    | .ok none =>
      if enclosing.isEmpty then .ok (.closedBefore ()) else stepBetween .after enclosing c
  | .word next rest enclosing =>
    if c ≠ next then .error .malformed
    else
      match rest with
      | [] => .ok (afterValue enclosing)
      | next :: rest => .ok (.more (.word next rest enclosing))

/-- The fault of a text that ends within a skimmed value. -/
def faultAtEnd : Skim → Fault
  | .number phase _ => if phase.isComplete then .ended else .malformed
  | .between _ _ | .text _ _ _ | .word _ _ _ => .ended

end Skim

end IdentityCache.Json
