import IdentityCache.Http.Target
import IdentityCache.RefreshWorker

/-!
# Where a ServiceAccount is fetched from

The API server shows a ServiceAccount under a path that holds its namespace and its
name as they are.  An account without a name, or one whose names do not fit into a
request target, cannot be asked for.  A question mark or a number sign in a name ends
the path, so the path may lead to another account or to none
(`namedAt?_accountPathText` says when it does not).
-/

namespace IdentityCache.Http

set_option autoImplicit false

/-- What precedes the namespace in the path of an account. -/
def beforeNamespace : String := "/api/v1/namespaces/"

/-- What stands between the namespace and the name in the path of an account. -/
def beforeName : String := "/serviceaccounts/"

/-- The text of a path that holds the names of an account. -/
def accountPathText (account : Request) : String :=
  beforeNamespace ++ account.ns ++ beforeName ++ account.name

/-- The path by which an account is asked for. -/
def accountPath? (account : Request) : Option String :=
  if account.name.isEmpty then none else targetPath? (accountPathText account ++ "?")

/-- What precedes the first place of a text where the separator stands, and what follows it. -/
def splitAtFirst? (separator : List Char) : List Char → Option (List Char × List Char)
  | [] => none
  | c :: text =>
    match separator.isPrefixOf? (c :: text) with
    | some rest => some ([], rest)
    | none => (splitAtFirst? separator text).map fun (before, rest) => (c :: before, rest)

/-- The account that a path names. -/
def namedAt? (path : String) : Option Request := do
  let names ← beforeNamespace.toList.isPrefixOf? path.toList
  let (ns, name) ← splitAtFirst? beforeName.toList names
  return { ns := String.ofList ns, name := String.ofList name }

/-- Fetches that ask an API server which holds the given accounts.  An account that cannot be
asked for fails at once. -/
def fetcherFrom (held : Request → FetchOutcome) : Fetcher := fun _ account =>
  match accountPath? account with
  | none => { outcome := .failed, duration := .milliseconds 0 }
  | some path =>
    { outcome := ((namedAt? path).map held).getD .missing, duration := .exchange }

/-! ## A path names the account it was made from -/

/-- A text is taken off the front of a text that begins with it. -/
theorem isPrefixOf?_append (front text : List Char) :
    front.isPrefixOf? (front ++ text) = some text := by
  induction front with
  | nil => rfl
  | cons c front ih =>
    change (if (c == c) = true then front.isPrefixOf? (front ++ text) else none) = some text
    rw [if_pos (beq_self_eq_true c), ih]

/-- A text is split at a separator whose first character does not occur before it. -/
theorem splitAtFirst?_append {mark : Char} {separator before rest : List Char}
    (plain : mark ∉ before) :
    splitAtFirst? (mark :: separator) (before ++ (mark :: separator ++ rest)) =
      some (before, rest) := by
  induction before with
  | nil =>
    have found := isPrefixOf?_append (mark :: separator) rest
    rw [List.cons_append] at found
    rw [List.nil_append, List.cons_append, splitAtFirst?, found]
  | cons c before ih =>
    simp only [List.mem_cons, not_or] at plain
    have notHere : (mark :: separator).isPrefixOf?
        (c :: (before ++ (mark :: separator ++ rest))) = none := by
      change (if (mark == c) = true then _ else none) = _
      exact if_neg (by simpa using plain.1)
    rw [List.cons_append, splitAtFirst?, notHere, ih plain.2]
    rfl

/-- **A path names the account it was made from, if its namespace has no slash.** -/
theorem namedAt?_accountPathText {account : Request} (plain : '/' ∉ account.ns.toList) :
    namedAt? (accountPathText account) = some { account with notify := false } := by
  have spelled : (accountPathText account).toList =
      beforeNamespace.toList ++
        (account.ns.toList ++ (beforeName.toList ++ account.name.toList)) := by
    simp [accountPathText, String.toList_append]
  have split : splitAtFirst? beforeName.toList
      (account.ns.toList ++ (beforeName.toList ++ account.name.toList)) =
        some (account.ns.toList, account.name.toList) := by
    have marked : beforeName.toList = '/' :: "serviceaccounts/".toList := by decide
    rw [marked]
    exact splitAtFirst?_append plain
  unfold namedAt?
  rw [spelled, isPrefixOf?_append]
  simp only [Option.bind_eq_bind, Option.bind_some, split]
  simp

end IdentityCache.Http
