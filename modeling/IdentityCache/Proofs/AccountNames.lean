import IdentityCache.Proofs.MarkedText
import IdentityCache.Resource

/-!
# The names of accounts

An account is told by its namespace and its name, neither of which is empty.  The key under which
a table has it joins the two with a slash, so two accounts may share a key: `b/c` in the namespace
`a` has the key of `c` in the namespace `a/b`.  They do not if neither namespace holds a slash
(`CacheKey.ofNames_inj`).
-/

namespace IdentityCache

set_option autoImplicit false

/-- Whether a text holds no slash, as the names of namespaces do. -/
def HoldsNoSlash (text : String) : Prop := '/' ∉ text.toList

instance (text : String) : Decidable (HoldsNoSlash text) :=
  inferInstanceAs (Decidable (_ ∉ _))

/-- **Where namespaces hold no slash, a key tells both names.** -/
theorem CacheKey.ofNames_inj {ns other name otherName : String} (plain : HoldsNoSlash ns)
    (plainToo : HoldsNoSlash other) (same : ofNames ns name = ofNames other otherName) :
    ns = other ∧ name = otherName := by
  have texts : (ns ++ "/" ++ name).toList = (other ++ "/" ++ otherName).toList :=
    congrArg (fun key => key.text.toList) same
  simp only [String.toList_append, List.append_assoc] at texts
  obtain ⟨sameNs, sameName⟩ := eq_of_append_mark plain plainToo texts
  exact ⟨String.toList_inj.mp sameNs, String.toList_inj.mp sameName⟩

/-- The namespace and the name of an account. -/
structure AccountNames where
  ns : String
  name : String
  ns_ne_empty : ns ≠ ""
  name_ne_empty : name ≠ ""
  deriving DecidableEq

namespace AccountNames

/-- The key of the account. -/
def key (names : AccountNames) : CacheKey := .ofNames names.ns names.name

/-- The names of an object, if it has both and neither is empty. -/
def ofParts? : Option String → Option String → Option AccountNames
  | some ns, some name =>
    if unnamed : ns = "" ∨ name = "" then none
    else some ⟨ns, name, fun empty => unnamed (.inl empty), fun empty => unnamed (.inr empty)⟩
  | _, _ => none

theorem key?_ofParts? (ns name : Option String) :
    CacheKey.ofNames? ns name = (ofParts? ns name).map key := by
  unfold CacheKey.ofNames? ofParts?
  cases ns with
  | none => rfl
  | some ns =>
    cases name with
    | none => rfl
    | some name =>
      dsimp only
      by_cases unnamed : ns = "" ∨ name = ""
      · rw [if_pos unnamed, dif_pos unnamed, Option.map_none]
      · rw [if_neg unnamed, dif_neg unnamed, Option.map_some]
        rfl

/-- Accounts whose namespaces hold no slash are told apart by their keys. -/
theorem key_inj {names other : AccountNames} (plain : HoldsNoSlash names.ns)
    (plainToo : HoldsNoSlash other.ns) (same : names.key = other.key) : names = other := by
  obtain ⟨sameNs, sameName⟩ := CacheKey.ofNames_inj plain plainToo same
  cases names
  cases other
  cases sameNs
  cases sameName
  rfl

end AccountNames

/-- The names of a delivered account. -/
def ServiceAccount.names? (account : ServiceAccount) : Option AccountNames :=
  AccountNames.ofParts? account.ns account.name

/-- The names of the account that is gone, whichever way it was reported. -/
def Deletion.names? : Deletion → Option AccountNames
  | .live account => account.names?
  | .tombstone ns name => AccountNames.ofParts? ns (some name)

theorem ServiceAccount.key?_eq_names? (account : ServiceAccount) :
    account.key? = account.names?.map AccountNames.key :=
  AccountNames.key?_ofParts? account.ns account.name

theorem Deletion.key?_eq_names? (deletion : Deletion) :
    deletion.key? = deletion.names?.map AccountNames.key := by
  cases deletion with
  | live account => exact account.key?_eq_names?
  | tombstone ns name => exact AccountNames.key?_ofParts? ns (some name)

end IdentityCache
