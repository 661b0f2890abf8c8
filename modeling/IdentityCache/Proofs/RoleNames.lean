import IdentityCache.RoleArn.Basic
import IdentityCache.RoleArn.Composition
import Mathlib.Data.List.Basic

/-!
# Composed names of roles

A role's name is put together from a partition, an account and a path (`nameText`).  The check
walks over a name from left to right; it accepts exactly the names that are put together from
valid parts (`isValid_iff`).

A composed name is put together in the same way, from whatever the partition and the account are
configured to be and whatever an annotation says.  No valid part has a colon, so a valid name has
five of them.  A composed name has these five and those of its parts, hence its parts have none and
every cut of it falls on the same places.  The main statement is `composed_name_is_valid_iff`.
-/

namespace IdentityCache.RoleArn

set_option autoImplicit false

open Unicode (isDecimalDigit)

/-! ## The parts of a name -/

/-- The partitions: `aws`, followed by lower-case letters, digits and hyphens. -/
def IsPartition (text : List Char) : Prop :=
  ∃ rest, text = 'a' :: 'w' :: 's' :: rest ∧ ∀ c ∈ rest, isPartitionCharacter c = true

/-- The accounts: `aws` and any twelve decimal digits. -/
def IsAccount (text : List Char) : Prop :=
  text = ['a', 'w', 's'] ∨ text.length = 12 ∧ ∀ c ∈ text, isDecimalDigit c = true

/-- The paths: one character of a path or more. -/
def IsPath (text : List Char) : Prop := text ≠ [] ∧ ∀ c ∈ text, isPathCharacter c = true

/-- A name put together from its parts. -/
def nameText (partition account path : List Char) : List Char :=
  ['a', 'r', 'n', ':'] ++ (partition ++ ([':', 'i', 'a', 'm', ':', ':'] ++ (account ++
    ([':', 'r', 'o', 'l', 'e', '/'] ++ path))))

theorem isDecimalDigit_colon : isDecimalDigit ':' = false := by decide

theorem isPathCharacter_colon : isPathCharacter ':' = false := by decide +kernel

theorem IsPartition.noColon {text : List Char} (partition : IsPartition text) : ':' ∉ text := by
  obtain ⟨rest, rfl, allowed⟩ := partition
  simp only [List.mem_cons, not_or]
  exact ⟨by decide, by decide, by decide, fun colon => by cases allowed ':' colon⟩

theorem IsAccount.noColon {text : List Char} (account : IsAccount text) : ':' ∉ text := by
  rcases account with rfl | ⟨-, digits⟩
  · decide
  · intro colon
    have digit := digits ':' colon
    rw [isDecimalDigit_colon] at digit
    cases digit

theorem IsPath.noColon {text : List Char} (path : IsPath text) : ':' ∉ text := by
  intro colon
  have allowed := path.2 ':' colon
  rw [isPathCharacter_colon] at allowed
  cases allowed

/-! ## What the check accepts -/

theorem afterAccount?_eq_some {text rest : List Char} (found : afterAccount? text = some rest) :
    ∃ account, IsAccount account ∧ text = account ++ rest := by
  unfold afterAccount? at found
  split at found
  · rename_i digits
    cases Option.some.inj found
    exact ⟨text.take 12, .inr ⟨digits.1, List.all_eq_true.mp digits.2⟩,
      (List.take_append_drop 12 text).symm⟩
  · exact ⟨_, .inl rfl, (List.isPrefixOf?_eq_some_iff_append_eq.mp found).symm⟩

theorem afterAccount?_append {account : List Char} (valid : IsAccount account)
    (rest : List Char) : afterAccount? (account ++ rest) = some rest := by
  unfold afterAccount?
  rcases valid with rfl | ⟨twelve, digits⟩
  · -- A letter is no digit, so the first alternative is not taken.
    have notDigits : ¬ (((['a', 'w', 's'] ++ rest).take 12).length = 12 ∧
        ((['a', 'w', 's'] ++ rest).take 12).all isDecimalDigit = true) := by
      rintro ⟨-, digits⟩
      have letter : isDecimalDigit 'a' = true :=
        List.all_eq_true.mp digits 'a' List.mem_cons_self
      exact absurd letter (by decide)
    rw [if_neg notDigits]
    exact List.isPrefixOf?_eq_some_iff_append_eq.mpr rfl
  · rw [← twelve, List.take_left, List.drop_left, if_pos ⟨rfl, List.all_eq_true.mpr digits⟩]

/-- **The walk over a name finds its path** if the parts before it are valid. -/
theorem path?_eq_some_iff (text path : List Char) :
    path? text = some path ↔
      ∃ partition account, IsPartition partition ∧ IsAccount account ∧
        text = nameText partition account path := by
  unfold path?
  simp only [Option.bind_eq_bind, Option.bind_eq_some_iff,
    List.isPrefixOf?_eq_some_iff_append_eq]
  constructor
  · rintro ⟨afterAws, rfl, atAccount, marked, afterAccount, found, rfl⟩
    obtain ⟨account, isAccount, rfl⟩ := afterAccount?_eq_some found
    have whole := List.takeWhile_append_dropWhile (p := isPartitionCharacter) (l := afterAws)
    rw [← marked] at whole
    exact ⟨'a' :: 'w' :: 's' :: afterAws.takeWhile isPartitionCharacter, account,
      ⟨_, rfl, List.all_eq_true.mp List.all_takeWhile⟩, isAccount,
      congrArg (['a', 'r', 'n', ':', 'a', 'w', 's'] ++ ·) whole.symm⟩
  · rintro ⟨partition, account, ⟨rest, rfl, allowed⟩, isAccount, rfl⟩
    refine ⟨rest ++ ([':', 'i', 'a', 'm', ':', ':'] ++ (account ++
      ([':', 'r', 'o', 'l', 'e', '/'] ++ path))), rfl, _, ?_, _,
      afterAccount?_append isAccount _, rfl⟩
    -- The colon after the partition ends the run of its characters.
    rw [List.dropWhile_append_of_pos allowed]
    rfl

/-- **A name is valid exactly if it is put together from valid parts.** -/
theorem isValid_iff (arn : String) :
    isValid arn = true ↔ ∃ partition account path, IsPartition partition ∧ IsAccount account ∧
      IsPath path ∧ arn.toList = nameText partition account path := by
  have asPath (path : List Char) :
      (!path.isEmpty && path.all isPathCharacter) = true ↔ IsPath path := by
    simp [IsPath]
  unfold isValid
  constructor
  · intro valid
    split at valid
    · rename_i path found
      obtain ⟨partition, account, isPartition, isAccount, whole⟩ :=
        (path?_eq_some_iff _ _).mp found
      exact ⟨partition, account, path, isPartition, isAccount, (asPath path).mp valid, whole⟩
    · cases valid
  · rintro ⟨partition, account, path, isPartition, isAccount, isPath, whole⟩
    have found := (path?_eq_some_iff _ path).mpr ⟨partition, account, isPartition, isAccount, whole⟩
    rw [found]
    exact (asPath path).mpr isPath

/-! ## Where a name can be cut -/

/-- A name holds the colons of its parts and five more. -/
theorem count_nameText (partition account path : List Char) :
    (nameText partition account path).count ':' =
      partition.count ':' + account.count ':' + path.count ':' + 5 := by
  simp only [nameText, List.count_append]
  have marks : (['a', 'r', 'n', ':'].count ':', [':', 'i', 'a', 'm', ':', ':'].count ':',
      [':', 'r', 'o', 'l', 'e', '/'].count ':') = (1, 3, 1) := by decide
  grind

/-- A name is six pieces joined by colons. -/
theorem intercalate_pieces (partition account path : List Char) :
    [':'].intercalate [['a', 'r', 'n'], partition, ['i', 'a', 'm'], [], account,
      'r' :: 'o' :: 'l' :: 'e' :: '/' :: path] = nameText partition account path := by
  simp [nameText, List.intercalate]

/-- The colons of a name cut it into six pieces if its parts have none. -/
theorem splitOn_nameText {partition account path : List Char} (inPartition : ':' ∉ partition)
    (inAccount : ':' ∉ account) (inPath : ':' ∉ path) :
    (nameText partition account path).splitOn ':' =
      [['a', 'r', 'n'], partition, ['i', 'a', 'm'], [], account,
        'r' :: 'o' :: 'l' :: 'e' :: '/' :: path] := by
  rw [← intercalate_pieces]
  refine List.splitOn_intercalate ':' ?_ (List.cons_ne_nil _ _)
  simp [inPartition, inAccount, inPath]

/-- **A name that is put together from valid parts can be cut in one way only**, whatever it is put
together from. -/
theorem nameText_inj {partition account path first second third : List Char}
    (isPartition : IsPartition partition) (isAccount : IsAccount account) (isPath : IsPath path)
    (same : nameText first second third = nameText partition account path) :
    first = partition ∧ second = account ∧ third = path := by
  have colons := congrArg (List.count ':') same
  have none : partition.count ':' = 0 ∧ account.count ':' = 0 ∧ path.count ':' = 0 :=
    ⟨List.count_eq_zero.mpr isPartition.noColon, List.count_eq_zero.mpr isAccount.noColon,
      List.count_eq_zero.mpr isPath.noColon⟩
  rw [count_nameText, count_nameText] at colons
  have pieces := congrArg (List.splitOn ':') same
  rw [splitOn_nameText (List.count_eq_zero.mp (by omega)) (List.count_eq_zero.mp (by omega))
      (List.count_eq_zero.mp (by omega)),
    splitOn_nameText isPartition.noColon isAccount.noColon isPath.noColon] at pieces
  simpa using pieces

/-! ## Composition -/

theorem isQualified_iff (value : String) :
    isQualified value = true ↔ ['a', 'r', 'n', ':'] <+: value.toList :=
  List.isPrefixOf_iff_prefix

namespace Composition

/-- An unqualified value is put together with the configured partition and account. -/
theorem toList_resolve {composition : Composition} (enabled : composition.enabled = true)
    {value : String} (bare : isQualified value = false) :
    (composition.resolve value).toList =
      nameText composition.partition.toList composition.account.toList value.toList := by
  simp [resolve, enabled, bare, nameText]

/-- A value is completed to a qualified one if it is not left alone. -/
theorem resolve_resolve (composition : Composition) (value : String) :
    composition.resolve (composition.resolve value) = composition.resolve value := by
  by_cases alone : (!composition.enabled || isQualified value) = true
  · have kept : composition.resolve value = value := if_pos alone
    rw [kept, kept]
  · obtain ⟨enabled, bare⟩ : composition.enabled = true ∧ isQualified value = false := by
      simpa using alone
    refine composition.resolve_of_isQualified ((isQualified_iff _).mpr ?_)
    rw [toList_resolve enabled bare]
    exact List.prefix_append _ _

theorem resolve_of_isValid (composition : Composition) {value : String}
    (valid : isValid value = true) : composition.resolve value = value := by
  obtain ⟨partition, account, path, -, -, -, whole⟩ := (isValid_iff value).mp valid
  refine composition.resolve_of_isQualified ((isQualified_iff value).mpr ?_)
  rw [whole]
  exact List.prefix_append _ _

end Composition

/-! ## The main statement -/

/-- **A composed name is valid exactly if its parts are.**  Let composition be enabled, with any
partition and any account, and let an annotation's value not begin with `arn:`.  Then the name that
is composed is valid if and only if the partition, the account and the value are each valid, and a
valid name is composed of no other parts.  Composing a second time changes nothing, and a valid name
is left alone, whether or not composition is enabled. -/
theorem composed_name_is_valid_iff :
    (∀ (composition : Composition) (value : String), composition.enabled = true →
      ¬ ['a', 'r', 'n', ':'] <+: value.toList →
      (isValid (composition.resolve value) = true ↔
        IsPartition composition.partition.toList ∧ IsAccount composition.account.toList ∧
          IsPath value.toList) ∧
      ∀ partition account path, IsPartition partition → IsAccount account → IsPath path →
        (composition.resolve value).toList = nameText partition account path →
          composition.partition.toList = partition ∧ composition.account.toList = account ∧
            value.toList = path) ∧
    (∀ (composition : Composition) (value : String),
      composition.resolve (composition.resolve value) = composition.resolve value) ∧
    (∀ (composition : Composition) (value : String), isValid value = true →
      composition.resolve value = value) := by
  refine ⟨fun composition value enabled unqualified => ?_, Composition.resolve_resolve,
    fun composition value => composition.resolve_of_isValid⟩
  have bare : isQualified value = false := by
    rw [Bool.eq_false_iff]
    exact mt (isQualified_iff value).mp unqualified
  have composed := Composition.toList_resolve enabled bare
  have cut (partition account path : List Char) (isPartition : IsPartition partition)
      (isAccount : IsAccount account) (isPath : IsPath path)
      (same : (composition.resolve value).toList = nameText partition account path) :
      composition.partition.toList = partition ∧ composition.account.toList = account ∧
        value.toList = path :=
    nameText_inj isPartition isAccount isPath (composed.symm.trans same)
  refine ⟨⟨fun valid => ?_, fun ⟨isPartition, isAccount, isPath⟩ => ?_⟩, cut⟩
  · obtain ⟨partition, account, path, isPartition, isAccount, isPath, same⟩ :=
      (isValid_iff _).mp valid
    obtain ⟨rfl, rfl, rfl⟩ := cut partition account path isPartition isAccount isPath same
    exact ⟨isPartition, isAccount, isPath⟩
  · exact (isValid_iff _).mpr ⟨_, _, _, isPartition, isAccount, isPath, composed⟩

/-- The name of a role below a path is valid.  A partition that holds a whole account and a path
does not stand for them. -/
theorem path_is_completed_to_a_valid_name :
    let china : Composition :=
      { enabled := true, partition := "aws-cn", account := "111122223333" }
    let nested : Composition :=
      { enabled := true, partition := "aws:iam::aws:role/r", account := "aws" }
    (¬ ['a', 'r', 'n', ':'] <+: "path/r1".toList ∧ isValid (china.resolve "path/r1") = true) ∧
      isValid (nested.resolve "path/r1") = false ∧
      china.resolve (china.resolve "path/r1") = china.resolve "path/r1" := by
  intro china nested
  have unqualified : ¬ ['a', 'r', 'n', ':'] <+: "path/r1".toList := by decide
  have isPartition : IsPartition china.partition.toList :=
    ⟨['-', 'c', 'n'], by decide, List.all_eq_true.mp (by decide)⟩
  have isAccount : IsAccount china.account.toList :=
    .inr ⟨by decide, List.all_eq_true.mp (by decide)⟩
  have isPath : IsPath "path/r1".toList :=
    ⟨by decide, List.all_eq_true.mp (by decide +kernel)⟩
  have valid := (composed_name_is_valid_iff.1 china "path/r1" rfl unqualified).1.mpr
    ⟨isPartition, isAccount, isPath⟩
  refine ⟨⟨unqualified, valid⟩, ?_, composed_name_is_valid_iff.2.1 china "path/r1"⟩
  rw [Bool.eq_false_iff]
  intro validToo
  have parts := (composed_name_is_valid_iff.1 nested "path/r1" rfl unqualified).1.mp validToo
  exact parts.1.noColon (by decide)

end IdentityCache.RoleArn
