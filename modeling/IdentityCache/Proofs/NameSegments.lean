import IdentityCache.Proofs.MarkedText
import IdentityCache.Proofs.RoleNames
import IdentityCache.Unicode.WhiteSpace

/-!
# The segments of a role's name

To a reader who knows nothing of the check, the name of a role is a text that its colons cut into
six segments, each with a form of its own.  Joined again, such segments are a name that is put
together from valid parts, and the parts of a valid name hold no colon, so every valid name is cut
into such segments.  The main statement is `valid_names_have_six_segments`.

A name is valid as a whole: nothing stands before it, no white space is in it, and what follows it
can only prolong its path.
-/

namespace IdentityCache.RoleArn

set_option autoImplicit false

open Unicode (CodeRanges isDecimalDigit isWhiteSpace isWordCharacter)

/-! ## The characters of the segments -/

theorem isPartitionCharacter_iff (c : Char) :
    isPartitionCharacter c = true ↔ ('a' ≤ c ∧ c ≤ 'z') ∨ ('0' ≤ c ∧ c ≤ '9') ∨ c = '-' := by
  simp [isPartitionCharacter, or_assoc]

theorem isPathCharacter_iff (c : Char) :
    isPathCharacter c = true ↔
      isWordCharacter c = true ∨ c ∈ ['+', '=', ',', '.', '@', '/', '-'] := by
  rw [isPathCharacter, Bool.or_eq_true, List.contains_iff_mem]

/-- The code points of the characters of partitions. -/
def partitionRanges : CodeRanges := [(0x2D, 0x2D), (0x30, 0x39), (0x61, 0x7A)]

theorem covers_partitionRanges {c : Char} (allowed : isPartitionCharacter c = true) :
    partitionRanges.covers c = true := by
  rw [CodeRanges.covers_iff]
  rcases (isPartitionCharacter_iff c).mp allowed with ⟨low, high⟩ | ⟨low, high⟩ | rfl
  · exact ⟨(0x61, 0x7A), by decide, low, high⟩
  · exact ⟨(0x30, 0x39), by decide, low, high⟩
  · exact ⟨(0x2D, 0x2D), by decide, by decide, by decide⟩

/-! ## Blanks -/

theorem isWhiteSpace_of_mem {text : List Char} (plain : text.any isWhiteSpace = false) {c : Char}
    (member : c ∈ text) : isWhiteSpace c = false :=
  Bool.eq_false_iff.mpr (List.any_eq_false.mp plain c member)

theorem isWhiteSpace_of_isPartitionCharacter {c : Char} (allowed : isPartitionCharacter c = true) :
    isWhiteSpace c = false :=
  CodeRanges.covers_eq_false (by decide) (covers_partitionRanges allowed)

theorem isWhiteSpace_of_isDecimalDigit {c : Char} (digit : isDecimalDigit c = true) :
    isWhiteSpace c = false :=
  CodeRanges.covers_eq_false (by decide +kernel) digit

theorem isWhiteSpace_of_isPathCharacter {c : Char} (allowed : isPathCharacter c = true) :
    isWhiteSpace c = false := by
  rcases (isPathCharacter_iff c).mp allowed with word | sign
  · exact CodeRanges.covers_eq_false (by decide +kernel) word
  · exact isWhiteSpace_of_mem (by decide : ['+', '=', ',', '.', '@', '/', '-'].any isWhiteSpace =
      false) sign

theorem IsPartition.noBlank {text : List Char} (partition : IsPartition text) :
    ∀ c ∈ text, isWhiteSpace c = false := by
  obtain ⟨rest, rfl, allowed⟩ := partition
  intro c member
  refine isWhiteSpace_of_isPartitionCharacter ?_
  simp only [List.mem_cons] at member
  rcases member with rfl | rfl | rfl | member
  · decide
  · decide
  · decide
  · exact allowed c member

theorem IsAccount.noBlank {text : List Char} (account : IsAccount text) :
    ∀ c ∈ text, isWhiteSpace c = false := by
  intro c member
  rcases account with rfl | ⟨-, digits⟩
  · exact isWhiteSpace_of_mem (by decide) member
  · exact isWhiteSpace_of_isDecimalDigit (digits c member)

/-- A name that is put together from valid parts holds no white space. -/
theorem noBlank_nameText {partition account path : List Char} (isPartition : IsPartition partition)
    (isAccount : IsAccount account) (isPath : IsPath path) :
    ∀ c ∈ nameText partition account path, isWhiteSpace c = false := by
  intro c member
  simp only [nameText, List.mem_append] at member
  rcases member with mark | member | mark | member | mark | member
  · exact isWhiteSpace_of_mem (by decide) mark
  · exact isPartition.noBlank c member
  · exact isWhiteSpace_of_mem (by decide) mark
  · exact isAccount.noBlank c member
  · exact isWhiteSpace_of_mem (by decide) mark
  · exact isWhiteSpace_of_isPathCharacter (isPath.2 c member)

/-! ## Names with a text around them -/

/-- What follows a name prolongs its path. -/
theorem nameText_append (partition account path more : List Char) :
    nameText partition account path ++ more = nameText partition account (path ++ more) := by
  simp [nameText]

/-- Names begin alike, so none stands behind a text without a colon in another. -/
theorem eq_nil_of_append_nameText {front partition account path first second third : List Char}
    (plain : ':' ∉ front)
    (same : front ++ nameText first second third = nameText partition account path) :
    front = [] := by
  have begins : (front ++ ['a', 'r', 'n']) ++ ':' :: (nameText first second third).drop 4 =
      ['a', 'r', 'n'] ++ ':' :: (nameText partition account path).drop 4 := by
    rw [List.append_assoc]
    exact same
  have fronts := (eq_of_append_mark (by simp [plain]) (by decide) begins).1
  exact List.append_cancel_right (fronts : front ++ ['a', 'r', 'n'] = [] ++ ['a', 'r', 'n'])

/-- No name stands behind a text in a valid name. -/
theorem eq_empty_of_isValid_append {front arn : String} (valid : isValid arn = true)
    (validToo : isValid (front ++ arn) = true) : front = "" := by
  obtain ⟨first, second, third, -, -, -, inner⟩ := (isValid_iff arn).mp valid
  obtain ⟨partition, account, path, isPartition, isAccount, isPath, whole⟩ :=
    (isValid_iff _).mp validToo
  rw [String.toList_append, inner] at whole
  -- Either name has five colons at least, and the whole one has no more.
  have colons := congrArg (List.count ':') whole
  rw [List.count_append, count_nameText, count_nameText,
    List.count_eq_zero.mpr isPartition.noColon, List.count_eq_zero.mpr isAccount.noColon,
    List.count_eq_zero.mpr isPath.noColon] at colons
  have plain : ':' ∉ front.toList := List.count_eq_zero.mp (by omega)
  exact String.toList_eq_nil_iff.mp (eq_nil_of_append_nameText plain whole)

/-- A valid name goes on with characters of a path only. -/
theorem isValid_append_iff {arn : String} (valid : isValid arn = true) (back : String) :
    isValid (arn ++ back) = true ↔ ∀ c ∈ back.toList, isPathCharacter c = true := by
  obtain ⟨partition, account, path, isPartition, isAccount, isPath, whole⟩ :=
    (isValid_iff arn).mp valid
  have prolonged : (arn ++ back).toList = nameText partition account (path ++ back.toList) := by
    rw [String.toList_append, whole, nameText_append]
  constructor
  · intro validToo
    obtain ⟨first, second, third, isFirst, isSecond, isThird, same⟩ := (isValid_iff _).mp validToo
    obtain ⟨-, -, rfl⟩ := nameText_inj isFirst isSecond isThird (prolonged.symm.trans same)
    intro c member
    exact isThird.2 c (List.mem_append_right path member)
  · intro allowed
    refine (isValid_iff _).mpr ⟨partition, account, path ++ back.toList, isPartition, isAccount,
      ⟨List.append_ne_nil_of_left_ne_nil isPath.1 _, ?_⟩, prolonged⟩
    intro c member
    exact (List.mem_append.mp member).elim (isPath.2 c) (allowed c)

/-! ## The main statement -/

/-- **A name is valid exactly if its colons cut it into the six segments of a role's name**: `arn`;
`aws` with lower-case letters, digits and hyphens behind it; `iam`; nothing; `aws` or any twelve
decimal digits; and `role/` with one or more characters behind it, each of a word or one of
`+ = , . @ / -`.  So a valid name holds no white space, no text in front of it leaves it valid, and
what is put behind it leaves it valid exactly if it prolongs its path. -/
theorem valid_names_have_six_segments :
    (∀ arn : String, isValid arn = true ↔
      ∃ region account path,
        arn.toList.splitOn ':' = [['a', 'r', 'n'], ['a', 'w', 's'] ++ region, ['i', 'a', 'm'], [],
          account, ['r', 'o', 'l', 'e', '/'] ++ path] ∧
        (∀ c ∈ region, ('a' ≤ c ∧ c ≤ 'z') ∨ ('0' ≤ c ∧ c ≤ '9') ∨ c = '-') ∧
        (account = ['a', 'w', 's'] ∨
          account.length = 12 ∧ ∀ c ∈ account, isDecimalDigit c = true) ∧
        path ≠ [] ∧
        ∀ c ∈ path, isWordCharacter c = true ∨ c ∈ ['+', '=', ',', '.', '@', '/', '-']) ∧
    (∀ arn : String, isValid arn = true →
      (∀ c ∈ arn.toList, isWhiteSpace c = false) ∧
      (∀ front, isValid (front ++ arn) = true → front = "") ∧
      ∀ back, isValid (arn ++ back) = true ↔ ∀ c ∈ back.toList, isPathCharacter c = true) := by
  refine ⟨fun arn => ⟨fun valid => ?_, ?_⟩, fun arn valid => ⟨?_, fun front =>
    eq_empty_of_isValid_append valid, isValid_append_iff valid⟩⟩
  · obtain ⟨partition, account, path, isPartition, isAccount, isPath, whole⟩ :=
      (isValid_iff arn).mp valid
    have segments := splitOn_nameText isPartition.noColon isAccount.noColon isPath.noColon
    obtain ⟨region, rfl, allowed⟩ := isPartition
    exact ⟨region, account, path, whole ▸ segments,
      fun c member => (isPartitionCharacter_iff c).mp (allowed c member), isAccount, isPath.1,
      fun c member => (isPathCharacter_iff c).mp (isPath.2 c member)⟩
  · rintro ⟨region, account, path, segments, inRegion, isAccount, nonempty, inPath⟩
    have joined : [':'].intercalate (arn.toList.splitOn ':') = arn.toList :=
      List.intercalate_splitOn ':'
    rw [segments] at joined
    exact (isValid_iff arn).mpr ⟨['a', 'w', 's'] ++ region, account, path,
      ⟨region, rfl, fun c member => (isPartitionCharacter_iff c).mpr (inRegion c member)⟩,
      isAccount, ⟨nonempty, fun c member => (isPathCharacter_iff c).mpr (inPath c member)⟩,
      joined.symm.trans (intercalate_pieces _ _ _)⟩
  · obtain ⟨partition, account, path, isPartition, isAccount, isPath, whole⟩ :=
      (isValid_iff arn).mp valid
    rw [whole]
    exact noBlank_nameText isPartition isAccount isPath

/-- Twelve digits of another kind are an account, in three times as many bytes.  A line end behind
the name is refused, and so is a blank before it. -/
theorem name_in_other_digits_is_valid :
    let arn := "arn:aws-cn:iam::١١١١٢٢٢٢٣٣٣٣:role/path/ré"
    isValid arn = true ∧ isValid (arn ++ "
") = false ∧ isValid (" " ++ arn) = false ∧
      isValid (arn ++ "/s") = true := by
  intro arn
  obtain ⟨-, surrounded⟩ := valid_names_have_six_segments
  have valid : isValid arn = true := by decide +kernel
  obtain ⟨-, before, behind⟩ := surrounded arn valid
  have inPath : "/s".toList.all isPathCharacter = true := by decide +kernel
  refine ⟨valid, ?_, ?_, (behind "/s").mpr (List.all_eq_true.mp inPath)⟩
  · rw [Bool.eq_false_iff]
    intro validToo
    exact absurd ((behind "
").mp validToo '
' (by decide)) (by decide +kernel)
  · rw [Bool.eq_false_iff]
    intro validToo
    exact absurd (before " " validToo) (by decide)

end IdentityCache.RoleArn
