import IdentityCache.Http.Endpoint
import IdentityCache.Proofs.SnapshotReading
import IdentityCache.Proofs.UniqueReading

/-!
# The page of an answer is read back

The body of the page is the text of a JSON object with five members.  A JSON text can be read in
one way only, so whoever reads the body gets exactly these members (`members_of_answerText_iff`).
The decoder of entries knows four of them and skims the fifth, so it gets the entry that was
answered (`readEntry_answerText`), whatever the texts and the lifetime in it are.
-/

namespace IdentityCache

set_option autoImplicit false

namespace Http

open Json

/-- A member of the text of an answer. -/
inductive AnswerMember
  | ofEntry (field : Field)
  | found
  deriving DecidableEq

namespace AnswerMember

/-- The members in the order in which they are written. -/
def all : List AnswerMember :=
  [.ofEntry .audience, .found, .ofEntry .roleArn, .ofEntry .tokenExpiration,
    .ofEntry .useRegionalSts]

/-- The name of a member. -/
def name : AnswerMember → String
  | .ofEntry field => field.name
  | .found => "FoundInCache"

/-- The value of a member. -/
def scalar (answer : Answer) : AnswerMember → Scalar
  | .ofEntry field => fieldScalar answer.entry field
  | .found => .truth answer.found

/-- The value of a member as it is written. -/
def valueText (answer : Answer) : AnswerMember → List Char
  | .ofEntry field => fieldText answer.entry field
  | .found => truth answer.found

/-- The field that a member is, if it is one. -/
def field? : AnswerMember → Option Field
  | .ofEntry field => some field
  | .found => none

end AnswerMember

/-- The names and the values of the members of an answer, in the order in which they are written. -/
def answerMembers (answer : Answer) : List (String × Scalar) := [
  ("Audience", .text answer.entry.audience),
  ("FoundInCache", .truth answer.found),
  ("RoleARN", .text answer.entry.roleArn),
  ("TokenExpiration", .integer answer.entry.tokenExpiration.toInt),
  ("UseRegionalSTS", .truth answer.entry.useRegionalSts)]

/-- An answer is written member by member. -/
theorem answerText_eq (answer : Answer) :
    answerText answer =
      object (AnswerMember.all.map fun item => member item.name (item.valueText answer)) := rfl

theorem objectText_answerText (answer : Answer) :
    ObjectText ScalarText (answerMembers answer) (answerText answer) := by
  have spelled (item : AnswerMember) :
      MemberText ScalarText (item.name, item.scalar answer)
        (member item.name (item.valueText answer)) := by
    refine memberText_member item.name ?_
    cases item with
    | ofEntry field => exact scalarText_fieldText answer.entry field
    | found => exact .truth answer.found
  exact objectText_object AnswerMember.all spelled

/-- **Whoever reads the text of an answer as an object reads exactly its members.** -/
theorem members_of_answerText_iff (answer : Answer) (members : List (String × Scalar)) :
    ObjectText ScalarText members (answerText answer) ↔ members = answerMembers answer := by
  constructor
  · intro spelled
    exact objectText_unique spelled (objectText_answerText answer)
  · rintro rfl
    exact objectText_answerText answer

/-! ## The decoder of entries -/

/-- The draft after a member: the decoder of entries does not keep whether something was found. -/
def AnswerMember.put (answer : Answer) (draft : Draft) : AnswerMember → Draft
  | .ofEntry field => draft.put answer.entry field
  | .found => draft

/-- Whether something was found is skimmed. -/
theorem run_found (draft : Draft) (found : Bool) :
    run EntryReader.step (.object draft .name) (member "FoundInCache" (truth found)) =
      .ok (.object draft .after) := by
  cases found <;> rfl

theorem takesMembers_answer (answer : Answer) :
    TakesMembers EntryReader.step (fun draft => .object draft .name)
      (fun draft => .closed draft.entry) (AnswerMember.put answer)
      (fun item => member item.name (item.valueText answer))
      fun draft items => draft.Unread (items.filterMap AnswerMember.field?) where
  quoted _ := ⟨_, rfl⟩
  keeps {draft item items} unread := by
    cases item with
    | ofEntry field => exact Draft.Unread.put answer.entry unread
    | found => exact unread
  comma {draft item items} unread := by
    cases item with
    | ofEntry field =>
      exact EntryReader.run_member answer.entry (unread.2 field List.mem_cons_self) (by decide)
    | found => exact run_append_of_ok (run_found draft answer.found) [',']
  brace {draft item items} unread := by
    cases item with
    | ofEntry field =>
      exact EntryReader.run_member answer.entry (unread.2 field List.mem_cons_self) (by decide)
    | found => exact run_append_of_ok (run_found draft answer.found) ['\x7d']

/-- **The decoder of entries reads the entry of an answer.** -/
theorem readEntry_answerText (answer : Answer) :
    readEntry (String.ofList (answerText answer)) = .ok answer.entry := by
  have opens : EntryReader.step .start '\x7b' = .ok (.object {} .opened) := rfl
  have unread : Draft.Unread {} (AnswerMember.all.filterMap AnswerMember.field?) := by decide
  have read : run EntryReader.step .start (object (AnswerMember.all.map _)) = .ok (.closed _) :=
    (takesMembers_answer answer).run_object opens rfl rfl unread
  rw [readEntry, String.toList_ofList, answerText_eq, read]
  rfl

/-- A page that holds an answer: it is read back from the body in full, and as an entry. -/
structure Page.Shows (page : Page) (answer : Answer) : Prop where
  status : page.status = 200
  contentType : page.contentType = some "application/json"
  members : ∀ members, ObjectText ScalarText members page.body.toList ↔
    members = answerMembers answer
  entry : readEntry page.body = .ok answer.entry

/-- **The page of an answer shows it**, whatever texts and which lifetime it has. -/
theorem Page.shows_ofAnswer (answer : Answer) : (Page.ofAnswer answer).Shows answer where
  status := rfl
  contentType := rfl
  members members := by
    rw [ofAnswer, ofJson, String.toList_ofList]
    exact members_of_answerText_iff answer members
  entry := readEntry_answerText answer

end Http

end IdentityCache
