import IdentityCache.Proofs.Run
import IdentityCache.Proofs.SnapshotReading

/-!
# A snapshot that is cut short is not applied

A snapshot closes with a brace, after which only blanks may come.  Before that brace its reader is
not closed, wherever within a string, a number or a nested value the text is cut, and a reader that
is not closed makes a fault of the end of the text.  So it is enough to know by which character a
reader is closed (`SnapshotReader.eq_brace_of_closes`) and that it stays closed from then on;
nothing has to be known of the readers of the parts.

A ConfigMap whose snapshot is cut short leaves the cache as it was, so leaving its delivery out of a
run makes no difference.  The main statement is `truncated_snapshot_changes_nothing`.
-/

namespace IdentityCache

set_option autoImplicit false

namespace Json

namespace SnapshotReader

/-- Whether the closing brace is still to come. -/
def IsOpen (reader : SnapshotReader) : Prop := ∀ table, reader ≠ .closed table

theorem IsOpen.finish {reader : SnapshotReader} (isOpen : reader.IsOpen) :
    ∃ fault, reader.finish = .error fault := by
  cases finished : reader.finish with
  | error fault => exact ⟨fault, rfl⟩
  | ok table => exact absurd ((finish_eq_ok_iff reader table).mp finished) (isOpen table)

/-- Only a brace closes a snapshot. -/
theorem eq_brace_of_closes {reader : SnapshotReader} {table : Table Entry} {c : Char}
    (isOpen : reader.IsOpen) (closes : reader.step c = .ok (.closed table)) : c = '\x7d' := by
  cases reader with
  | closed before => exact absurd rfl (isOpen before)
  | opened =>
    simp only [step, beginKey] at closes
    grind
  | after before =>
    simp only [step] at closes
    grind
  | start =>
    simp only [step] at closes
    grind
  | nextKey before =>
    simp only [step, beginKey] at closes
    grind
  | colon before key =>
    simp only [step] at closes
    grind
  | mistyped scan =>
    simp only [step] at closes
    cases stepped : EntryReader.stepMistyped scan c <;> simp [stepped, Except.map] at closes
  | inKey before scan =>
    simp only [step] at closes
    rcases stepped : scan.step c with fault | (scan | key) <;>
      simp [stepped, Except.map] at closes
  | inEntry before key reader =>
    simp only [step] at closes
    rcases stepped : reader.step c with fault | next
    · simp [stepped, Except.map] at closes
    · cases next <;> simp [stepped, Except.map, takeEntry] at closes

/-- **A reader that gets closed has read a brace and then blanks**, and up to the brace it was
open. -/
theorem ends_of_run {reader : SnapshotReader} {table : Table Entry} {text : List Char}
    (isOpen : reader.IsOpen) (read : run step reader text = .ok (.closed table)) :
    ∃ before blanks last, text = before ++ '\x7d' :: blanks ∧ Blanks blanks ∧
      run step reader before = .ok last ∧ last.IsOpen := by
  induction text generalizing reader with
  | nil => exact absurd (Except.ok.inj read) (isOpen table)
  | cons c text ih =>
    cases stepped : reader.step c with
    | error fault =>
      rw [run_cons, stepped] at read
      cases read
    | ok next =>
      rw [run_cons_of_ok stepped] at read
      by_cases closes : ∃ table, next = .closed table
      · obtain ⟨early, rfl⟩ := closes
        cases eq_brace_of_closes isOpen stepped
        exact ⟨[], text, reader, rfl, (run_of_waits (fun _ => rfl) read).2, rfl, isOpen⟩
      · obtain ⟨before, blanks, last, rfl, areBlanks, reaches, lastOpen⟩ :=
          ih (not_exists.mp closes) read
        exact ⟨c :: before, blanks, last, rfl, areBlanks, (run_cons_of_ok stepped _).trans reaches,
          lastOpen⟩

/-- On the way to a state that is open all states are. -/
theorem isOpen_of_run {reader last : SnapshotReader} {text : List Char}
    (read : run step reader text = .ok last) (lastOpen : last.IsOpen) : reader.IsOpen := by
  rintro table rfl
  exact lastOpen table (run_of_waits (fun _ => rfl) read).1

end SnapshotReader

/-- A snapshot ends with a brace and blanks.  The reader is open at the brace. -/
theorem ends_of_readSnapshot {text : String} {table : Table Entry}
    (read : readSnapshot text = .ok table) :
    ∃ before blanks last, text.toList = before ++ '\x7d' :: blanks ∧ Blanks blanks ∧
      run SnapshotReader.step .start before = .ok last ∧ last.IsOpen :=
  SnapshotReader.ends_of_run (fun _ => nofun) ((readSnapshot_eq_ok_iff text table).mp read)

/-- What is cut off from a text with a brace in it begins at the last brace or before it. -/
theorem isPrefix_of_cut {part rest before blanks : List Char} (areBlanks : Blanks blanks)
    (same : part ++ rest = before ++ '\x7d' :: blanks) (lost : '\x7d' ∈ rest) :
    part <+: before := by
  rcases List.append_eq_append_iff.mp same with ⟨between, rfl, -⟩ | ⟨between, rfl, cut⟩
  · exact List.prefix_append part between
  · cases between with
    | nil => exact (List.append_nil before).symm ▸ List.prefix_rfl
    | cons c between =>
      have blanksToo : blanks = between ++ rest := (List.cons.inj cut).2
      have blank := areBlanks '\x7d' (blanksToo ▸ List.mem_append_right between lost)
      cases blank

/-- **A snapshot that is cut short cannot be read**, wherever it is cut, if its last closing brace
is lost. -/
theorem readSnapshot_of_cut {text part rest : String} {table : Table Entry}
    (read : readSnapshot text = .ok table) (cut : text = part ++ rest)
    (lost : '\x7d' ∈ rest.toList) : ∃ fault, readSnapshot part = .error fault := by
  obtain ⟨before, blanks, last, ends, areBlanks, reaches, lastOpen⟩ := ends_of_readSnapshot read
  rw [cut, String.toList_append] at ends
  obtain ⟨missing, rfl⟩ := isPrefix_of_cut areBlanks ends lost
  rw [run_append] at reaches
  unfold readSnapshot
  cases reached : run SnapshotReader.step .start part.toList with
  | error fault => exact ⟨fault, rfl⟩
  | ok reader =>
    rw [reached] at reaches
    exact (SnapshotReader.isOpen_of_run reaches lastOpen).finish

end Json

namespace Cache

/-- A ConfigMap whose snapshot cannot be read is refused, and the cache is what it was. -/
theorem applyMap_of_unreadable (cache : Cache) {map : ConfigMap} {text : String}
    {fault : Json.Fault} (holds : map.data.lookup snapshotLabel = some text)
    (unreadable : Json.readSnapshot text = .error fault) :
    cache.applyMap map =
      (cache,
        if cache.watchesMap map then [.mapRejected (.snapshot (.unreadable fault))] else []) := by
  have refused : map.snapshot = .error (.unreadable fault) := by
    simp only [ConfigMap.snapshot, holds, unreadable]
  rw [applyMap, ingestMap, refused]
  split <;> rfl

/-- A delivery that leaves every cache as it was may be left out of a relist. -/
theorem resetMaps_without (cache : Cache) {map : ConfigMap}
    (keeps : ∀ cache : Cache, (cache.applyMap map).1 = cache) (earlier later : List ConfigMap) :
    (cache.resetMaps (earlier ++ map :: later)).1 = (cache.resetMaps (earlier ++ later)).1 := by
  simp only [resetMaps, forEach_fst, List.foldl_append, List.foldl_cons, keeps]

end Cache

/-! ## The main statement -/

/-- **A snapshot that is cut short changes nothing.**  Every text that can be read as a snapshot has
a last closing brace, with nothing but blanks after it.  A part of the text without this brace
cannot be read.  A ConfigMap that delivers the part leaves every cache as it was in all its fields
and is reported if it is the watched one, and every run with this delivery, alone or within a
relist, leads to the same cache as the run without it. -/
theorem truncated_snapshot_changes_nothing {text part rest : String} {table : Table Entry}
    (read : Json.readSnapshot text = .ok table) (cut : text = part ++ rest) :
    (∃ before blanks, text.toList = before ++ '\x7d' :: blanks ∧ Json.Blanks blanks) ∧
    ('\x7d' ∈ rest.toList → ∃ fault, Json.readSnapshot part = .error fault ∧
      ∀ (cache : Cache) (map : ConfigMap), map.data.lookup snapshotLabel = some part →
        cache.perform (.applyMap map) =
          (cache, if cache.watchesMap map then [.mapRejected (.snapshot (.unreadable fault))]
            else []) ∧
        (∀ earlier later, cache.after (earlier ++ .applyMap map :: later) =
          cache.after (earlier ++ later)) ∧
        ∀ earlier later others more,
          cache.after (earlier ++ .resetMaps (others ++ map :: more) :: later) =
            cache.after (earlier ++ .resetMaps (others ++ more) :: later)) := by
  refine ⟨?_, fun lost => ?_⟩
  · obtain ⟨before, blanks, -, ends, areBlanks, -⟩ := Json.ends_of_readSnapshot read
    exact ⟨before, blanks, ends, areBlanks⟩
  · obtain ⟨fault, unreadable⟩ := Json.readSnapshot_of_cut read cut lost
    refine ⟨fault, unreadable, fun cache map holds => ?_⟩
    have keeps : ∀ cache : Cache, (cache.applyMap map).1 = cache := fun cache =>
      congrArg Prod.fst (cache.applyMap_of_unreadable holds unreadable)
    refine ⟨cache.applyMap_of_unreadable holds unreadable, fun earlier later => ?_,
      fun earlier later others more => ?_⟩
    · simp only [Cache.after_append, Cache.after_cons, Cache.perform, keeps]
    · simp only [Cache.after_append, Cache.after_cons, Cache.perform,
        Cache.resetMaps_without _ keeps]

/-- The watched ConfigMap comes a second time, with a snapshot that has lost its last brace.  The
text is complete up to there but for a blank.  It cannot be read because it ends too early, so the
delivery is refused, and the account of the first delivery is still there. -/
theorem snapshot_without_its_brace_is_refused :
    let whole := "\x7b \"ns/sa\" : \x7b\"RoleARN\":\"r\"\x7d \x7d\n"
    let part := "\x7b \"ns/sa\" : \x7b\"RoleARN\":\"r\"\x7d"
    let delivery (text : String) : ConfigMap :=
      { ns := some "ns", name := some "map", data := [(snapshotLabel, text)] }
    let first := delivery "\x7b\"ns/old\":\x7b\"RoleARN\":\"r\"\x7d\x7d"
    let map := delivery part
    let start := Cache.new {} (some ⟨"ns", "map"⟩) none
    let cache := start.after [.applyMap first]
    Json.readSnapshot whole = .ok ((∅ : Table Entry).insert ⟨"ns/sa"⟩ { roleArn := "r" }) ∧
      whole = part ++ " \x7d\n" ∧ '\x7d' ∈ " \x7d\n".toList ∧
      Json.readSnapshot part = .error .ended ∧
      cache.watchesMap map = true ∧
      cache.perform (.applyMap map) =
        (cache, [.mapRejected (.snapshot (.unreadable .ended))]) ∧
      ((start.after [.applyMap first, .applyMap map]).mapped.get? ⟨"ns/old"⟩).map Entry.roleArn =
        some "r" ∧
      ∀ cache : Cache, (cache.perform (.applyMap map)).1 = cache := by
  intro whole part delivery first map start cache
  have read : Json.readSnapshot whole =
      .ok ((∅ : Table Entry).insert ⟨"ns/sa"⟩ { roleArn := "r" }) := by
    unfold whole
    rfl
  have cut : whole = part ++ " \x7d\n" := by decide
  have lost : '\x7d' ∈ " \x7d\n".toList := by decide
  have ended : Json.readSnapshot part = .error .ended := by
    unfold part
    rfl
  have watched : cache.watchesMap map = true := by decide
  have holds : map.data.lookup snapshotLabel = some part := by decide
  obtain ⟨fault, unreadable, refuses⟩ := (truncated_snapshot_changes_nothing read cut).2 lost
  cases Except.error.inj (unreadable.symm.trans ended)
  have refused : cache.perform (.applyMap map) =
      (cache, [.mapRejected (.snapshot (.unreadable .ended))]) := by
    rw [(refuses cache map holds).1, if_pos watched]
  have same : start.after [.applyMap first, .applyMap map] = cache :=
    (refuses start map holds).2.1 [.applyMap first] []
  have kept : ((start.after [.applyMap first, .applyMap map]).mapped.get? ⟨"ns/old"⟩).map
      Entry.roleArn = some "r" := by
    rw [same]
    decide
  exact ⟨read, cut, lost, ended, watched, refused, kept,
    fun cache => congrArg Prod.fst (refuses cache map holds).1⟩

end IdentityCache
