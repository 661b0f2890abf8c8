import IdentityCache.Proofs.JsonGrammar

/-!
# Runs of a reader

A reader of JSON text is run character by character.  A run over a text that is put together is made
of the runs over its parts, as long as none of them meets a fault.  Where only what a reader comes
to counts and not the fault that stops it, `outcome` forgets the fault, and then a fault is one of
the things that the run over a part can come to.
-/

namespace IdentityCache.Json

set_option autoImplicit false

variable {σ : Type} {step : σ → Char → Except Fault σ} {state next : σ} {text : List Char}
  {c : Char}

/-! ## With faults -/

theorem run_cons_of_ok (goes : step state c = .ok next) (text : List Char) :
    run step state (c :: text) = run step next text := by
  rw [run_cons, goes]
  rfl

theorem run_append_of_ok (goes : run step state text = .ok next) (rest : List Char) :
    run step state (text ++ rest) = run step next rest := by
  rw [run_append, goes]
  rfl

theorem run_singleton (step : σ → Char → Except Fault σ) (state : σ) (c : Char) :
    run step state [c] = step state c := bind_pure (step state c)

/-- States that take a character alike take alike what begins with it. -/
theorem run_cons_congr {other : σ} (same : step state c = step other c) (text : List Char) :
    run step state (c :: text) = run step other (c :: text) := by
  rw [run_cons, run_cons, same]

/-- A state that blanks do not change is kept over blanks. -/
theorem run_blanks {blanks : List Char} (areBlanks : Blanks blanks)
    (waits : ∀ c, isBlank c = true → step state c = .ok state) (rest : List Char) :
    run step state (blanks ++ rest) = run step state rest := by
  induction blanks with
  | nil => rfl
  | cons c blanks ih =>
    obtain ⟨blank, later⟩ := List.forall_mem_cons.mp areBlanks
    rw [List.cons_append, run_cons_of_ok (waits c blank), ih later]

/-- A state that takes nothing but blanks is kept by a run, and the run was over blanks. -/
theorem run_of_waits
    (waits : ∀ c, step state c = if isBlank c then .ok state else .error .malformed)
    (read : run step state text = .ok next) : next = state ∧ Blanks text := by
  induction text with
  | nil => exact ⟨(Except.ok.inj read).symm, List.forall_mem_nil _⟩
  | cons c text ih =>
    cases blank : isBlank c with
    | true =>
      rw [run_cons_of_ok ((waits c).trans (if_pos blank))] at read
      exact ⟨(ih read).1, List.forall_mem_cons.mpr ⟨blank, (ih read).2⟩⟩
    | false =>
      rw [run_cons, waits, blank] at read
      cases read

/-! ## Without faults -/

/-- What a machine comes to over a text, if there is no fault in it. -/
def outcome (step : σ → Char → Except Fault σ) (state : σ) (text : List Char) : Option σ :=
  (run step state text).toOption

theorem outcome_eq_some_iff :
    outcome step state text = some next ↔ run step state text = .ok next := by
  unfold outcome
  cases run step state text <;> simp [Except.toOption]

theorem outcome_cons (step : σ → Char → Except Fault σ) (state : σ) (c : Char) (text : List Char) :
    outcome step state (c :: text) =
      (step state c).toOption.bind fun next => outcome step next text := by
  rw [outcome, run_cons]
  cases step state c <;> rfl

theorem outcome_append (step : σ → Char → Except Fault σ) (state : σ) (text rest : List Char) :
    outcome step state (text ++ rest) =
      (outcome step state text).bind fun next => outcome step next rest := by
  unfold outcome
  rw [run_append]
  cases run step state text <;> rfl

theorem outcome_cons_of_ok (goes : step state c = .ok next) (text : List Char) :
    outcome step state (c :: text) = outcome step next text :=
  congrArg Except.toOption (run_cons_of_ok goes text)

theorem outcome_cons_of_error {fault : Fault} (fails : step state c = .error fault)
    (text : List Char) : outcome step state (c :: text) = none := by
  rw [outcome_cons, fails]
  rfl

theorem outcome_cons_congr {other : σ} (same : step state c = step other c) (text : List Char) :
    outcome step state (c :: text) = outcome step other (c :: text) :=
  congrArg Except.toOption (run_cons_congr same text)

theorem outcome_blanks {blanks : List Char} (areBlanks : Blanks blanks)
    (waits : ∀ c, isBlank c = true → step state c = .ok state) (rest : List Char) :
    outcome step state (blanks ++ rest) = outcome step state rest :=
  congrArg Except.toOption (run_blanks areBlanks waits rest)

theorem outcome_of_blanks {blanks : List Char} (areBlanks : Blanks blanks)
    (waits : ∀ c, isBlank c = true → step state c = .ok state) :
    outcome step state blanks = some state := by
  have stays := outcome_blanks areBlanks waits []
  rwa [List.append_nil] at stays

end IdentityCache.Json
