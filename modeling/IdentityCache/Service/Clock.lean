import IdentityCache.Service.Rest

/-!
# The clock

A service at rest waits for its next deadline.  Reaching a deadline always makes a
step possible (`Service.step?_isSome_of_deadline`), so each jump of the clock lowers
the load and `Service.runWhile` comes to an end.
-/

namespace IdentityCache

set_option autoImplicit false

namespace Service

/-- The times at which waiting calls give up and running fetches complete. -/
def deadlines (service : Service) : List Nat :=
  service.calls.filterMap CallProgress.deadline? ++
    service.workers.flatMap fun worker => worker.running.map RunningFetch.due

/-- The next time at which anything happens by itself. -/
def nextDeadline? (service : Service) : Option Nat := service.deadlines.min?

/-- Moves the clock forward to the given time. -/
def jump (service : Service) (time : Nat) : Service :=
  { service with now := max service.now time }

/-- A deadline that is reached makes a step possible. -/
theorem step?_isSome_of_deadline {service : Service} {deadline : Nat}
    (member : deadline ∈ service.deadlines) : (service.jump deadline).step?.isSome := by
  have reached : deadline ≤ (service.jump deadline).now := Nat.le_max_right _ _
  rcases List.mem_append.mp member with ofCall | ofWorker
  · obtain ⟨call, among, ends⟩ := List.mem_filterMap.mp ofCall
    have ready := CallProgress.expire?_isSome (service.jump deadline).cache ends reached
    refine step?_isSome expireCall? (by simp [stepKinds]) ?_
    unfold expireCall?
    rw [Option.isSome_map]
    exact changeFirst?_isSome among ready
  · obtain ⟨worker, among, ofRunning⟩ := List.mem_flatMap.mp ofWorker
    obtain ⟨fetch, running, due⟩ := List.mem_map.mp ofRunning
    cases awaited : fetch.awaitsAnswer with
    | true =>
      refine step?_isSome receiveAnswers? (by simp [stepKinds]) ?_
      unfold receiveAnswers?
      rw [Option.isSome_map]
      refine stepFirst?_isSome among ?_
      have some := List.any_eq_true.mpr ⟨fetch, running, awaited⟩
      simp [RefreshWorker.receive?, some]
    | false =>
      have isDue : fetch.isDue (service.jump deadline).now := by
        simpa [RunningFetch.isDue, awaited, due] using reached
      refine step?_isSome stepWorker? (by simp [stepKinds]) ?_
      unfold stepWorker?
      rw [Option.isSome_map]
      refine stepFirst?_isSome among ?_
      obtain ⟨result, taken⟩ := Option.isSome_iff_exists.mp (takeDue?_isSome running isDue)
      simp [RefreshWorker.step?, taken]

/-- Jumping to the next deadline and coming to rest there lowers the load. -/
theorem load_settle_jump {service : Service} {deadline : Nat}
    (next : service.nextDeadline? = some deadline) :
    (service.jump deadline).settle.1.load < service.load :=
  load_settle_lt (step?_isSome_of_deadline (List.min?_mem next))

/-- Lets time pass from deadline to deadline, as long as the service at rest and its next
deadline satisfy the condition. -/
def runWhile (goOn : Service → Nat → Bool) (service : Service) : Service × List Event :=
  match _ : service.nextDeadline? with
  | none => (service, [])
  | some deadline =>
    if goOn service deadline then
      let rested := (service.jump deadline).settle
      let (final, later) := runWhile goOn rested.1
      (final, rested.2 ++ later)
    else (service, [])
termination_by service.load
decreasing_by exact load_settle_jump ‹service.nextDeadline? = some _›

/-- Lets the given time pass. -/
def advance (service : Service) (duration : Nat) : Service × List Event :=
  let target := service.now + duration
  let (service, events) := service.runWhile fun _ deadline => deadline ≤ target
  (service.jump target, events)

end Service

end IdentityCache
