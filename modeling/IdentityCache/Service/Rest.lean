import IdentityCache.Service.Step

/-!
# Coming to rest

`Service.settle` makes steps until none is possible without time passing.  It comes to
rest because every step lowers the load; if a step is possible at all, the load of
the service at rest is lower (`Service.load_settle_lt`).
-/

namespace IdentityCache.Service

set_option autoImplicit false

/-- Makes steps until none is possible without time passing. -/
def settle (service : Service) : Service × List Event :=
  match _ : service.step? with
  | none => (service, [])
  | some (next, events) =>
    let (settled, later) := next.settle
    (settled, events ++ later)
termination_by service.load
decreasing_by
  have lowered := load_step? ‹service.step? = some _›
  omega

/-- Coming to rest never raises the load. -/
theorem load_settle_le (service : Service) : service.settle.1.load ≤ service.load := by
  induction h : service.load using Nat.strongRecOn generalizing service with
  | _ n ih =>
    subst h
    unfold settle
    split
    · exact Nat.le_refl _
    · rename_i next events stepped
      have lowered := load_step? stepped
      have rest := ih next.load (by omega) next rfl
      simp only
      omega

/-- Coming to rest lowers the load if a step is possible at all. -/
theorem load_settle_lt {service : Service} (possible : service.step?.isSome) :
    service.settle.1.load < service.load := by
  unfold settle
  split
  · rename_i none
    simp [none] at possible
  · rename_i next events stepped
    have lowered := load_step? stepped
    have rest := load_settle_le next
    simp only
    omega

end IdentityCache.Service
