import ShaderDriver.Proofs.Object.Moves

namespace ShaderDriver

/-! Actions that leave nothing behind unless they finish. -/

variable {α β : Type}

def Exit.isDone : Exit α → Bool
  | .done _ => true
  | .failed _ => false
  | .unwound => false

namespace Act

variable {act : Act α} {next : α → Act β} {spent owned : Multiset Asset}
  {gained : α → Multiset Asset}

theorem orRelease_world {release : Act Unit} {world : World}
    (undone : (act world).1.isDone = false) :
    (act.orRelease release world).2 = (release (act world).2).2 := by
  unfold Act.orRelease
  generalize act world = ran at undone ⊢
  obtain ⟨exit, after⟩ := ran
  cases exit with
  | done value => cases undone
  | failed error => exact leave_world _ release after
  | unwound => exact leave_world _ release after

/-- If the action does not finish, all is as before but for the assets that it owned. -/
structure Reverts (act : Act α) (owned : Multiset Asset) : Prop where
  retains : ∀ {world}, (act world).1.isDone = false → world.Retains (act world).2
  balances : ∀ {serial earlier rest world}, (act world).1.isDone = false →
    world.Balances serial earlier (rest + owned) → (act world).2.Balances serial earlier rest

theorem Moves.reverts (moves : act.Moves spent gained) : act.Reverts spent where
  retains _ := moves.retains _
  balances {serial earlier rest world} undone balances := by
    have finished := moves.balances balances
    generalize act world = ran at undone finished ⊢
    obtain ⟨exit, after⟩ := ran
    cases exit with
    | done value => cases undone
    | failed error => simpa using finished
    | unwound => simpa using finished

namespace Reverts

theorem of_finishes (finishes : ∀ world, (act world).1.isDone = true) : act.Reverts owned where
  retains {world} undone := by
    rw [finishes world] at undone
    cases undone
  balances {serial earlier rest world} undone := by
    rw [finishes world] at undone
    cases undone

theorem bind {middle : α → Multiset Asset} (first : act.Moves spent middle)
    (second : ∀ value, (next value).Reverts (middle value)) : (act >>= next).Reverts spent where
  retains {world} := by
    have start := first.retains world
    rw [bind_apply]
    generalize act world = ran at start ⊢
    obtain ⟨exit, between⟩ := ran
    intro undone
    cases exit with
    | done value => exact start.trans ((second value).retains undone)
    | failed error => exact start
    | unwound => exact start
  balances {serial earlier rest world} := by
    intro undone balances
    have start := first.balances balances
    rw [bind_apply] at undone ⊢
    generalize act world = ran at start undone ⊢
    obtain ⟨exit, between⟩ := ran
    cases exit with
    | done value => exact (second value).balances undone start
    | failed error => simpa using start
    | unwound => simpa using start

theorem orRelease {release : Act Unit} (first : act.Reverts 0)
    (released : release.Releases owned) : (act.orRelease release).Reverts owned where
  retains {world} := by
    have start : (act world).1.isDone = false → _ := first.retains
    unfold Act.orRelease
    generalize act world = ran at start ⊢
    obtain ⟨exit, between⟩ := ran
    intro undone
    cases exit with
    | done value => cases undone
    | failed error => exact (start rfl).trans (released.retains.leave _ between)
    | unwound => exact (start rfl).trans (released.retains.leave _ between)
  balances {serial earlier rest world} := by
    intro undone balances
    have start : (act world).1.isDone = false →
        (act world).2.Balances serial earlier (rest + owned) :=
      fun undone => first.balances undone (by rwa [add_zero])
    unfold Act.orRelease at undone ⊢
    generalize act world = ran at start undone ⊢
    obtain ⟨exit, between⟩ := ran
    cases exit with
    | done value => cases undone
    | failed error => simpa [leave_world] using released.balances (start rfl)
    | unwound => simpa [leave_world] using released.balances (start rfl)

theorem map (reverts : act.Reverts owned) (view : α → β) :
    (act >>= fun value => Pure.pure (view value)).Reverts owned where
  retains {world} := by
    have start : (act world).1.isDone = false → _ := reverts.retains
    rw [bind_apply]
    generalize act world = ran at start ⊢
    obtain ⟨exit, after⟩ := ran
    intro undone
    cases exit with
    | done value => cases undone
    | failed error => exact start rfl
    | unwound => exact start rfl
  balances {serial earlier rest world} := by
    intro undone balances
    have start : (act world).1.isDone = false → (act world).2.Balances serial earlier rest :=
      fun undone => reverts.balances undone balances
    rw [bind_apply] at undone ⊢
    generalize act world = ran at start undone ⊢
    obtain ⟨exit, after⟩ := ran
    cases exit with
    | done value => cases undone
    | failed error => exact start rfl
    | unwound => exact start rfl

end Reverts

end Act

end ShaderDriver
