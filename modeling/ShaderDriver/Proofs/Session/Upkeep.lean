import ShaderDriver.Proofs.Session.Keeping

namespace ShaderDriver

open Memory Act World

/-! What is kept of the references in a world also when objects are made: it is decided by what an
action does to the assets. -/

/-- The references are told apart with regard to an allocator, which is not in use where it matters. -/
structure Upkeep (spare : Nat) (kept : World → Multiset Held → Prop) : Prop extends Custody kept where
  keeps : ∀ {world pending}, kept world pending → world.Keeps spare pending
  carry : ∀ {α : Type} {world pending others} {act : Act α} {spent rest : Multiset Asset}
    {gained : α → Multiset Asset}, kept world pending → act.Moves spent gained →
    (act world).2.Keeps spare others →
    assetsIn (pending + world.references) = rest + spent →
    assetsIn (others + world.references) = rest + (act world).1.carried gained →
    kept (act world).2 others
  reverts : ∀ {α : Type} {world pending} {act : Act α}, kept world pending → act.Reverts 0 →
    (act world).1.isDone = false → kept (act world).2 pending
  failNth : ∀ {world}, kept world 0 → ∀ allocator n, kept (Session.failNth allocator n world).2 0

theorem World.Keeps.new {world : World} {spare : Nat} {pending : Multiset Held} {object : Held}
    {kind : ObjectKind} {id : Nat} (keeps : world.Keeps spare pending)
    (tagged : object.tag? = some (kind, id)) (fresh : world.nextSerial ≤ id) :
    object ∉ world.references := by
  intro member
  have known := keeps.consistent.tag_lt (Multiset.mem_add.mpr (.inr member)) tagged
  omega

namespace Upkeep

variable {spare : Nat} {kept : World → Multiset Held → Prop} (upkeep : Upkeep spare kept)
  {world after : World} {pending : Multiset Held} {object : Held} {α β : Type} {act : Act α}
  {gained : α → Multiset Asset} {value : α}

include upkeep

theorem idle (start : kept world pending) (moves : act.Idle) : kept (act world).2 pending :=
  upkeep.carry start moves ((upkeep.keeps start).idle moves) (add_zero _).symm (by simp)

/-- An object that owns nothing is pending. -/
theorem know (start : kept world 0) (fits : object.Fits spare world.nextSerial)
    (plain : object.tag? = none) (nothing : object.assets = 0) : kept world {object} := by
  have single : object.isShared = false := by rw [Held.isShared, plain]; rfl
  have known := (upkeep.keeps start).know fits plain nothing
  refine upkeep.carry start (Moves.idle ()) known (add_zero _).symm ?_
  rw [Exit.carried_nothing, Multiset.singleton_add, assetsIn_owner single, nothing, zero_add,
    zero_add, add_zero]

theorem gainNothing (start : kept world pending) (moves : act.Moves 0 gained)
    (done : act world = (.done value, after)) (nothing : gained value = 0) : kept after pending := by
  have settled := (upkeep.keeps start).gainNothing moves done nothing
  have carried : (act world).1.carried gained = 0 := by rw [done, Exit.carried_done, nothing]
  have finished : kept (act world).2 pending :=
    upkeep.carry start moves (by rwa [done]) (add_zero _).symm (by rw [carried, add_zero])
  rwa [done] at finished

/-- An object that was made is pending. -/
theorem gain (start : kept world 0) (moves : act.Moves 0 gained)
    (done : act world = (.done value, after)) (same : gained value = object.assets)
    (fits : object.Fits spare after.nextSerial) (fresh : object.Fresh world.nextSerial) :
    kept after {object} := by
  have settled := (upkeep.keeps start).gain moves done same fits fresh
  have new : object.isShared = true → object ∉ world.references := by
    intro shared
    obtain ⟨⟨kind, id⟩, tagged⟩ := Option.isSome_iff_exists.mp shared
    exact (upkeep.keeps start).new tagged (fresh kind id tagged)
  have finished : kept (act world).2 {object} := by
    refine upkeep.carry start moves (by rwa [done]) (add_zero _).symm ?_
    rw [done, Exit.carried_done, same, Multiset.singleton_add, assetsIn_first new, zero_add,
      add_comm]
  rwa [done] at finished

/-- Only an action that finishes leaves anything to be done. -/
theorem proceed {next : α → Act β} (start : kept world pending) (reverts : act.Reverts 0)
    (rest : ∀ {value after}, act world = (.done value, after) → kept (next value after).2 pending) :
    kept ((act >>= next) world).2 pending := by
  have undone := upkeep.reverts start reverts
  rw [bind_apply]
  rcases ran : act world with ⟨exit, after⟩
  rw [ran] at undone
  cases exit with
  | done value => exact rest ran
  | failed error => exact undone rfl
  | unwound => exact undone rfl

theorem deliver (start : kept world 0) (moves : act.Moves 0 gained) (into : Option String)
    (view : α → Held) (same : ∀ value, gained value = (view value).assets)
    (made : ∀ {value after}, act world = (.done value, after) →
      (view value).Fits spare after.nextSerial ∧ (view value).Fresh world.nextSerial) :
    kept ((act >>= fun value => Session.keepAndShow into (view value)) world).2 0 := by
  refine upkeep.proceed start moves.reverts fun {value after} ran => ?_
  obtain ⟨fits, fresh⟩ := made ran
  exact upkeep.keepAndShow (upkeep.gain start moves ran (same value) fits fresh) into

end Upkeep

namespace World.Keeps

variable {world : World} {serial : Nat}

theorem failNth (keeps : world.Keeps serial 0) (allocator : AllocatorRef) (n : Nat) :
    (Session.failNth allocator n world).2.Keeps serial 0 := by
  obtain ⟨earlier, balances⟩ := keeps.balances
  refine ⟨⟨keeps.orderly.named, keeps.orderly.tidy, keeps.orderly.devices, keeps.orderly.shaders⟩,
    Multiset.nodup_zero, keeps.consistent, earlier, ?_, balances.programs⟩
  change ((world.allocators.set allocator.serial _) serial).Accounts _
  by_cases own : serial = allocator.serial
  · rw [own, Cells.set_self, ← own]
    exact Allocator.failNth_listed balances.memory n
  · rw [Cells.set_other _ _ own]
    exact balances.memory

theorem upkeep (serial : Nat) : Upkeep serial fun world pending => world.Keeps serial pending where
  toCustody := custody serial
  keeps keeps := keeps
  carry _ _ settled _ _ := settled
  reverts keeps reverts undone := keeps.reverts reverts undone
  failNth keeps allocator n := keeps.failNth allocator n

end World.Keeps

end ShaderDriver
