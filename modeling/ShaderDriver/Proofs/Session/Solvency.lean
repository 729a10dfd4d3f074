import ShaderDriver.Proofs.Session.Endings

namespace ShaderDriver

open Memory Act

/-! The balance between all references and the account of any allocator, also of one that buffers,
bases and forms on their own have memory of. -/

namespace World

variable {heap : Heap} {world after : World} {spare serial : Nat} {pending others : Multiset Held}
  {object : Held}

/-- The account of an allocator lists what is kept alive by the references in the world and by those
that are pending. The references are told apart with regard to an allocator that is not in use. -/
structure Solvent (world : World) (spare serial : Nat) (pending : Multiset Held) : Prop where
  keeps : world.Keeps spare pending
  balances : ∃ earlier, world.Balances serial earlier (assetsIn (pending + world.references))

namespace Solvent

/-- What an action does to a balance it does to the account of every allocator. -/
theorem carry {α : Type} {act : Act α} {spent rest : Multiset Asset} {gained : α → Multiset Asset}
    (solvent : world.Solvent spare serial pending) (moves : act.Moves spent gained)
    (kept : (act world).2.Keeps spare others)
    (start : assetsIn (pending + world.references) = rest + spent)
    (finish : assetsIn (others + world.references) = rest + (act world).1.carried gained) :
    (act world).2.Solvent spare serial others := by
  obtain ⟨earlier, balances⟩ := solvent.balances
  refine ⟨kept, earlier, ?_⟩
  rw [(moves.retains world).references, finish]
  rw [start] at balances
  exact moves.balances balances

theorem letGo (solvent : world.Solvent spare serial (object ::ₘ pending)) :
    (object.letGo world).2.Solvent spare serial pending := by
  have kept := solvent.keeps.letGo
  rcases solvent.keeps.letGo_cases with ⟨same, nothing⟩ | ⟨act, same, moves, last⟩
  · obtain ⟨earlier, balances⟩ := solvent.balances
    rw [same] at kept ⊢
    rw [Multiset.cons_add, nothing] at balances
    exact ⟨kept, earlier, balances⟩
  · rw [same] at kept ⊢
    refine solvent.carry moves kept ?_ (by rw [Exit.carried_nothing, add_zero])
    rw [Multiset.cons_add, assetsIn_first last, add_comm]

theorem rearrange (solvent : world.Solvent spare serial pending)
    (moved : world.Rearranges after pending others) : after.Solvent spare serial others := by
  obtain ⟨earlier, balances⟩ := solvent.balances
  refine ⟨solvent.keeps.rearrange moved, earlier, ?_⟩
  rw [moved.same]
  exact balances.transfer (congrFun moved.allocators serial) moved.trace

theorem share (solvent : world.Solvent spare serial 0) (shared : object.isShared = true)
    (member : object ∈ world.references) : world.Solvent spare serial {object} := by
  obtain ⟨earlier, balances⟩ := solvent.balances
  refine ⟨solvent.keeps.share shared member, earlier, ?_⟩
  rw [zero_add] at balances
  rwa [Multiset.singleton_add, assetsIn_again shared member]

theorem log (solvent : world.Solvent spare serial pending) (record : Log.Record) :
    (Act.log record world).2.Solvent spare serial pending :=
  solvent.carry (.log record) (solvent.keeps.idle (.log record)) (add_zero _).symm (by simp)

theorem reverts {α : Type} {act : Act α} (solvent : world.Solvent spare serial pending)
    (reverts : act.Reverts 0) (undone : (act world).1.isDone = false) :
    (act world).2.Solvent spare serial pending := by
  obtain ⟨earlier, balances⟩ := solvent.balances
  refine ⟨solvent.keeps.reverts reverts undone, earlier, ?_⟩
  rw [(reverts.retains undone).references]
  exact reverts.balances undone (by rwa [add_zero])

theorem failNth (solvent : world.Solvent spare serial 0) (allocator : AllocatorRef) (n : Nat) :
    (Session.failNth allocator n world).2.Solvent spare serial 0 := by
  obtain ⟨earlier, balances⟩ := solvent.balances
  refine ⟨solvent.keeps.failNth allocator n, earlier, ?_, balances.programs⟩
  change ((world.allocators.set allocator.serial _) serial).Accounts _
  by_cases own : serial = allocator.serial
  · rw [own, Cells.set_self, ← own]
    exact Allocator.failNth_listed balances.memory n
  · rw [Cells.set_other _ _ own]
    exact balances.memory

theorem upkeep (spare serial : Nat) :
    Upkeep spare fun world pending => world.Solvent spare serial pending where
  orderly solvent := solvent.keeps.orderly
  once solvent := solvent.keeps.once
  rearrange solvent moved := solvent.rearrange moved
  share solvent shared member := solvent.share shared member
  log record solvent := solvent.log record
  letGo solvent := solvent.letGo
  keeps solvent := solvent.keeps
  carry solvent moves kept start finish := solvent.carry moves kept start finish
  reverts solvent reverts undone := solvent.reverts reverts undone
  failNth solvent allocator n := solvent.failNth allocator n

/-- A new allocator is the first with its serial number, and nothing has memory of it yet. -/
theorem newAllocator (solvent : world.Solvent spare serial 0)
    (unused : memoryAt world.nextSerial (assetsIn world.references) = 0) (label : Option String)
    (budget : Option Nat) :
    (Session.newAllocator label (.tracking (.withBudget budget)) world).2.Solvent spare serial 0 := by
  obtain ⟨earlier, balances⟩ := solvent.balances
  refine ⟨solvent.keeps.newAllocator label budget, earlier, ?_⟩
  change World.Balances _ serial earlier (assetsIn (0 + world.references))
  by_cases own : serial = world.nextSerial
  · refine ⟨?_, balances.programs⟩
    rw [own, zero_add, unused]
    change ((world.allocators.set world.nextSerial _) world.nextSerial).Accounts 0
    rw [Cells.set_self]
    exact Allocator.tracking_accounts.mpr (Tracker.withBudget_accounts budget)
  · exact balances.transfer (Cells.set_other _ _ own) rfl

theorem watched (solvent : world.Solvent spare serial 0) :
    Solvent { world with trace := [] } spare serial 0 := by
  obtain ⟨_, balances⟩ := solvent.balances
  -- The trace is empty again, so the programs there are count as made before it.
  refine ⟨solvent.keeps.watched, programsIn (assetsIn (0 + world.references)), balances.memory, ?_⟩
  exact add_comm _ _

end Solvent

/-- Whatever a command turns to is held, and so it has a serial number in use. -/
theorem Keeps.untouched (keeps : world.Keeps spare 0) (beyond : world.nextSerial ≤ spare)
    (command : Session.Command) : command.touches? world ≠ some spare := by
  have allocators : ∀ name, (world.allocator? name).map AllocatorRef.serial ≠ some spare := by
    intro name touched
    obtain ⟨allocator, found, same⟩ := Option.map_eq_some_iff.mp touched
    have known : allocator.serial < world.nextSerial :=
      keeps.fits (mem_of_held (held_of_allocator found))
    omega
  have devices : ∀ name, (world.device? name).map (fun device => device.allocator.serial) ≠
      some spare := by
    intro name touched
    obtain ⟨device, found, same⟩ := Option.map_eq_some_iff.mp touched
    have known := keeps.device_known (mem_of_held (held_of_device found))
    omega
  unfold Session.Command.touches?
  split
  · exact allocators _
  · exact allocators _
  · exact allocators _
  · exact allocators _
  · exact devices _
  · exact devices _
  · exact (Option.some_ne_none spare).symm

/-- Every account lists what is kept alive by the references, whichever allocator is out of use. -/
def Settled (world : World) : Prop :=
  ∀ spare serial, world.nextSerial ≤ spare → world.Solvent spare serial 0

theorem initial_settled : (initial heap).Settled :=
  fun spare serial _ => ⟨initial_keeps spare, (initial_keeps serial).balances⟩

theorem Settled.step (settled : world.Settled) {command : Session.Command}
    (operation : command.isOperation = true) : (Session.step world command).2.Settled := by
  intro spare serial beyond
  have keeps := (settled world.nextSerial serial (Nat.le_refl _)).keeps
  have later : world.nextSerial ≤ spare := Nat.le_trans (keeps.recalled command).serials beyond
  have solvent := settled spare serial later
  -- Nothing has memory of the allocator that comes next.
  have unused : memoryAt world.nextSerial (assetsIn world.references) = 0 :=
    memoryAt_unused fun object member => keeps.fits member
  exact (Solvent.upkeep spare serial).operation solvent.watched
    (fun label budget => solvent.watched.newAllocator unused label budget)
    (solvent.keeps.untouched later command) operation

theorem Settled.balances (settled : world.Settled) (serial : Nat) :
    ∃ earlier, world.Balances serial earlier (assetsIn (0 + world.references)) :=
  (settled world.nextSerial serial (Nat.le_refl _)).balances

end World

end ShaderDriver
