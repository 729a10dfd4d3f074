import ShaderDriver.Object.Creation
import ShaderDriver.Proofs.Act.Frame
import ShaderDriver.Proofs.Memory.Account

namespace ShaderDriver

open Memory

/-! What the objects of the driver own, and a balance of it against the accounts of the allocators
and the programs of the compilers. -/

inductive Asset where
  | memory (allocation : Allocation)
  | program (compiler : CompilerRef)
deriving DecidableEq, Repr

namespace Asset

/-- The allocation as the account of one allocator lists it. -/
def listed? (serial : Nat) : Asset → Option (Nat × AllocType)
  | .memory allocation =>
      if allocation.allocator.serial = serial then some (allocation.size, allocation.type) else none
  | .program _ => none

def program? : Asset → Option CompilerRef
  | .memory _ => none
  | .program compiler => some compiler

end Asset

def Payload.asset : Payload → Asset
  | .kernel owned => .memory owned.allocation
  | .program made => .program made.compiler

def Ir.assets (ir : Ir) : Multiset Asset :=
  {ir.payload.asset, .memory ir.container}

def Base.assets (base : Base) : Multiset Asset :=
  .memory base.allocation ::ₘ (base.record.map fun record => Asset.memory record.allocation).toList

def Shader.assets (shader : Shader) : Multiset Asset :=
  shader.ir.assets + shader.base.assets

def Device.assets (device : Device) : Multiset Asset :=
  device.base.assets

/-- What the account of one allocator lists of some assets. -/
def memoryAt (serial : Nat) (assets : Multiset Asset) : Multiset (Nat × AllocType) :=
  assets.filterMap (Asset.listed? serial)

def programsIn (assets : Multiset Asset) : Multiset CompilerRef :=
  assets.filterMap Asset.program?

@[simp] theorem memoryAt_zero (serial : Nat) : memoryAt serial 0 = 0 := rfl

@[simp] theorem programsIn_zero : programsIn 0 = 0 := rfl

@[simp] theorem memoryAt_add (serial : Nat) (first second : Multiset Asset) :
    memoryAt serial (first + second) = memoryAt serial first + memoryAt serial second :=
  Multiset.filterMap_add ..

@[simp] theorem programsIn_add (first second : Multiset Asset) :
    programsIn (first + second) = programsIn first + programsIn second :=
  Multiset.filterMap_add ..

@[simp] theorem memoryAt_memory (serial : Nat) (allocation : Allocation) :
    memoryAt serial {.memory allocation} =
      if allocation.allocator.serial = serial then {(allocation.size, allocation.type)} else 0 := by
  split
  · next same => exact Multiset.filterMap_cons_some _ _ _ (if_pos same)
  · next distinct => exact Multiset.filterMap_cons_none _ _ (if_neg distinct)

@[simp] theorem programsIn_memory (allocation : Allocation) :
    programsIn {.memory allocation} = 0 := rfl

@[simp] theorem memoryAt_program (serial : Nat) (compiler : CompilerRef) :
    memoryAt serial {.program compiler} = 0 := rfl

@[simp] theorem programsIn_program (compiler : CompilerRef) :
    programsIn {.program compiler} = {compiler} := rfl

namespace Event

def made? : Event → Option CompilerRef
  | .programMade compiler => some compiler
  | _ => none

def destroyed? : Event → Option CompilerRef
  | .programDestroyed compiler => some compiler
  | _ => none

/-- The event tells of no program. -/
def Plain (event : Event) : Prop :=
  event.made? = none ∧ event.destroyed? = none

end Event

def programsMade (trace : List Event) : Multiset CompilerRef :=
  trace.filterMap Event.made?

def programsDestroyed (trace : List Event) : Multiset CompilerRef :=
  trace.filterMap Event.destroyed?

theorem programsMade_append (trace events : List Event) :
    programsMade (trace ++ events) = programsMade trace + programsMade events := by
  simp [programsMade]

theorem programsDestroyed_append (trace events : List Event) :
    programsDestroyed (trace ++ events) = programsDestroyed trace + programsDestroyed events := by
  simp [programsDestroyed]

namespace World

variable {world after : World} {serial : Nat} {earlier : Multiset CompilerRef}
  {assets spent : Multiset Asset}

/-- The assets are what the account of an allocator lists, and the programs that are left of the
`earlier` ones and of those made since. -/
structure Balances (world : World) (serial : Nat) (earlier : Multiset CompilerRef)
    (assets : Multiset Asset) : Prop where
  memory : (world.allocators serial).Accounts (memoryAt serial assets)
  programs : earlier + programsMade world.trace =
    programsDestroyed world.trace + programsIn assets

theorem Balances.exchange {others : Multiset Asset} (balances : world.Balances serial earlier assets)
    (memory : memoryAt serial others = memoryAt serial assets)
    (programs : programsIn others = programsIn assets) : world.Balances serial earlier others where
  memory := by rw [memory]; exact balances.memory
  programs := by rw [programs]; exact balances.programs

theorem Balances.transfer (balances : world.Balances serial earlier assets)
    (allocator : after.allocators serial = world.allocators serial)
    (trace : after.trace = world.trace) : after.Balances serial earlier assets where
  memory := by rw [allocator]; exact balances.memory
  programs := by rw [trace]; exact balances.programs

theorem Balances.proceed {event : Event} {others : Multiset Asset}
    (balances : world.Balances serial earlier assets) (trace : after.trace = world.trace ++ [event])
    (memory : (after.allocators serial).Accounts (memoryAt serial others))
    (programs : programsMade [event] + programsIn assets =
      programsDestroyed [event] + programsIn others) : after.Balances serial earlier others where
  memory := memory
  programs := by
    rw [trace, programsMade_append, programsDestroyed_append, ← add_assoc, balances.programs,
      add_assoc, add_comm (programsIn assets), programs, add_assoc]

theorem Balances.append {event : Event} {others : Multiset Asset}
    (balances : world.Balances serial earlier assets) (plain : event.Plain)
    (trace : after.trace = world.trace ++ [event])
    (programs : programsIn others = programsIn assets)
    (memory : (after.allocators serial).Accounts (memoryAt serial others)) :
    after.Balances serial earlier others := by
  have made : programsMade [event] = 0 := by simp [programsMade, plain.1]
  have destroyed : programsDestroyed [event] = 0 := by simp [programsDestroyed, plain.2]
  exact balances.proceed trace memory (by rw [made, destroyed, programs])

theorem Balances.remark {event : Event} (balances : world.Balances serial earlier assets)
    (plain : event.Plain) (trace : after.trace = world.trace ++ [event])
    (allocator : after.allocators serial = world.allocators serial) :
    after.Balances serial earlier assets :=
  balances.append plain trace rfl (by rw [allocator]; exact balances.memory)

end World

end ShaderDriver
