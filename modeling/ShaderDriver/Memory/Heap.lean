import ShaderDriver.Act

namespace ShaderDriver

open Memory

/-! Memory from an allocator, and buffers in it. -/

/-- Asks for memory. What the allocator answers is seen from outside, unless it panics. -/
def AllocatorRef.request (allocator : AllocatorRef) (size alignment : Nat) (type : AllocType) :
    Act (Option Allocation) := fun world =>
  let (reply, next) := (world.allocators allocator.serial).alloc size type
  let told := { world with allocators := world.allocators.set allocator.serial next }
  let seen := fun granted =>
    { told with
      trace := told.trace ++ [.requested allocator size alignment type granted] }
  match reply with
  | .fault => (.unwound, told)
  | .refused => (.done none, seen false)
  | .granted => (.done (some { allocator, size, type }), seen true)

namespace Allocation

/-- Gives memory back. It panics when the account of the allocator has no such allocation. -/
def release (allocation : Allocation) : Act Unit := fun world =>
  let (inOrder, next) :=
    (world.allocators allocation.allocator.serial).free allocation.size allocation.type
  let after := { world with
    allocators := world.allocators.set allocation.allocator.serial next
    trace := world.trace ++
      [.released allocation.allocator allocation.size allocation.type] }
  (if inOrder then .done () else .unwound, after)

end Allocation

namespace Buffer

def release (buffer : Buffer) : Act Unit :=
  buffer.allocation.release

/-- A buffer of zeros, or nothing where the allocator or the heap refuses it. -/
def zeroed (allocator : AllocatorRef) (size : Nat) (type : AllocType) : Act (Option Buffer) := do
  match ← allocator.request size bufferAlignment type with
  | none => pure none
  | some allocation =>
      if (← Act.read World.heap).hasRoom size then
        pure (some { data := List.replicate size 0, allocation })
      else do
        allocation.release
        pure none

/-- Puts bytes into a buffer, and panics if they reach past its end. -/
def write (buffer : Buffer) (start : Nat) (bytes : List UInt8) : Act Buffer :=
  if start + bytes.length ≤ buffer.data.length then
    pure { buffer with
      data := buffer.data.take start ++ bytes ++ buffer.data.drop (start + bytes.length) }
  else Act.unwind

/-- A buffer of its own for some bytes. -/
def copyOf (allocator : AllocatorRef) (bytes : List UInt8) (type : AllocType) : Act Buffer := do
  let buffer ← (zeroed allocator bytes.length type).orFail .outOfMemory
  (buffer.write 0 bytes).orRelease buffer.release

end Buffer

end ShaderDriver
