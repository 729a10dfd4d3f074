import ShaderDriver.Memory.Heap

namespace ShaderDriver

/-! The base of an object comes first and goes last. -/

namespace Base

/-- A base of some size, with a copy of the create info where one is given and `debug` is on. -/
def create (allocator : AllocatorRef) (debug : Bool) (kind : ObjectKind) (size : Nat)
    (info : Option (List UInt8)) : Act Base := do
  let allocation ← (allocator.request size objectAlignment .apiObject).orFail .outOfMemory
  match info with
  | some bytes =>
      if debug then do
        let record ← (Buffer.copyOf allocator bytes .debug).orRelease allocation.release
        pure { kind, allocation, record := some record }
      else pure { kind, allocation, record := none }
  | none => pure { kind, allocation, record := none }

/-- The object's own memory goes first, then the copy of its create info. -/
def release (base : Base) : Act Unit :=
  match base.record with
  | none => base.allocation.release
  | some record => base.allocation.release.thenRelease record.release

end Base

end ShaderDriver
