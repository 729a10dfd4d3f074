import ShaderDriver.Object.Basic
import ShaderDriver.Compiler
import ShaderDriver.Log.Record

namespace ShaderDriver

open Memory Container Log

/-! All that the driver and its application have between them at one time. -/

/-- A value behind a lock. A panic while the lock is held for writing poisons it for good. -/
structure Guarded (α : Type) where
  content : α
  poisoned : Bool
deriving DecidableEq, Repr

/-- A shader that callers have a handle for, and the device it was asked of. -/
structure ShaderEntry where
  owner : Handle .device
  shader : Shader
deriving DecidableEq, Repr

structure Registries where
  devices : Guarded (Registry .device Device)
  shaders : Guarded (Registry .shader ShaderEntry)

/-- What an application holds on to under a name. -/
inductive Held where
  | allocator (allocator : AllocatorRef)
  | compiler (compiler : CompilerRef)
  | buffer (buffer : Buffer)
  | base (base : Base)
  | device (device : Device)
  | shader (shader : Shader)
  | ir (ir : Ir)
  | program (program : Program)
deriving DecidableEq, Repr

/-- What can be watched from outside, in the order in which it happens. -/
inductive Event where
  /-- An allocator has answered a request. -/
  | requested (allocator : AllocatorRef) (size alignment : Nat) (type : AllocType) (granted : Bool)
  /-- An allocator is about to be told that memory is free. -/
  | released (allocator : AllocatorRef) (size : Nat) (type : AllocType)
  | logged (record : Record) (sink : Sink)
  /-- A compiler is asked for a program, for the object with this base. -/
  | compiling (compiler : CompilerRef) (request : Glsl.Request) (base : Base)
  | programMade (compiler : CompilerRef)
  | programDestroyed (compiler : CompilerRef)
  /-- The last reference to an object is gone, and its teardown begins. -/
  | ending (kind : ObjectKind) (id : Nat)
deriving DecidableEq, Repr

structure World where
  heap : Heap
  allocators : Cells Allocator
  compilers : Cells Compiler
  logger : Logger
  /-- There are none before the driver is initialised. -/
  registries : Option Registries
  held : List (String × Held)
  /-- The serial number of the next device, shader, allocator or compiler. -/
  nextSerial : Nat
  trace : List Event

namespace Registries

def empty : Registries :=
  { devices := { content := .empty, poisoned := false }
    shaders := { content := .empty, poisoned := false } }

end Registries

namespace World

/-- Nothing is initialised or held, and the logger belongs to the application. -/
def initial (heap : Heap := .standard) : World :=
  { heap
    allocators := fun _ => .tracking (.withBudget none)
    compilers := fun _ => .frontEnd .fresh
    logger := .quiet
    registries := none
    held := []
    nextSerial := 0
    trace := [] }

def registeredDevices (world : World) : List Device :=
  match world.registries with
  | none => []
  | some registries => registries.devices.content.values

def registeredShaders (world : World) : List Shader :=
  match world.registries with
  | none => []
  | some registries => registries.shaders.content.values.map ShaderEntry.shader

/-- The devices that an application has references to. -/
def heldDevices (world : World) : List Device :=
  world.held.filterMap fun
    | (_, .device device) => some device
    | _ => none

def heldShaders (world : World) : List Shader :=
  world.held.filterMap fun
    | (_, .shader shader) => some shader
    | _ => none

/-- Whether anything still refers to a device. -/
def hasDevice (world : World) (device : Device) : Bool :=
  (world.registeredDevices ++ world.heldDevices).any fun other => other.id == device.id

/-- Whether anything still refers to a shader. -/
def hasShader (world : World) (shader : Shader) : Bool :=
  (world.registeredShaders ++ world.heldShaders).any fun other => other.id == shader.id

end World

end ShaderDriver
