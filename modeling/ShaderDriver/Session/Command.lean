import ShaderDriver.Object.Creation
import ShaderDriver.Object.Outline

namespace ShaderDriver.Session

open Memory Container

/-! What an application can do, one command at a time, and what it is told in return. Objects are
spoken of by the names under which the application holds them. -/

/-- The settings of a device that differ from the standard ones. -/
structure Settings where
  extensions : Option Extensions
  debug : Option Bool
  gpuName : Option String
  allocator : Option String
  compiler : Option String
deriving DecidableEq, Repr

/-- The four entry points that make shaders. -/
inductive CreationCall where
  | core
  | glsl
  | rawCore
  | rawGlsl
deriving DecidableEq, Repr

/-- Commands about allocators, and about buffers and bases in their memory. Wherever there is an
`into`, the object that is made is held under that name, or let go if there is no name. -/
inductive MemoryCommand where
  | makeAllocator (into : String) (budget : Option Nat)
  | rawAlloc (allocator : String) (size alignment : Nat) (type : AllocType)
  | rawFree (allocator : String) (size : Nat) (type : AllocType)
  | failNth (allocator : String) (n : Nat)
  | accounts (allocator : String)
  | makeBuffer (into : Option String) (allocator : String) (size : Nat) (type : AllocType)
  | writeBuffer (buffer : String) (start : Nat) (data : List UInt8)
  | makeBase (into : Option String) (allocator : String) (debug : Bool) (kind : ObjectKind)
      (size : Nat) (info : Option (List UInt8))
deriving DecidableEq, Repr

/-- Commands about compilers and their programs. -/
inductive CompilerCommand where
  | makeScripted (into : String) (entryPoint : String)
  | makeFrontEnd (into : String)
  | setMode (compiler : String) (mode : Mode)
  | state (compiler : String)
  | makeProgram (into : Option String) (compiler base : String) (code : List UInt8)
      (verdict : Verdict)
deriving DecidableEq, Repr

/-- Commands about devices that an application has made for itself. -/
inductive DeviceCommand where
  | describe (settings : Settings) (onLines : Bool)
  | create (into : Option String) (settings : Settings)
  | select (device : String) (info : CreateInfo)
  | createShader (into : Option String) (device : String) (info : CreateInfo) (verdict : Verdict)
  | translate (into : Option String) (device : String) (code : List UInt8)
  | compile (into : Option String) (device base : String) (code : List UInt8) (verdict : Verdict)
deriving DecidableEq, Repr

/-- Calls of the entry points of the driver. -/
inductive CallCommand where
  | startUp
  | shutdown
  | shaderCount
  | createDevice (settings : Settings)
  | device (into : Option String) (handle : Handle .device)
  | destroyDevice (handle : Handle .device)
  | createShader (call : CreationCall) (owner : Handle .device) (info : CreateInfo)
      (verdict : Verdict)
  | shader (into : Option String) (handle : Handle .shader)
  | destroyObject (handle : Handle .shader)
  | log (record : Log.Record)
  | setLogger (faults : List Log.Fault)
  | resetLogger (environment : Option String)
deriving DecidableEq, Repr

/-- Commands about any object that is held. -/
inductive HeldCommand where
  | inspect (name : String)
  | describe (name : String) (onLines : Bool)
  | letGo (name : String)
deriving DecidableEq, Repr

inductive Command where
  | memory (command : MemoryCommand)
  | compiler (command : CompilerCommand)
  | device (command : DeviceCommand)
  | call (command : CallCommand)
  | held (command : HeldCommand)
deriving DecidableEq, Repr

inductive Value where
  | nothing
  | truth (value : Bool)
  | number (value : Nat)
  | bytes (value : List UInt8)
  | text (value : String)
  | accounts (tracker : Tracker)
  | compiler (state : Compiler)
  | source (source : Source)
  /-- An object as it is when the command ends. -/
  | object (object : Held)
  | deviceHandle (handle : Handle .device)
  | shaderHandle (handle : Handle .shader)
  | raw (handle : Option (Handle .shader)) (code : ResultCode)
deriving DecidableEq, Repr

/-- How a command ended, and what could be watched meanwhile. A command about an object that is not
held, or is of another kind, has no value and no effect. -/
structure Answer where
  exit : Exit (Option Value)
  events : List Event
deriving DecidableEq, Repr

end ShaderDriver.Session
