import ShaderDriver.Registry
import ShaderDriver.Extensions
import ShaderDriver.Memory.Tracker
import ShaderDriver.Container.Bil
import ShaderDriver.Container.Glsl

namespace ShaderDriver

open Memory Container

/-! The objects of the driver and what they own. Each owner names the allocations that end with it;
allocators and compilers belong to the application and are only referred to. -/

/-- An allocator of the application. One without a label is private to a device. -/
structure AllocatorRef where
  serial : Nat
  label : Option String
deriving DecidableEq, Repr

/-- A compiler of the application. One with a label reports its calls. -/
structure CompilerRef where
  serial : Nat
  label : Option String
deriving DecidableEq, Repr

/-- Memory that an allocator has granted and not got back. -/
structure Allocation where
  allocator : AllocatorRef
  size : Nat
  type : AllocType
deriving DecidableEq, Repr

/-- Where the bytes of buffers are. It can refuse a buffer that an allocator has granted. -/
structure Heap where
  hasRoom : Nat → Bool

structure Buffer where
  data : List UInt8
  allocation : Allocation
deriving DecidableEq, Repr

/-- The part that all objects have: their own memory, and on debug devices a copy of the create
info. -/
structure Base where
  kind : ObjectKind
  allocation : Allocation
  record : Option Buffer
deriving DecidableEq, Repr

/-- What a compiler made of a shader. -/
structure Program where
  stage : Stage
  entryPoint : String
  compiler : CompilerRef
deriving DecidableEq, Repr

inductive Payload where
  | kernel (buffer : Buffer)
  | program (program : Program)
deriving DecidableEq, Repr

/-- A shader in the form that pipelines are built from. -/
structure Ir where
  payload : Payload
  size : Nat
  container : Allocation
deriving DecidableEq, Repr

/-- Two values with one `id` are references to the same shader. -/
structure Shader where
  id : Nat
  /-- The `id` of the device that the shader was made on. -/
  maker : Nat
  ir : Ir
  base : Base
  flags : UInt32
deriving DecidableEq, Repr

/-- Two values with one `id` are references to the same device. -/
structure Device where
  id : Nat
  base : Base
  gpuName : String
  extensions : Extensions
  debug : Bool
  allocator : AllocatorRef
  compiler : Option CompilerRef
deriving DecidableEq, Repr

structure DeviceConfig where
  extensions : Extensions
  debug : Bool
  gpuName : String
  allocator : AllocatorRef
  compiler : Option CompilerRef
deriving DecidableEq, Repr

/-- What the code of a create info is said to be. -/
inductive InfoType where
  | core
  | compileRequest
deriving DecidableEq, Repr

structure CreateInfo where
  type : InfoType
  code : List UInt8
  flags : UInt32
deriving DecidableEq, Repr

namespace AllocatorRef

def recorded (allocator : AllocatorRef) : Bool := allocator.label.isSome

end AllocatorRef

namespace CompilerRef

def recorded (compiler : CompilerRef) : Bool := compiler.label.isSome

end CompilerRef

/-- The accounted sizes of the driver's own structures. -/
def Shader.footprint : Nat := 200

def Device.footprint : Nat := 160

def Ir.footprint : Nat := 96

/-- Alignments that allocators are told. -/
def objectAlignment : Nat := 8

def bufferAlignment : Nat := 4

/-- The heap has room for any buffer of less than a tebibyte. -/
def Heap.standard : Heap :=
  { hasRoom := fun size => size ≤ Nat.pow 2 40 - 1 }

namespace Base

def size (base : Base) : Nat := base.allocation.size

/-- The copy of the create info. -/
def recordedInfo (base : Base) : Option (List UInt8) :=
  base.record.map Buffer.data

end Base

namespace Ir

def kernel? (ir : Ir) : Option Buffer :=
  match ir.payload with
  | .kernel buffer => some buffer
  | .program _ => none

def program? (ir : Ir) : Option Program :=
  match ir.payload with
  | .kernel _ => none
  | .program program => some program

end Ir

namespace Shader

/-- Shaders without a program have no stage. -/
def stage? (shader : Shader) : Option Stage :=
  shader.ir.program?.map Program.stage

end Shader

namespace Device

def has (device : Device) (extension : Extensions) : Bool :=
  device.extensions.contains extension

end Device

namespace DeviceConfig

/-- Debug records are kept, there are no extensions and there is no compiler, unless a caller says
otherwise. -/
def standard (allocator : AllocatorRef) : DeviceConfig :=
  { extensions := .empty, debug := true, gpuName := "Intel GPU", allocator, compiler := none }

end DeviceConfig

namespace InfoType

def name : InfoType → String
  | .core => "ShaderCreateInfo"
  | .compileRequest => "IntelShaderCreateInfo"

end InfoType

namespace CreateInfo

def bil (code : List UInt8) : CreateInfo :=
  { type := .core, code, flags := 0 }

def glsl (code : List UInt8) : CreateInfo :=
  { type := .compileRequest, code, flags := 0 }

end CreateInfo

end ShaderDriver
