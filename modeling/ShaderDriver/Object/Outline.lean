import ShaderDriver.Object.Basic

namespace ShaderDriver

open Text (Outline)

/-! Objects as they are shown to a developer. -/

def Memory.AllocType.outline (type : Memory.AllocType) : Outline :=
  .word type.name

def Allocation.outline (allocation : Allocation) : Outline :=
  .group .record "Allocation" [.part "size" (.number allocation.size),
    .part "alloc_type" allocation.type.outline]

def Buffer.outline (buffer : Buffer) : Outline :=
  .group .record "HeapBuffer" [.part "data" (.bytes buffer.data),
    .part "allocation" buffer.allocation.outline]

/-- A copy of a create info. -/
def Buffer.recordOutline (buffer : Buffer) : Outline :=
  .group .record "DebugRecord" [.part "create_info" buffer.outline]

def Base.outline (base : Base) : Outline :=
  .group .record "BaseObject" [.part "object_type" (.word base.kind.name),
    .part "allocation" base.allocation.outline,
    .part "dbg" (.optional (base.record.map Buffer.recordOutline))]

def Payload.outline : Payload → Outline
  | .kernel _ => .text "kernel"
  | .program _ => .text "program"

def Ir.outline (ir : Ir) : Outline :=
  .group .record "Ir" [.part "size" (.number ir.size), .part "payload" ir.payload.outline]

def Shader.outline (shader : Shader) : Outline :=
  .group .record "Shader" [.part "ir" shader.ir.outline, .part "base" shader.base.outline,
    .part "flags" (.number shader.flags.toNat)]

def Device.outline (device : Device) : Outline :=
  .group .record "Device" [.part "gpu_name" (.text device.gpuName),
    .part "extensions" device.extensions.outline, .part "debug" (.truth device.debug)]

def DeviceConfig.outline (config : DeviceConfig) : Outline :=
  .group .record "DeviceConfig" [.part "extensions" config.extensions.outline,
    .part "debug" (.truth config.debug), .part "gpu_name" (.text config.gpuName),
    .part "compiler" (.truth config.compiler.isSome)]

def CreateInfo.outline (info : CreateInfo) : Outline :=
  .group .record "ShaderCreateInfo" [.part "s_type" (.word info.type.name),
    .part "code" (.bytes info.code), .part "flags" (.number info.flags.toNat)]

def Error.outline : Error → Outline
  | .outOfMemory => .word "OutOfMemory"
  | .invalidMemorySize => .word "InvalidMemorySize"
  | .badShaderCode => .word "BadShaderCode"
  | .invalidHandle reason => .group .tuple "InvalidHandle" [.text reason]
  | .initializationFailed reason => .group .tuple "InitializationFailed" [.text reason]

end ShaderDriver
