import ShaderDriver.Object.Compile

namespace ShaderDriver

open Container

/-! Making devices and shaders. What was allocated for an object that does not come about is
released again, in the reverse order. -/

/-- Where the form of a shader comes from. -/
inductive Source where
  | bil (container : Bil.Module)
  | glsl (request : Glsl.Request)
deriving DecidableEq, Repr

namespace Source

/-- Reads code as a binary module, with a warning about versions that are not supported. -/
def readBil (code : List UInt8) : Act Bil.Module := do
  let container ← Act.ofExcept (Bil.Module.decode code)
  if container.header.supported then pure container
  else do
    Act.note .warn "xgl::Bil"
      ("BIL version " ++ toString container.header.version.toNat ++
        " differs from supported version " ++ toString Bil.supportedVersion.toNat)
    pure container

/-- Code is a compile request only if the create info says so and the device can compile; in every
other case it has to be a binary module. -/
def select (device : Device) (info : CreateInfo) : Act Source := do
  if device.has .compileGlsl ∧ info.type = .compileRequest then
    let request ← Act.ofExcept (Glsl.Request.decode info.code)
    pure (.glsl request)
  else do
    let container ← readBil info.code
    pure (.bil container)

end Source

namespace Ir

def requestContainer (allocator : AllocatorRef) : Act Allocation :=
  (allocator.request footprint objectAlignment .internalShader).orFail .outOfMemory

/-- The payload of a binary module is the kernel as it stands. -/
def translate (allocator : AllocatorRef) (source : Bil.Module) : Act Ir := do
  let container ← requestContainer allocator
  let kernel ← (Buffer.copyOf allocator source.payload .internalShader).orRelease container.release
  pure { payload := .kernel kernel, size := kernel.data.length, container }

/-- A compiler's program, without which the code counts as bad. -/
def requireProgram (compiler : CompilerRef) (base : Base) (request : Glsl.Request)
    (verdict : Verdict) : Act Program := do
  match ← compiler.createProgram base request verdict with
  | some program => pure program
  | none => do
      Act.note .warn "xgl::Glsl" (request.stage.name ++ " shader failed to compile")
      Act.fail .badShaderCode

/-- The compiler is asked only once the container is there. -/
def compile (device : Device) (base : Base) (request : Glsl.Request) (verdict : Verdict) :
    Act Ir :=
  match device.compiler with
  | none => Act.fail .badShaderCode
  | some compiler => do
      let container ← requestContainer device.allocator
      let program ← (requireProgram compiler base request verdict).orRelease container.release
      pure { payload := .program program, size := request.codeSize, container }

def ofSource (device : Device) (base : Base) (source : Source) (verdict : Verdict) : Act Ir :=
  match source with
  | .bil container => translate device.allocator container
  | .glsl request => compile device base request verdict

end Ir

namespace Shader

def rejection (code : List UInt8) (error : Error) : Act Unit :=
  Act.note .warn "xgl::Shader"
    ("Rejected shader code (" ++ toString code.length ++ " bytes): " ++ error.message)

def announce (device : Device) (ir : Ir) (flags : UInt32) : Act Unit :=
  Act.note .debug "xgl::Shader"
    ("Created shader on " ++ device.gpuName ++ " (" ++ toString ir.size ++ " bytes of IR, flags " ++
      Text.flagWord flags.toNat ++ ")")

/-- The form of a shader and its serial number, for a base that is there already. -/
def complete (device : Device) (base : Base) (info : CreateInfo) (verdict : Verdict) :
    Act Shader := do
  let source ← (Source.select device info).onFailure (rejection info.code)
  let ir ← Ir.ofSource device base source verdict
  let _ ← (announce device ir info.flags).orRelease ir.release
  let id ← Act.freshSerial
  pure { id, maker := device.id, ir, base, flags := info.flags }

def create (device : Device) (info : CreateInfo) (verdict : Verdict) : Act Shader := do
  let base ← Base.create device.allocator device.debug .shader footprint (some info.code)
  (complete device base info verdict).orRelease base.release

end Shader

namespace Device

/-- A device that is to compile GLSL needs a compiler. -/
def create (config : DeviceConfig) : Act Device := do
  if config.extensions.contains .compileGlsl ∧ config.compiler.isNone then
    Act.fail (.initializationFailed "COMPILE_GLSL extension requires a shader compiler")
  else do
    let base ← Base.create config.allocator config.debug .device footprint none
    let id ← Act.freshSerial
    pure
      { id, base
        gpuName := config.gpuName
        extensions := config.extensions
        debug := config.debug
        allocator := config.allocator
        compiler := config.compiler }

end Device

end ShaderDriver
