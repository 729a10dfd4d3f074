import ShaderDriver.EntryPoint.Calls
import ShaderDriver.Session.Command
import ShaderDriver.Session.Holding

namespace ShaderDriver.Session

open Memory Container

/-! Carrying out commands. -/

def newAllocator (label : Option String) (allocator : Allocator) : Act AllocatorRef := do
  let serial ← Act.freshSerial
  Act.change fun world => { world with allocators := world.allocators.set serial allocator }
  pure { serial, label }

def newCompiler (label : Option String) (compiler : Compiler) : Act CompilerRef := do
  let serial ← Act.freshSerial
  Act.change fun world => { world with compilers := world.compilers.set serial compiler }
  pure { serial, label }

namespace Settings

/-- A device without an allocator of the application is given one of its own. -/
def allocatorRef (settings : Settings) : Act AllocatorRef := do
  match ← Act.read fun world => settings.allocator.bind world.allocator? with
  | some found => pure found
  | none => newAllocator none (.tracking (.withBudget none))

/-- The configuration with these settings. A compiler that is not held counts as missing. -/
def config (settings : Settings) : Act DeviceConfig := do
  let allocator ← settings.allocatorRef
  let standard := DeviceConfig.standard allocator
  Act.read fun world =>
    { extensions := settings.extensions.getD standard.extensions
      debug := settings.debug.getD standard.debug
      gpuName := settings.gpuName.getD standard.gpuName
      allocator
      compiler := settings.compiler.bind world.compiler? }

end Settings

def layOut (onLines : Bool) (outline : Text.Outline) : String :=
  if onLines then outline.onLines else outline.onOneLine

/-- An object as a value, for the kinds of object that have parts to show. -/
def inspect? : Held → Option Value
  | .allocator _ => none
  | .compiler _ => none
  | object => some (.object object)

/-- The outline of an object; of the compilers only front ends have one. -/
def outline? (world : World) : Held → Option Text.Outline
  | .buffer shown => some shown.outline
  | .base shown => some shown.outline
  | .device shown => some shown.outline
  | .shader shown => some shown.outline
  | .ir shown => some shown.outline
  | .compiler shown =>
      match world.compilers shown.serial with
      | .frontEnd state => some state.counts.outline
      | .scripted _ => none
  | .allocator _ => none
  | .program _ => none

/-- Keeps an object that was made, and shows it. -/
def keepAndShow (into : Option String) (object : Held) : Act (Option Value) := do
  keep into object
  pure (some (.object object))

def noObject : Act (Option Value) :=
  pure none

def silently (act : Act Unit) : Act (Option Value) := do
  act
  pure (some .nothing)

def setMode (self : CompilerRef) (mode : Mode) : Act (Option Value) := fun world =>
  match world.compilers self.serial with
  | .scripted state =>
      (.done (some .nothing),
        { world with
          compilers := world.compilers.set self.serial (.scripted { state with mode }) })
  | .frontEnd _ => (.done none, world)

def failNth (allocator : AllocatorRef) (n : Nat) : Act Unit :=
  Act.change fun world =>
    { world with
      allocators := world.allocators.set allocator.serial
        ((world.allocators allocator.serial).failNth n) }

def accounts (allocator : AllocatorRef) (world : World) : Option Value :=
  match world.allocators allocator.serial with
  | .tracking tracker => some (.accounts tracker)
  | .answering _ => none

/-- An entry point for shaders, with its answer as a value. -/
def createShader (call : CreationCall) (owner : Handle .device) (info : CreateInfo)
    (verdict : Verdict) : Act Value :=
  match call with
  | .core => do
      let handle ← EntryPoint.createShader owner info verdict
      pure (.shaderHandle handle)
  | .glsl => do
      let handle ← EntryPoint.createShaderFromGlsl owner info verdict
      pure (.shaderHandle handle)
  | .rawCore => do
      let (handle, code) ← EntryPoint.raw (EntryPoint.createShader owner info verdict)
      pure (.raw handle code)
  | .rawGlsl => do
      let (handle, code) ← EntryPoint.raw (EntryPoint.createShaderFromGlsl owner info verdict)
      pure (.raw handle code)

def MemoryCommand.run (command : MemoryCommand) (world : World) : Act (Option Value) :=
  match command with
  | .makeAllocator into budget => silently do
      let made ← newAllocator (some into) (.tracking (.withBudget budget))
      keep (some into) (.allocator made)
  | .rawAlloc name size alignment type =>
      match world.allocator? name with
      | none => noObject
      | some allocator => do
          let granted ← allocator.request size alignment type
          pure (some (.truth granted.isSome))
  | .rawFree name size type =>
      match world.allocator? name with
      | none => noObject
      | some allocator => silently (Allocation.release { allocator, size, type })
  | .failNth name n =>
      match world.allocator? name with
      | none => noObject
      | some allocator => silently (Session.failNth allocator n)
  | .accounts name =>
      match world.allocator? name with
      | none => noObject
      | some allocator => Act.read (Session.accounts allocator)
  | .makeBuffer into name size type =>
      match world.allocator? name with
      | none => noObject
      | some allocator => do
          match ← Buffer.zeroed allocator size type with
          | none => pure (some .nothing)
          | some buffer => keepAndShow into (.buffer buffer)
  | .writeBuffer name start data =>
      match world.buffer? name with
      | none => noObject
      | some buffer => do
          let written ← buffer.write start data
          Act.change fun world => world.hold name (.buffer written)
          pure (some (.bytes written.data))
  | .makeBase into name debug kind size info =>
      match world.allocator? name with
      | none => noObject
      | some allocator => do
          let base ← Base.create allocator debug kind size info
          keepAndShow into (.base base)

def CompilerCommand.run (command : CompilerCommand) (world : World) : Act (Option Value) :=
  match command with
  | .makeScripted into entryPoint => silently do
      let made ← newCompiler (some into) (.scripted (.fresh entryPoint))
      keep (some into) (.compiler made)
  | .makeFrontEnd into => silently do
      let made ← newCompiler none (.frontEnd .fresh)
      keep (some into) (.compiler made)
  | .setMode name mode =>
      match world.compiler? name with
      | none => noObject
      | some compiler => Session.setMode compiler mode
  | .state name =>
      match world.compiler? name with
      | none => noObject
      | some compiler => pure (some (.compiler (world.compilers compiler.serial)))
  | .makeProgram into name baseName code verdict =>
      match world.compiler? name, world.base? baseName with
      | some compiler, some base => do
          let request ← Act.ofExcept (Glsl.Request.decode code)
          match ← compiler.createProgram base request verdict with
          | none => pure (some .nothing)
          | some program => keepAndShow into (.program program)
      | _, _ => noObject

def DeviceCommand.run (command : DeviceCommand) (world : World) : Act (Option Value) :=
  match command with
  | .describe settings onLines => do
      let config ← settings.config
      pure (some (.text (layOut onLines config.outline)))
  | .create into settings => do
      let config ← settings.config
      let device ← Device.create config
      keepAndShow into (.device device)
  | .select name info =>
      match world.device? name with
      | none => noObject
      | some device => do
          let source ← Source.select device info
          pure (some (.source source))
  | .createShader into name info verdict =>
      match world.device? name with
      | none => noObject
      | some device => do
          let shader ← Shader.create device info verdict
          keepAndShow into (.shader shader)
  | .translate into name code =>
      match world.device? name with
      | none => noObject
      | some device => do
          let container ← Source.readBil code
          let ir ← Ir.translate device.allocator container
          keepAndShow into (.ir ir)
  | .compile into name baseName code verdict =>
      match world.device? name, world.base? baseName with
      | some device, some base => do
          let request ← Act.ofExcept (Glsl.Request.decode code)
          let ir ← Ir.compile device base request verdict
          keepAndShow into (.ir ir)
      | _, _ => noObject

def CallCommand.run : CallCommand → Act (Option Value)
  | .startUp => silently EntryPoint.startUp
  | .shutdown => silently EntryPoint.shutdown
  | .shaderCount => Act.read fun world => some (.number (EntryPoint.shaderCount world))
  | .createDevice settings => do
      let config ← settings.config
      let handle ← EntryPoint.createDevice config
      pure (some (.deviceHandle handle))
  | .device into handle => do
      let device ← EntryPoint.device handle
      keepAndShow into (.device device)
  | .destroyDevice handle => silently (EntryPoint.destroyDevice handle)
  | .createShader call owner info verdict => do
      let value ← Session.createShader call owner info verdict
      pure (some value)
  | .shader into handle => do
      let shader ← EntryPoint.shader handle
      keepAndShow into (.shader shader)
  | .destroyObject handle => silently (EntryPoint.destroyObject handle)
  | .log record => silently (Act.log record)
  | .setLogger faults => silently (EntryPoint.setLogger (.capturing faults))
  | .resetLogger environment => silently (EntryPoint.resetLogger environment)

def HeldCommand.run (command : HeldCommand) (world : World) : Act (Option Value) :=
  match command with
  | .inspect name => pure ((world.held? name).bind inspect?)
  | .describe name onLines =>
      pure (((world.held? name).bind (outline? world)).map fun outline =>
        .text (layOut onLines outline))
  | .letGo name =>
      match world.held? name with
      | none => noObject
      | some object => silently do
          Act.change fun world => world.withoutName name
          object.letGo

/-- Names in a command are those of the world in which it is given. -/
def Command.run (command : Command) : Act (Option Value) := fun world =>
  match command with
  | .memory command => command.run world world
  | .compiler command => command.run world world
  | .device command => command.run world world
  | .call command => command.run world
  | .held command => command.run world world

/-- One command, watched from its start. -/
def step (world : World) (command : Command) : Answer × World :=
  let (exit, after) := command.run { world with trace := [] }
  ({ exit, events := after.trace }, after)

/-- The answers to commands given one after the other, and the world they leave. -/
def run (world : World) : List Command → List Answer × World
  | [] => ([], world)
  | command :: rest =>
      let (answer, after) := step world command
      let (answers, last) := run after rest
      (answer :: answers, last)

end ShaderDriver.Session
