import ShaderDriver.EntryPoint.Lock

namespace ShaderDriver.EntryPoint

/-! The entry points of the driver. -/

/-- There are registries afterwards; those that were there stay. -/
def startUp : Act Unit :=
  Act.change fun world => { world with registries := some (world.registries.getD .empty) }

/-- Ends every registered shader and then every registered device, each by index. A poisoned
registry is left as it is. -/
def shutdown : Act Unit := fun world =>
  match world.registries with
  | none => (.done (), world)
  | some all =>
      let shaders := if all.shaders.poisoned then [] else all.shaders.content.values
      let devices := if all.devices.poisoned then [] else all.devices.content.values
      let left : Registries :=
        { devices := if all.devices.poisoned then all.devices else { all.devices with content := .empty }
          shaders := if all.shaders.poisoned then all.shaders else { all.shaders with content := .empty } }
      (Act.releaseEach (fun entry => entry.shader.letGo) shaders).thenRelease
        (Act.releaseEach Device.letGo devices) { world with registries := some left }

/-- Makes a device that was created known under a handle. -/
def registerDevice (device : Device) : Act (Handle .device) := do
  let all ← registries
  let devices ← unlocked .device all.devices
  let (handle, next) := devices.insert device
  setDevices next
  pure handle

/-- A new device and the handle under which it is known. -/
def admitDevice (config : DeviceConfig) : Act (Handle .device × Device) := do
  let _ ← registries
  let device ← (Device.create config).onFailure Act.logError
  let handle ← (registerDevice device).orRelease device.teardown
  pure (handle, device)

def createDevice (config : DeviceConfig) : Act (Handle .device) := do
  let (handle, _) ← admitDevice config
  Act.note .info "xgl::Icd"
    ("Created device " ++ handle.typedText ++ " on " ++ config.gpuName ++ " (extensions: " ++
      config.extensions.text ++ ")")
  pure handle

/-- The device of a handle. -/
def device (handle : Handle .device) : Act Device := do
  let all ← registries
  let devices ← unlocked .device all.devices
  match devices.get? handle with
  | some found => pure found
  | none => Act.failLogged (unknown handle)

/-- Takes the shaders that were asked of a device out of their registry, and gives them by index. -/
def takeOwned (owner : Handle .device) : Act (List Shader) := do
  let all ← registries
  let shaders ← unlocked .shader all.shaders
  let owned := shaders.entries.filter fun entry => entry.2.owner == owner
  setShaders (shaders.eraseAll (owned.map Prod.fst))
  pure (owned.map fun entry => entry.2.shader)

/-- The end of a device that is no longer registered, and of the shaders that were asked of it. -/
def dismiss (handle : Handle .device) : Act Unit := do
  let orphans ← takeOwned handle
  (Act.note .info "xgl::Icd"
    ("Destroyed device " ++ handle.typedText ++ " (" ++ toString orphans.length ++
      " shaders released)")).thenRelease
    (Act.releaseEach Shader.letGo orphans)

def destroyDevice (handle : Handle .device) : Act Unit := do
  let all ← registries
  let devices ← unlocked .device all.devices
  match devices.get? handle with
  | none => writing .device (Act.failLogged (unknown handle))
  | some found => do
      setDevices (devices.erase handle)
      (dismiss handle).thenRelease found.letGo

/-- Makes a finished shader known under a handle. -/
def registerShader (owner : Handle .device) (shader : Shader) : Act (Handle .shader) := do
  let all ← registries
  let shaders ← unlocked .shader all.shaders
  let (handle, next) := shaders.insert { owner, shader }
  setShaders next
  pure handle

/-- A new shader and the handle under which it is known. -/
def admitShader (owner : Handle .device) (info : CreateInfo) (verdict : Verdict) :
    Act (Handle .shader × Shader) := do
  let maker ← device owner
  let shader ← Shader.create maker info verdict
  let handle ← (registerShader owner shader).orRelease shader.teardown
  pure (handle, shader)

/-- The form of the code is decided by the create info and the device. -/
def createShader (owner : Handle .device) (info : CreateInfo) (verdict : Verdict) :
    Act (Handle .shader) := do
  let (handle, _) ← admitShader owner info verdict
  pure handle

/-- The entry point of the extension; it does not turn code into a compile request either. -/
def createShaderFromGlsl (owner : Handle .device) (info : CreateInfo) (verdict : Verdict) :
    Act (Handle .shader) :=
  createShader owner info verdict

/-- An entry point in the form that gives a result code, and a handle only with success. -/
def raw {α : Type} (act : Act α) : Act (Option α × ResultCode) := fun world =>
  match act world with
  | (.done value, after) => (.done (some value, .success), after)
  | (.failed error, after) => (.done (none, error.code), after)
  | (.unwound, after) => (.unwound, after)

/-- The shader of a handle. -/
def shader (handle : Handle .shader) : Act Shader := do
  let all ← registries
  let shaders ← unlocked .shader all.shaders
  match shaders.get? handle with
  | some entry => pure entry.shader
  | none => Act.failLogged (unknown handle)

/-- The handle is of no use afterwards; the shader ends with the last reference to it. -/
def destroyObject (handle : Handle .shader) : Act Unit := do
  let all ← registries
  let shaders ← unlocked .shader all.shaders
  match shaders.get? handle with
  | none => writing .shader (Act.failLogged (unknown handle))
  | some entry => do
      setShaders (shaders.erase handle)
      entry.shader.letGo

/-- Without registries or behind a poisoned lock no shader is counted. -/
def shaderCount (world : World) : Nat :=
  match world.registries with
  | none => 0
  | some all => if all.shaders.poisoned then 0 else all.shaders.content.size

def setLogger (logger : Log.Logger) : Act Unit :=
  Act.change fun world => { world with logger }

/-- The console takes over, with the threshold that the environment asks for. -/
def resetLogger (environment : Option String) : Act Unit :=
  setLogger (.console (Log.Severity.ofEnvironment environment))

end ShaderDriver.EntryPoint
