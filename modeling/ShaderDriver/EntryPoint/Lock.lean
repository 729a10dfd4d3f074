import ShaderDriver.Object.Creation

namespace ShaderDriver.EntryPoint

/-! The registries behind their locks. A registry whose lock is poisoned is neither read nor
changed. -/

def notInitialized : Error :=
  .initializationFailed "ICD not initialized. Call Icd::initialize() first."

def registryPoisoned (kind : ObjectKind) : Error :=
  .initializationFailed (kind.name ++ " registry lock poisoned")

def unknown {kind : ObjectKind} (handle : Handle kind) : Error :=
  .invalidHandle ("unknown " ++ (match kind with | .device => "device " | .shader => "shader ") ++
    handle.typedText)

/-- The registries of a driver that was initialised. -/
def registries : Act Registries := fun world =>
  match world.registries with
  | some registries => (.done registries, world)
  | none => Act.failLogged notInitialized world

/-- The content of a registry, unless its lock is poisoned. -/
def unlocked {α : Type} (kind : ObjectKind) (guarded : Guarded α) : Act α :=
  if guarded.poisoned then Act.failLogged (registryPoisoned kind) else pure guarded.content

def changeRegistries (update : Registries → Registries) : Act Unit :=
  Act.change fun world => { world with registries := world.registries.map update }

def setDevices (devices : Registry .device Device) : Act Unit :=
  changeRegistries fun all => { all with devices := { all.devices with content := devices } }

def setShaders (shaders : Registry .shader ShaderEntry) : Act Unit :=
  changeRegistries fun all => { all with shaders := { all.shaders with content := shaders } }

def poison (kind : ObjectKind) : Act Unit :=
  changeRegistries fun all =>
    match kind with
    | .device => { all with devices := { all.devices with poisoned := true } }
    | .shader => { all with shaders := { all.shaders with poisoned := true } }

/-- An action with the lock of a registry held for writing: a panic poisons it. -/
def writing {α : Type} (kind : ObjectKind) (act : Act α) : Act α := fun world =>
  match act world with
  | (.unwound, after) => ((.unwound : Exit α), (poison kind after).2)
  | finished => finished

end ShaderDriver.EntryPoint
