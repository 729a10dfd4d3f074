import ShaderDriver.Proofs.Act.Upsets
import ShaderDriver.Proofs.Memory.Hiding
import ShaderDriver.Proofs.Registry.Mapping
import ShaderDriver.Session.Holding

namespace ShaderDriver

open Memory Log

/-! Worlds that look alike to someone who does not look at the loggers, or not at the records that
debug devices keep of create infos. -/

/-- The logger has no fault left to panic at. -/
def Log.Logger.faultless : Logger → Bool
  | .capturing faults => faults.isEmpty
  | .console _ => true

theorem Log.Logger.receive_faultless {logger : Logger} (faultless : logger.faultless = true)
    (severity : Severity) : logger.receive severity = (false, logger) := by
  cases logger with
  | console threshold => rfl
  | capturing faults =>
      obtain rfl : faults = [] := List.isEmpty_iff.mp faultless
      rfl

/-- What is not looked at. -/
inductive Leeway where
  | loggers
  | records

namespace Leeway

/-- Whether allocations of a type are not looked at. -/
def hides : Leeway → AllocType → Bool
  | .records, .debug => true
  | _, _ => false

/-- The heap has room for a record that is not looked at. -/
def Fits : Leeway → Heap → List UInt8 → Prop
  | .loggers, _, _ => True
  | .records, heap, bytes => heap.hasRoom bytes.length = true

def flag : Leeway → Bool → Bool
  | .loggers, debug => debug
  | .records, _ => false

/-- Loggers without faults are as good as each other. -/
def Loggers : Leeway → Logger → Logger → Prop
  | .loggers, first, second => first.faultless = true ∧ second.faultless = true
  | .records, first, second => first = second

def sink : Leeway → Sink → Sink
  | .loggers, _ => .captured
  | .records, sink => sink

theorem loggers_console (leeway : Leeway) (threshold : Severity) :
    leeway.Loggers (.console threshold) (.console threshold) := by
  cases leeway with
  | loggers => exact ⟨rfl, rfl⟩
  | records => rfl

section

variable {leeway : Leeway} {first second third : Logger} (alike : leeway.Loggers first second)

include alike

theorem Loggers.symm : leeway.Loggers second first := by
  cases leeway with
  | loggers => exact And.symm alike
  | records => exact Eq.symm alike

theorem Loggers.trans (next : leeway.Loggers second third) : leeway.Loggers first third := by
  cases leeway with
  | loggers => exact ⟨alike.1, next.2⟩
  | records => exact Eq.trans alike next

/-- The loggers panic at the same entries. -/
theorem Loggers.receive (severity : Severity) :
    (first.receive severity).1 = (second.receive severity).1 ∧
      leeway.Loggers (first.receive severity).2 (second.receive severity).2 := by
  cases leeway with
  | loggers =>
      rw [Logger.receive_faultless alike.1, Logger.receive_faultless alike.2]
      exact ⟨rfl, alike⟩
  | records =>
      obtain rfl : first = second := alike
      exact ⟨rfl, rfl⟩

theorem Loggers.sink (severity : Severity) :
    leeway.sink (first.sink severity) = leeway.sink (second.sink severity) := by
  cases leeway with
  | loggers => rfl
  | records =>
      obtain rfl : first = second := alike
      rfl

end

end Leeway

namespace Memory

def Tracker.seen : Leeway → Tracker → Tracker
  | .loggers, tracker => tracker
  | .records, tracker => tracker.withoutRecords

def Allocator.seen : Leeway → Allocator → Allocator
  | .loggers, allocator => allocator
  | .records, allocator => allocator.withoutRecords

end Memory

variable (leeway : Leeway)

/-! What is looked at in an object. -/

def Base.seen (base : Base) : Base :=
  { base with record := base.record.filter fun record => !leeway.hides record.allocation.type }

def Shader.seen (shader : Shader) : Shader :=
  { shader with base := shader.base.seen leeway }

def Device.seen (device : Device) : Device :=
  { device with base := device.base.seen leeway, debug := leeway.flag device.debug }

def DeviceConfig.seen (config : DeviceConfig) : DeviceConfig :=
  { config with debug := leeway.flag config.debug }

def ShaderEntry.seen (entry : ShaderEntry) : ShaderEntry :=
  { entry with shader := entry.shader.seen leeway }

def Registries.seen (all : Registries) : Registries :=
  { devices :=
      { content := all.devices.content.mapped (Device.seen leeway)
        poisoned := all.devices.poisoned }
    shaders :=
      { content := all.shaders.content.mapped (ShaderEntry.seen leeway)
        poisoned := all.shaders.poisoned } }

def Held.seen : Held → Held
  | .base own => .base (own.seen leeway)
  | .device shared => .device (shared.seen leeway)
  | .shader shared => .shader (shared.seen leeway)
  | object => object

/-! Without the loggers all of an object is looked at. -/

theorem Base.seen_loggers (base : Base) : base.seen .loggers = base := by
  have kept : base.record.filter (fun _ => true) = base.record := by cases base.record <;> rfl
  exact congrArg (Base.mk base.kind base.allocation) kept

theorem Shader.seen_loggers (shader : Shader) : shader.seen .loggers = shader := by
  rw [Shader.seen, Base.seen_loggers]

theorem Device.seen_loggers (device : Device) : device.seen .loggers = device := by
  rw [Device.seen, Base.seen_loggers]
  rfl

theorem Held.seen_loggers (object : Held) : object.seen .loggers = object := by
  cases object with
  | base own => exact congrArg Held.base own.seen_loggers
  | device shared => exact congrArg Held.device shared.seen_loggers
  | shader shared => exact congrArg Held.shader shared.seen_loggers
  | _ => rfl

/-- Objects that look alike are the same, or differ in what is not looked at. -/
inductive Held.Alike : Held → Held → Prop where
  | same (object : Held) : Alike object object
  | base {own other : Base} (alike : own.seen leeway = other.seen leeway) :
      Alike (.base own) (.base other)
  | device {shared other : Device} (alike : shared.seen leeway = other.seen leeway) :
      Alike (.device shared) (.device other)
  | shader {shared other : Shader} (alike : shared.seen leeway = other.seen leeway) :
      Alike (.shader shared) (.shader other)

theorem Held.Alike.seen {leeway : Leeway} {object other : Held} (alike : object.Alike leeway other) :
    object.seen leeway = other.seen leeway := by
  cases alike with
  | same => rfl
  | base alike => exact congrArg Held.base alike
  | device alike => exact congrArg Held.device alike
  | shader alike => exact congrArg Held.shader alike

theorem Held.alike_of_seen {leeway : Leeway} {object other : Held}
    (alike : object.seen leeway = other.seen leeway) : object.Alike leeway other := by
  cases object <;> cases other <;>
    simp only [Held.seen, reduceCtorEq, Held.base.injEq, Held.device.injEq, Held.shader.injEq] at alike
  case base.base => exact .base alike
  case device.device => exact .device alike
  case shader.shader => exact .shader alike
  all_goals
    rw [alike]
    exact .same _

/-- What is looked at when something happens, if anything is. -/
def Event.seen? : Event → Option Event
  | .requested allocator size alignment type granted =>
      if leeway.hides type then none else some (.requested allocator size alignment type granted)
  | .released allocator size type =>
      if leeway.hides type then none else some (.released allocator size type)
  | .logged record sink => some (.logged record (leeway.sink sink))
  | .compiling compiler request base => some (.compiling compiler request (base.seen leeway))
  | event => some event

namespace World

/-- Nothing that is looked at tells the worlds apart, which are on one heap. -/
structure Alike (heap : Heap) (world image : World) : Prop where
  here : world.heap = heap
  there : image.heap = heap
  allocators : ∀ serial,
    (world.allocators serial).seen leeway = (image.allocators serial).seen leeway
  compilers : world.compilers = image.compilers
  logger : leeway.Loggers world.logger image.logger
  registries : world.registries.map (Registries.seen leeway) =
    image.registries.map (Registries.seen leeway)
  held : world.held.map (Prod.map id (Held.seen leeway)) =
    image.held.map (Prod.map id (Held.seen leeway))
  nextSerial : world.nextSerial = image.nextSerial
  trace : world.trace.filterMap (Event.seen? leeway) = image.trace.filterMap (Event.seen? leeway)

variable {leeway : Leeway} {heap : Heap} {world image other : World}

theorem Alike.symm (alike : world.Alike leeway heap image) : image.Alike leeway heap world :=
  ⟨alike.there, alike.here, fun serial => (alike.allocators serial).symm, alike.compilers.symm,
    alike.logger.symm, alike.registries.symm, alike.held.symm, alike.nextSerial.symm, alike.trace.symm⟩

theorem Alike.trans (first : world.Alike leeway heap image)
    (second : image.Alike leeway heap other) : world.Alike leeway heap other :=
  ⟨first.here, second.there,
    fun serial => (first.allocators serial).trans (second.allocators serial),
    first.compilers.trans second.compilers, first.logger.trans second.logger,
    first.registries.trans second.registries, first.held.trans second.held,
    first.nextSerial.trans second.nextSerial, first.trace.trans second.trace⟩

/-- What is looked at in the objects that are held. -/
def withHeldSeen (leeway : Leeway) (world : World) : World :=
  { world with held := world.held.map (Prod.map id (Held.seen leeway)) }

theorem heldDevices_seen (world : World) :
    world.heldDevices.map (Device.seen leeway) = (world.withHeldSeen leeway).heldDevices := by
  simp only [World.heldDevices, withHeldSeen, List.map_filterMap, List.filterMap_map]
  congr 1
  funext ⟨name, object⟩
  cases object <;> rfl

theorem heldShaders_seen (world : World) :
    world.heldShaders.map (Shader.seen leeway) = (world.withHeldSeen leeway).heldShaders := by
  simp only [World.heldShaders, withHeldSeen, List.map_filterMap, List.filterMap_map]
  congr 1
  funext ⟨name, object⟩
  cases object <;> rfl

namespace Alike

variable (alike : world.Alike leeway heap image)

include alike

theorem registeredDevices : world.registeredDevices.map (Device.seen leeway) =
    image.registeredDevices.map (Device.seen leeway) := by
  unfold World.registeredDevices
  obtain ⟨here, there⟩ | ⟨all, left, here, there, same⟩ := option_alike alike.registries <;>
    rw [here, there]
  have devices := congrArg (fun seen => seen.devices.content.values) same
  simpa only [Registries.seen, Registry.values_mapped] using devices

theorem registeredShaders : world.registeredShaders.map (Shader.seen leeway) =
    image.registeredShaders.map (Shader.seen leeway) := by
  unfold World.registeredShaders
  obtain ⟨here, there⟩ | ⟨all, left, here, there, same⟩ := option_alike alike.registries <;>
    rw [here, there]
  have shaders := congrArg (fun seen => seen.shaders.content.values.map ShaderEntry.shader) same
  simp only [Registries.seen, Registry.values_mapped, List.map_map] at shaders ⊢
  exact shaders

theorem heldDevices : world.heldDevices.map (Device.seen leeway) =
    image.heldDevices.map (Device.seen leeway) := by
  rw [world.heldDevices_seen, image.heldDevices_seen, World.withHeldSeen, World.heldDevices,
    alike.held]
  rfl

theorem heldShaders : world.heldShaders.map (Shader.seen leeway) =
    image.heldShaders.map (Shader.seen leeway) := by
  rw [world.heldShaders_seen, image.heldShaders_seen, World.withHeldSeen, World.heldShaders,
    alike.held]
  rfl

/-- The same objects are referred to. -/
theorem hasDevice {device echo : Device} (same : device.id = echo.id) :
    world.hasDevice device = image.hasDevice echo := by
  have ids (devices : List Device) : (devices.any fun other => other.id == device.id) =
      (devices.map (Device.seen leeway)).any fun other => other.id == device.id := by
    rw [List.any_map]
    rfl
  rw [World.hasDevice, World.hasDevice, ← same, ids, List.map_append, alike.registeredDevices,
    alike.heldDevices, ← List.map_append, ← ids]

theorem hasShader {shader echo : Shader} (same : shader.id = echo.id) :
    world.hasShader shader = image.hasShader echo := by
  have ids (shaders : List Shader) : (shaders.any fun other => other.id == shader.id) =
      (shaders.map (Shader.seen leeway)).any fun other => other.id == shader.id := by
    rw [List.any_map]
    rfl
  rw [World.hasShader, World.hasShader, ← same, ids, List.map_append, alike.registeredShaders,
    alike.heldShaders, ← List.map_append, ← ids]

/-! What is held under a name. -/

theorem held? (name : String) :
    (world.held? name).map (Held.seen leeway) = (image.held? name).map (Held.seen leeway) := by
  have seen (held : List (String × Held)) : (held.lookup name).map (Held.seen leeway) =
      (held.map (Prod.map id (Held.seen leeway))).lookup name := by
    induction held with
    | nil => rfl
    | cons entry rest ih =>
        obtain ⟨other, object⟩ := entry
        simp only [List.map_cons, List.lookup_cons, Prod.map, id]
        split
        · rfl
        · exact ih
  rw [World.held?, World.held?, seen, seen, alike.held]

end Alike

end World

end ShaderDriver
