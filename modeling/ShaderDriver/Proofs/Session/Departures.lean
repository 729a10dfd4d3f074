import ShaderDriver.Proofs.Act.Leeway
import ShaderDriver.Proofs.Object.Ceremony
import ShaderDriver.Proofs.Session.Accounting

namespace ShaderDriver

open Memory Act

/-! What goes with objects that are not registered any more, as one equation for each kind. -/

theorem Log.Logger.sink_receive (logger : Log.Logger) (severity other : Log.Severity) :
    (logger.receive severity).2.sink other = logger.sink other := by
  unfold receive
  repeat' split
  all_goals rfl

/-! Teardowns. -/

/-- The allocators after an allocation was given back. -/
def Allocation.withdrawn (allocators : Cells Allocator) (allocation : Allocation) :
    Cells Allocator :=
  allocators.set allocation.allocator.serial
    ((allocators allocation.allocator.serial).free allocation.size allocation.type).2

theorem Allocation.release_world (allocation : Allocation) (world : World) :
    (allocation.release world).2 = { world with
      allocators := withdrawn world.allocators allocation
      trace := world.trace ++ [allocation.returned] } := by
  unfold release withdrawn
  rcases (world.allocators allocation.allocator.serial).free allocation.size allocation.type
    with ⟨inOrder, next⟩
  rfl

theorem Base.release_world (base : Base) (world : World) :
    (base.release world).2 = { world with
      allocators := base.allocations.foldl Allocation.withdrawn world.allocators
      trace := world.trace ++ base.allocations.map Allocation.returned } := by
  unfold release allocations
  cases base.record with
  | none => exact base.allocation.release_world world
  | some record =>
      simp only
      rw [thenRelease_world, Buffer.release, Allocation.release_world, Allocation.release_world]
      simp only [List.append_assoc]
      rfl

namespace Payload

def allocations : Payload → List Allocation
  | .kernel buffer => [buffer.allocation]
  | .program _ => []

/-- The compilers after the payload's program was destroyed, if it is one. -/
def forgotten (compilers : Cells Compiler) : Payload → Cells Compiler
  | .kernel _ => compilers
  | .program made => compilers.set made.compiler.serial (compilers made.compiler.serial).forget

theorem release_world (payload : Payload) (world : World) :
    (payload.release world).2 = { world with
      allocators := payload.allocations.foldl Allocation.withdrawn world.allocators
      compilers := payload.forgotten world.compilers
      trace := world.trace ++ [payload.ended] } := by
  cases payload with
  | kernel buffer => exact buffer.allocation.release_world world
  | program made => rfl

end Payload

theorem Ir.release_world (ir : Ir) (world : World) :
    (ir.release world).2 = { world with
      allocators :=
        (ir.payload.allocations ++ [ir.container]).foldl Allocation.withdrawn world.allocators
      compilers := ir.payload.forgotten world.compilers
      trace := world.trace ++ [ir.payload.ended, ir.container.returned] } := by
  unfold release
  rw [thenRelease_world, Allocation.release_world, Payload.release_world, List.foldl_append]
  simp only [List.append_assoc]
  rfl

theorem Act.log_world (record : Log.Record) (world : World) :
    (Act.log record world).2 = { world with
      logger := (world.logger.receive record.severity).2
      trace := world.trace ++ [.logged record (world.logger.sink record.severity)] } := by
  unfold Act.log
  rcases world.logger.receive record.severity with ⟨panics, next⟩
  rfl

/-- All that the end of a shader changes, whether something panics or not. -/
theorem Shader.teardown_world (shader : Shader) (world : World) :
    (shader.teardown world).2 = { world with
      allocators := (shader.ir.payload.allocations ++ [shader.ir.container] ++
        shader.base.allocations).foldl Allocation.withdrawn world.allocators
      compilers := shader.ir.payload.forgotten world.compilers
      logger := (world.logger.receive .trace).2
      trace := world.trace ++ shader.ceremony (world.logger.sink .trace) } := by
  calc (shader.teardown world).2
    _ = { world with
          allocators := (shader.ir.payload.allocations ++ [shader.ir.container] ++
            shader.base.allocations).foldl Allocation.withdrawn world.allocators
          compilers := shader.ir.payload.forgotten world.compilers
          logger := (world.logger.receive .trace).2
          trace := (shader.teardown world).2.trace } := by
        rw [List.foldl_append, teardown_run, thenRelease_world, thenRelease_world,
          Base.release_world, Ir.release_world, Act.log_world]
        rfl
    _ = _ := by rw [teardown_trace]

/-- An end without an entry in the log. -/
def Device.ceremony (device : Device) : List Event :=
  .ending .device device.id :: device.base.allocations.map Allocation.returned

theorem Device.teardown_world (device : Device) (world : World) :
    (device.teardown world).2 = { world with
      allocators := device.base.allocations.foldl Allocation.withdrawn world.allocators
      trace := world.trace ++ device.ceremony } := by
  change (device.base.release { world with
    trace := world.trace ++ [.ending .device device.id] }).2 = _
  rw [Base.release_world]
  simp only [Device.ceremony, List.append_assoc]
  rfl

/-! References. -/

/-- What is registered has numbers of its own, and nothing else is held under one of them. -/
structure Apart {α : Type} (number : α → Nat) (registered held : List α) : Prop where
  distinct : (registered.map number).Nodup
  same : ∀ item ∈ registered, ∀ other ∈ held, number other = number item → other = item

namespace Apart

variable {α : Type} {number : α → Nat} {registered held left : List α} {item : α}

theorem of_same (once : registered.Nodup)
    (same : ∀ first ∈ registered ++ held, ∀ second ∈ registered ++ held,
      number first = number second → first = second) : Apart number registered held where
  distinct := once.map_on fun first one second two =>
    same first (List.mem_append_left _ one) second (List.mem_append_left _ two)
  same item member other kept :=
    same other (List.mem_append_right _ kept) item (List.mem_append_left _ member)

theorem any_iff (apart : Apart number registered held) (member : item ∈ registered)
    (gone : number item ∉ left.map number) :
    ((left ++ held).any fun other => number other == number item) = true ↔ item ∈ held := by
  simp only [List.any_eq_true, List.mem_append, beq_iff_eq]
  constructor
  · rintro ⟨other, listed | kept, same⟩
    · exact absurd (same ▸ List.mem_map_of_mem listed) gone
    · exact apart.same item member other kept same ▸ kept
  · exact fun kept => ⟨item, .inr kept, rfl⟩

end Apart

namespace World

variable {world after last : World} {serial : Nat}

theorem registeredShaders_eq {all : Registries} (present : world.registries = some all) :
    world.registeredShaders = all.shaders.content.values.map ShaderEntry.shader := by
  rw [registeredShaders, present]

theorem registeredDevices_eq {all : Registries} (present : world.registries = some all) :
    world.registeredDevices = all.devices.content.values := by
  rw [registeredDevices, present]

structure Numbered (world : World) : Prop where
  shaders : Apart Shader.id world.registeredShaders world.heldShaders
  devices : Apart Device.id world.registeredDevices world.heldDevices

theorem Keeps.numbered (keeps : world.Keeps serial 0) : world.Numbered := by
  have same := keeps.consistent.same
  rw [zero_add] at same
  constructor
  · exact .of_same keeps.orderly.shaders fun first one second two number =>
      Held.shader.inj (same _ (mem_shaders.mp one) _ (mem_shaders.mp two) rfl
        (congrArg (fun id => some (ObjectKind.shader, id)) number))
  · exact .of_same keeps.orderly.devices fun first one second two number =>
      Held.device.inj (same _ (mem_devices.mp one) _ (mem_devices.mp two) rfl
        (congrArg (fun id => some (ObjectKind.device, id)) number))

/-- A shader that has left the registry is referred to by the application or not at all. -/
theorem Numbered.shader (numbered : world.Numbered) {shader : Shader}
    (held : after.held = world.held) (member : shader ∈ world.registeredShaders)
    (gone : shader.id ∉ after.registeredShaders.map Shader.id) :
    after.hasShader shader = true ↔ shader ∈ after.heldShaders := by
  have kept : after.heldShaders = world.heldShaders := by rw [heldShaders, held, heldShaders]
  unfold hasShader
  rw [kept]
  exact numbered.shaders.any_iff member gone

theorem Numbered.device (numbered : world.Numbered) {device : Device}
    (held : after.held = world.held) (member : device ∈ world.registeredDevices)
    (gone : device.id ∉ after.registeredDevices.map Device.id) :
    after.hasDevice device = true ↔ device ∈ after.heldDevices := by
  have kept : after.heldDevices = world.heldDevices := by rw [heldDevices, held, heldDevices]
  unfold hasDevice
  rw [kept]
  exact numbered.devices.any_iff member gone

/-- The registries and the names are as they were, and entries go where they went. -/
structure Stands (world after : World) : Prop where
  registries : after.registries = world.registries
  held : after.held = world.held
  sink : after.logger.sink = world.logger.sink
  faultless : world.logger.faultless = true → after.logger = world.logger

theorem Stands.refl (world : World) : world.Stands world := ⟨rfl, rfl, rfl, fun _ => rfl⟩

theorem Stands.trans (first : world.Stands after) (second : after.Stands last) :
    world.Stands last where
  registries := second.registries.trans first.registries
  held := second.held.trans first.held
  sink := second.sink.trans first.sink
  faultless calm := (second.faultless (first.faultless calm ▸ calm)).trans (first.faultless calm)

theorem log_stands (record : Log.Record) (world : World) :
    world.Stands (Act.log record world).2 := by
  rw [Act.log_world]
  exact ⟨rfl, rfl, funext (world.logger.sink_receive record.severity),
    fun calm => congrArg Prod.snd (Log.Logger.receive_faultless calm record.severity)⟩

/-- The world without a shader that is not registered any more, unless the application has it. -/
def loseShader (world : World) (shader : Shader) : World :=
  if shader ∈ world.heldShaders then world else (shader.teardown world).2

def loseDevice (world : World) (device : Device) : World :=
  if device ∈ world.heldDevices then world else (device.teardown world).2

/-- What is seen of a shader when it is not registered any more. -/
def shaderLeaves (world : World) (shader : Shader) : List Event :=
  if shader ∈ world.heldShaders then [] else shader.ceremony (world.logger.sink .trace)

def deviceLeaves (world : World) (device : Device) : List Event :=
  if device ∈ world.heldDevices then [] else device.ceremony

theorem loseShader_stands (world : World) (shader : Shader) :
    world.Stands (world.loseShader shader) := by
  unfold loseShader
  split
  · exact .refl world
  · rw [Shader.teardown_world]
    exact ⟨rfl, rfl, funext (world.logger.sink_receive .trace),
      fun calm => congrArg Prod.snd (Log.Logger.receive_faultless calm .trace)⟩

theorem loseDevice_stands (world : World) (device : Device) :
    world.Stands (world.loseDevice device) := by
  unfold loseDevice
  split
  · exact .refl world
  · rw [Device.teardown_world]
    exact ⟨rfl, rfl, rfl, fun _ => rfl⟩

theorem loseShader_trace (world : World) (shader : Shader) :
    (world.loseShader shader).trace = world.trace ++ world.shaderLeaves shader := by
  unfold loseShader shaderLeaves
  split
  · exact (List.append_nil _).symm
  · rw [Shader.teardown_world]

theorem loseDevice_trace (world : World) (device : Device) :
    (world.loseDevice device).trace = world.trace ++ world.deviceLeaves device := by
  unfold loseDevice deviceLeaves
  split
  · exact (List.append_nil _).symm
  · rw [Device.teardown_world]

namespace Stands

variable (stands : world.Stands after)

include stands

theorem shaderLeaves (shader : Shader) : after.shaderLeaves shader = world.shaderLeaves shader := by
  unfold World.shaderLeaves heldShaders
  rw [stands.held, stands.sink]

theorem deviceLeaves (device : Device) : after.deviceLeaves device = world.deviceLeaves device := by
  unfold World.deviceLeaves heldDevices
  rw [stands.held]

theorem hasShader (shader : Shader) : after.hasShader shader = world.hasShader shader := by
  unfold World.hasShader registeredShaders heldShaders
  rw [stands.registries, stands.held]

theorem hasDevice (device : Device) : after.hasDevice device = world.hasDevice device := by
  unfold World.hasDevice registeredDevices heldDevices
  rw [stands.registries, stands.held]

end Stands

section

variable {α : Type} {lose : World → α → World}
  (each : ∀ (world : World) (item : α), world.Stands (lose world item))

include each

theorem foldl_stands (items : List α) (world : World) : world.Stands (items.foldl lose world) := by
  induction items generalizing world with
  | nil => exact .refl world
  | cons item rest ih => exact (each world item).trans (ih _)

/-- The events come in the order of the list. -/
theorem foldl_trace {leaves : World → α → List Event}
    (tells : ∀ world item, (lose world item).trace = world.trace ++ leaves world item)
    (steady : ∀ {world after}, world.Stands after → ∀ item, leaves after item = leaves world item)
    (items : List α) (world : World) :
    (items.foldl lose world).trace = world.trace ++ items.flatMap (leaves world) := by
  induction items generalizing world with
  | nil => exact (List.append_nil _).symm
  | cons item rest ih =>
      have later : rest.flatMap (leaves (lose world item)) = rest.flatMap (leaves world) :=
        congrArg rest.flatMap (funext (steady (each world item)))
      rw [List.foldl_cons, ih, tells, later, List.flatMap_cons, List.append_assoc]

/-- Releases of which each does no more than is asked, whatever happened to the others. -/
theorem releaseEach_world {release : α → Act Unit} {items : List α}
    (asked : ∀ item ∈ items, ∀ after, world.Stands after →
      (release item after).2 = lose after item) :
    (releaseEach release items world).2 = items.foldl lose world := by
  induction items generalizing world with
  | nil => rfl
  | cons item rest ih =>
      unfold releaseEach
      rw [thenRelease_world, asked item List.mem_cons_self world (.refl world), List.foldl_cons]
      exact ih fun other member after stands =>
        asked other (List.mem_cons_of_mem _ member) after ((each world item).trans stands)

end

end World

/-- Whoever has a shader or a device that is registered no more has it under a name. -/
theorem Shader.letGo_world {world : World} {shader : Shader}
    (unlisted : world.hasShader shader = true ↔ shader ∈ world.heldShaders) :
    (shader.letGo world).2 = world.loseShader shader := by
  unfold letGo World.loseShader
  by_cases kept : shader ∈ world.heldShaders
  · rw [if_pos (unlisted.mpr kept), if_pos kept]
  · rw [if_neg (mt unlisted.mp kept), if_neg kept]

theorem Device.letGo_world {world : World} {device : Device}
    (unlisted : world.hasDevice device = true ↔ device ∈ world.heldDevices) :
    (device.letGo world).2 = world.loseDevice device := by
  unfold letGo World.loseDevice
  by_cases kept : device ∈ world.heldDevices
  · rw [if_pos (unlisted.mpr kept), if_pos kept]
  · rw [if_neg (mt unlisted.mp kept), if_neg kept]

namespace World

variable {world after : World}

theorem releaseShaders_world {shaders : List Shader}
    (unlisted : ∀ shader ∈ shaders,
      world.hasShader shader = true ↔ shader ∈ world.heldShaders) :
    (releaseEach Shader.letGo shaders world).2 = shaders.foldl loseShader world := by
  refine releaseEach_world loseShader_stands fun shader member after stands => Shader.letGo_world ?_
  rw [stands.hasShader, unlisted shader member, heldShaders, heldShaders, stands.held]

theorem releaseDevices_world {devices : List Device}
    (unlisted : ∀ device ∈ devices,
      world.hasDevice device = true ↔ device ∈ world.heldDevices) :
    (releaseEach Device.letGo devices world).2 = devices.foldl loseDevice world := by
  refine releaseEach_world loseDevice_stands fun device member after stands => Device.letGo_world ?_
  rw [stands.hasDevice, unlisted device member, heldDevices, heldDevices, stands.held]

end World

end ShaderDriver
