import ShaderDriver.Proofs.Act.Heedless
import ShaderDriver.Proofs.EntryPoint.Lookup

namespace ShaderDriver

open Act

/-! Calls that have nothing to do behind a lock do not notice that it is poisoned. -/

namespace Registries

/-- The registries with one of the locks poisoned, or not. -/
def withLock (all : Registries) (kind : ObjectKind) (poisoned : Bool) : Registries :=
  match kind with
  | .device => { all with devices := { all.devices with poisoned } }
  | .shader => { all with shaders := { all.shaders with poisoned } }

end Registries

namespace World

/-- The same world with one of the locks poisoned, or not. -/
def withLock (world : World) (kind : ObjectKind) (poisoned : Bool) : World :=
  { world with registries := world.registries.map fun all => all.withLock kind poisoned }

variable {kind : ObjectKind} {poisoned : Bool}

theorem withLock_again (world : World) (before : Bool) :
    (world.withLock kind before).withLock kind poisoned = world.withLock kind poisoned := by
  unfold withLock
  cases world.registries with
  | none => rfl
  | some all => cases kind <;> rfl

/-- Nothing changes if the lock is that way already. -/
theorem withLock_self {world : World} {all : Registries} (present : world.registries = some all)
    (same : all.withLock kind poisoned = all) : world.withLock kind poisoned = world := by
  unfold withLock
  rw [present, Option.map_some, same, ← present]

theorem registeredShaders_withLock (world : World) :
    (world.withLock kind poisoned).registeredShaders = world.registeredShaders := by
  unfold registeredShaders withLock
  cases world.registries with
  | none => rfl
  | some all => cases kind <;> rfl

/-- Who refers to a shader does not depend on the locks. -/
theorem hasShader_withLock (world : World) (shader : Shader) :
    (world.withLock kind poisoned).hasShader shader = world.hasShader shader := by
  unfold hasShader
  rw [registeredShaders_withLock]
  rfl

end World

variable {kind : ObjectKind} {poisoned : Bool} {α β : Type}

/-- The action does not look at a lock, and leaves it as it is. -/
def Act.Overlooks (act : Act α) (kind : ObjectKind) : Prop :=
  ∀ poisoned, act.Heedless fun world => world.withLock kind poisoned

/-- With the lock poisoned the action ends as it would otherwise, and leaves what it would leave, with
the lock poisoned. -/
def Act.Undisturbed (act : Act α) (kind : ObjectKind) (world : World) : Prop :=
  let whole := world.withLock kind false
  act world = ((act whole).1, (act whole).2.withLock kind true)

theorem Act.Overlooks.undisturbed {act : Act α} {world : World} {all : Registries}
    (overlooks : act.Overlooks kind) (present : world.registries = some all)
    (poisoned : all.withLock kind true = all) : act.Undisturbed kind world := by
  have again : (world.withLock kind false).withLock kind true = world := by
    rw [World.withLock_again, World.withLock_self present poisoned]
  have turned := overlooks true (world.withLock kind false)
  simp only [again] at turned
  exact turned

/-! Nothing below the entry points looks at a lock. -/

namespace Act

theorem log_overlooks (record : Log.Record) : (log record).Overlooks kind :=
  fun _ _ => rfl

theorem failLogged_overlooks (error : Error) : (failLogged error : Act α).Overlooks kind :=
  fun poisoned => (log_overlooks (errorRecord error) poisoned).bind fun _ => .fail error

end Act

theorem AllocatorRef.request_overlooks (allocator : AllocatorRef) (size alignment : Nat)
    (type : Memory.AllocType) : (allocator.request size alignment type).Overlooks kind := by
  intro poisoned world
  simp only [request, World.withLock]
  rcases (world.allocators allocator.serial).alloc size type with ⟨reply, next⟩
  cases reply <;> rfl

theorem Allocation.release_overlooks (allocation : Allocation) :
    allocation.release.Overlooks kind :=
  fun _ _ => rfl

theorem Base.release_overlooks (base : Base) : base.release.Overlooks kind := by
  intro poisoned
  unfold release
  cases base.record with
  | none => exact base.allocation.release_overlooks poisoned
  | some record =>
      exact (base.allocation.release_overlooks poisoned).thenRelease
        (record.allocation.release_overlooks poisoned)

theorem Payload.release_overlooks (payload : Payload) : payload.release.Overlooks kind := by
  intro poisoned
  cases payload with
  | kernel buffer => exact buffer.allocation.release_overlooks poisoned
  | program made => exact fun _ => rfl

theorem Ir.release_overlooks (ir : Ir) : ir.release.Overlooks kind :=
  fun poisoned => (ir.payload.release_overlooks poisoned).thenRelease
    (ir.container.release_overlooks poisoned)

theorem Shader.teardown_overlooks (shader : Shader) : shader.teardown.Overlooks kind := by
  intro poisoned
  refine .bind (fun _ => rfl) fun _ => (log_overlooks shader.farewell poisoned).thenRelease ?_
  exact (shader.ir.release_overlooks poisoned).thenRelease (shader.base.release_overlooks poisoned)

theorem Shader.letGo_overlooks (shader : Shader) : shader.letGo.Overlooks kind := by
  intro poisoned world
  unfold letGo
  rw [World.hasShader_withLock]
  split
  · rfl
  · exact shader.teardown_overlooks poisoned world

theorem Device.teardown_overlooks (device : Device) : device.teardown.Overlooks kind :=
  fun poisoned => .bind (fun _ => rfl) fun _ => device.base.release_overlooks poisoned

theorem Device.create_overlooks (config : DeviceConfig) : (create config).Overlooks kind := by
  intro poisoned
  have base : Heedless (fun world => world.withLock kind poisoned)
      (Base.create config.allocator config.debug .device footprint none) :=
    ((config.allocator.request_overlooks footprint objectAlignment .apiObject poisoned).orFail
      .outOfMemory).bind fun _ => .pure _
  unfold create
  split
  · exact .fail _
  · exact base.bind fun _ => .bind (fun _ => rfl) fun _ => .pure _

namespace EntryPoint

/-- What is done with the registries is the same whether the lock is poisoned or not. -/
theorem registries_overlook {next : Registries → Act β}
    (same : ∀ all : Registries, next (all.withLock kind poisoned) = next all)
    (rest : ∀ all, Heedless (fun world => world.withLock kind poisoned) (next all)) :
    Heedless (fun world => world.withLock kind poisoned) (registries >>= next) := by
  intro world
  cases present : world.registries with
  | none =>
      have missing : (world.withLock kind poisoned).registries = none := by
        simp only [World.withLock, present, Option.map_none]
      rw [bind_apply, bind_apply, registries_none present, registries_none missing,
        ← bind_apply, ← bind_apply]
      exact ((failLogged_overlooks notInitialized poisoned).bind rest) world
  | some all =>
      have turned : (world.withLock kind poisoned).registries = some (all.withLock kind poisoned) := by
        simp only [World.withLock, present, Option.map_some]
      rw [bind_done (registries_some present), bind_done (registries_some turned), same]
      exact rest all world

theorem unlocked_overlooks {lock : ObjectKind} (guarded : Guarded α) :
    (unlocked lock guarded).Overlooks kind := by
  intro poisoned
  unfold unlocked
  split
  · exact failLogged_overlooks _ poisoned
  · exact .pure _

theorem changeRegistries_overlooks {update : Registries → Registries}
    (commutes : ∀ all : Registries,
      update (all.withLock kind poisoned) = (update all).withLock kind poisoned) :
    Heedless (fun world => world.withLock kind poisoned) (changeRegistries update) := by
  refine .change fun world => ?_
  simp only [World.withLock, Option.map_map]
  congr 2
  exact funext commutes

theorem setDevices_overlooks (devices : Registry .device Device) :
    (setDevices devices).Overlooks .shader :=
  fun _ => changeRegistries_overlooks fun _ => rfl

theorem setShaders_overlooks (shaders : Registry .shader ShaderEntry) :
    (setShaders shaders).Overlooks .device :=
  fun _ => changeRegistries_overlooks fun _ => rfl

/-- A lock that is poisoned on the way out is not the one that is overlooked. -/
theorem writing_overlooks {act : Act α} (overlooks : act.Overlooks .device) :
    (writing .shader act).Overlooks .device := by
  intro flag world
  unfold writing
  rw [overlooks flag world]
  rcases act world with ⟨exit, after⟩
  cases exit with
  | done value => rfl
  | failed error => rfl
  | unwound =>
      have poisoned : (poison .shader).Overlooks .device :=
        fun _ => changeRegistries_overlooks fun _ => rfl
      exact congrArg (Prod.mk Exit.unwound) (congrArg Prod.snd (poisoned flag after))

/-! With the lock of the devices poisoned, all about shaders that exist goes on. -/

theorem shader_overlooks (handle : Handle .shader) : (shader handle).Overlooks .device := by
  intro poisoned
  refine registries_overlook (fun _ => rfl) fun all =>
    (unlocked_overlooks all.shaders poisoned).bind fun shaders => ?_
  split
  · exact .pure _
  · exact failLogged_overlooks _ poisoned

theorem destroyObject_overlooks (handle : Handle .shader) :
    (destroyObject handle).Overlooks .device := by
  intro poisoned
  refine registries_overlook (fun _ => rfl) fun all =>
    (unlocked_overlooks all.shaders poisoned).bind fun shaders => ?_
  split
  · exact writing_overlooks (failLogged_overlooks _) poisoned
  · next entry _ =>
      exact (setShaders_overlooks _ poisoned).bind fun _ => entry.shader.letGo_overlooks poisoned

theorem shaderCount_withLock (world : World) (poisoned : Bool) :
    shaderCount (world.withLock .device poisoned) = shaderCount world := by
  unfold shaderCount World.withLock
  cases world.registries <;> rfl

/-! With the lock of the shaders poisoned, devices are made and found. -/

theorem device_overlooks (handle : Handle .device) : (device handle).Overlooks .shader := by
  intro poisoned
  refine registries_overlook (fun _ => rfl) fun all =>
    (unlocked_overlooks all.devices poisoned).bind fun devices => ?_
  split
  · exact .pure _
  · exact failLogged_overlooks _ poisoned

theorem registerDevice_overlooks (device : Device) :
    (registerDevice device).Overlooks .shader :=
  fun poisoned => registries_overlook (fun _ => rfl) fun all =>
    (unlocked_overlooks all.devices poisoned).bind fun _ =>
      (setDevices_overlooks _ poisoned).bind fun _ => .pure _

theorem admitDevice_overlooks (config : DeviceConfig) :
    (admitDevice config).Overlooks .shader := by
  intro poisoned
  refine registries_overlook (fun _ => rfl) fun _ => .bind ?_ fun device => .bind ?_ fun _ => .pure _
  · exact (Device.create_overlooks config poisoned).onFailure fun error =>
      log_overlooks (errorRecord error) poisoned
  · exact (registerDevice_overlooks device poisoned).orRelease (device.teardown_overlooks poisoned)

theorem createDevice_overlooks (config : DeviceConfig) :
    (createDevice config).Overlooks .shader :=
  fun poisoned => (admitDevice_overlooks config poisoned).bind fun _ =>
    .bind (log_overlooks _ poisoned) fun _ => .pure _

end EntryPoint

namespace World

/-- Calls about shaders go on with the lock of the devices poisoned, and calls that make and find
devices with the lock of the shaders poisoned, as if nothing had happened. -/
structure Contained (world : World) (all : Registries) : Prop where
  shader : all.devices.poisoned = true → ∀ handle,
    (EntryPoint.shader handle).Undisturbed .device world
  destroyObject : all.devices.poisoned = true → ∀ handle,
    (EntryPoint.destroyObject handle).Undisturbed .device world
  shaderCount : all.devices.poisoned = true →
    EntryPoint.shaderCount world = EntryPoint.shaderCount (world.withLock .device false)
  createDevice : all.shaders.poisoned = true → ∀ config,
    (EntryPoint.createDevice config).Undisturbed .shader world
  device : all.shaders.poisoned = true → ∀ handle,
    (EntryPoint.device handle).Undisturbed .shader world

theorem contained {world : World} {all : Registries} (present : world.registries = some all) :
    world.Contained all := by
  have devices (poisoned : all.devices.poisoned = true) : all.withLock .device true = all := by
    rw [Registries.withLock, ← poisoned]
  have shaders (poisoned : all.shaders.poisoned = true) : all.withLock .shader true = all := by
    rw [Registries.withLock, ← poisoned]
  exact {
    shader := fun poisoned handle =>
      (EntryPoint.shader_overlooks handle).undisturbed present (devices poisoned)
    destroyObject := fun poisoned handle =>
      (EntryPoint.destroyObject_overlooks handle).undisturbed present (devices poisoned)
    shaderCount := fun _ => (EntryPoint.shaderCount_withLock world false).symm
    createDevice := fun poisoned config =>
      (EntryPoint.createDevice_overlooks config).undisturbed present (shaders poisoned)
    device := fun poisoned handle =>
      (EntryPoint.device_overlooks handle).undisturbed present (shaders poisoned) }

end World

end ShaderDriver
