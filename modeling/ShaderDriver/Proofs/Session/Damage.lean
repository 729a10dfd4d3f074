import ShaderDriver.Proofs.EntryPoint.Containment
import ShaderDriver.Proofs.Session.Calm
import ShaderDriver.Proofs.Session.Dismissals
import ShaderDriver.Proofs.Session.Records

namespace ShaderDriver

open Memory Act EntryPoint World

/-! A registry behind a poisoned lock is lost for good: nothing is put in or taken out again, and
whoever comes to the lock is told so. All the rest goes on. -/

/-- A registry behind a poisoned lock is as it was. -/
structure Registries.Lasts (all left : Registries) : Prop where
  devices : all.devices.poisoned = true → left.devices = all.devices
  shaders : all.shaders.poisoned = true → left.shaders = all.shaders

namespace EntryPoint

/-- What is behind a poisoned lock stays there. -/
def lasting : Frame where
  related first second := ∀ all, first.registries = some all → ∃ left,
    second.registries = some left ∧ all.Lasts left
  refl _ all present := ⟨all, present, fun _ => rfl, fun _ => rfl⟩
  trans := by
    intro first second third earlier later all present
    obtain ⟨middle, found, kept⟩ := earlier all present
    obtain ⟨left, last, further⟩ := later middle found
    refine ⟨left, last, fun poisoned => ?_, fun poisoned => ?_⟩
    · rw [further.devices (by rw [kept.devices poisoned, poisoned]), kept.devices poisoned]
    · rw [further.shaders (by rw [kept.shaders poisoned, poisoned]), kept.shaders poisoned]

variable {α : Type} {act : Act α}

theorem lasting_of_untouched (quiet : untouched.Holds act) : lasting.Holds act :=
  fun world all present => ⟨all, (quiet world).trans present, fun _ => rfl, fun _ => rfl⟩

theorem startUp_lasting : lasting.Holds startUp := by
  intro world all present
  refine ⟨all, ?_, fun _ => rfl, fun _ => rfl⟩
  simp only [startUp, Act.change, present, Option.getD_some]

theorem shutdown_lasting : lasting.Holds shutdown := by
  intro world all present
  rw [shutdown_outcome, present]
  exact ⟨_, rfl, fun poisoned => if_pos poisoned, fun poisoned => if_pos poisoned⟩

theorem registerDevice_lasting (device : Device) : lasting.Holds (registerDevice device) := by
  intro world all present
  have ran : registerDevice device world = _ := locked_run .device Registries.devices _ world
  rw [ran]
  simp only [present]
  split
  · exact lasting_of_untouched (failLogged_untouched _) world all present
  · next healthy =>
      rw [bind_done (setDevices_run present _)]
      exact ⟨_, rfl, fun poisoned => absurd poisoned healthy, fun _ => rfl⟩

theorem registerShader_lasting (owner : Handle .device) (shader : Shader) :
    lasting.Holds (registerShader owner shader) := by
  intro world all present
  have ran : registerShader owner shader world = _ := locked_run .shader Registries.shaders _ world
  rw [ran]
  simp only [present]
  split
  · exact lasting_of_untouched (failLogged_untouched _) world all present
  · next healthy =>
      rw [bind_done (setShaders_run present _)]
      exact ⟨_, rfl, fun _ => rfl, fun poisoned => absurd poisoned healthy⟩

theorem destroyDevice_lasting (handle : Handle .device) : lasting.Holds (destroyDevice handle) := by
  intro world all present
  refine ⟨_, destroyDevice_outcome handle present, fun poisoned => ?_, fun poisoned => ?_⟩
  · rw [if_pos poisoned]
  · -- A registered device goes all the same, but none of its shaders.
    simp only [poisoned, if_true]
    repeat' split
    all_goals rfl

theorem destroyObject_lasting (handle : Handle .shader) : lasting.Holds (destroyObject handle) := by
  intro world all present
  refine ⟨_, destroyObject_outcome handle present, fun poisoned => ?_, fun poisoned => ?_⟩
  · repeat' split
    all_goals rfl
  · rw [if_pos poisoned]

end EntryPoint

namespace Session

variable {world : World}

theorem call_lasting (command : CallCommand) : lasting.Holds command.run := by
  have quiet (command : CallCommand) (reads : command.reads = true) : lasting.Holds command.run :=
    lasting_of_untouched (call_untouched command reads)
  cases command with
  | startUp => exact silently_holds startUp_lasting
  | shutdown => exact silently_holds shutdown_lasting
  | shaderCount => exact quiet _ rfl
  | createDevice settings =>
      exact .bind (lasting_of_untouched (config_untouched settings)) fun config =>
        .bind (createDevice_holds lasting_of_untouched registerDevice_lasting config) fun _ => .pure _
  | device into handle => exact quiet _ rfl
  | destroyDevice handle => exact silently_holds (destroyDevice_lasting handle)
  | createShader call owner info verdict =>
      refine .bind (fun world => ?_) fun _ => .pure _
      rw [shaderCall_world]
      exact admitShader_holds lasting_of_untouched registerShader_lasting owner info verdict world
  | shader into handle => exact quiet _ rfl
  | destroyObject handle => exact silently_holds (destroyObject_lasting handle)
  | log record => exact quiet _ rfl
  | setLogger faults => exact quiet _ rfl
  | resetLogger environment => exact quiet _ rfl

theorem command_lasting (command : Command) : lasting.Holds command.run := by
  intro world
  cases command with
  | memory command => exact lasting_of_untouched (memory_untouched command world) world
  | compiler command => exact lasting_of_untouched (compiler_untouched command world) world
  | device command => exact lasting_of_untouched (device_untouched command world) world
  | call command => exact call_lasting command world
  | held command => exact lasting_of_untouched (held_untouched command world) world

theorem run_lasting (world : World) (commands : List Command) :
    lasting.related world (run world commands).2 := by
  induction commands generalizing world with
  | nil => exact lasting.refl world
  | cons command rest ih =>
      have first : lasting.related world (step world command).2 :=
        command_lasting command { world with trace := [] }
      exact lasting.trans first (ih _)

end Session

/-! What becomes of the calls that come to a poisoned lock. -/

namespace World

/-- Calls that try the lock of the devices first are refused. -/
structure DevicesRefused (world : World) : Prop where
  device : ∀ handle, (EntryPoint.device handle world).1 =
    .failed (.initializationFailed "Device registry lock poisoned")
  destroyDevice : ∀ handle, (EntryPoint.destroyDevice handle world).1 =
    .failed (.initializationFailed "Device registry lock poisoned")
  createShader : ∀ owner info verdict,
    ∀ call ∈ [createShader owner info verdict, createShaderFromGlsl owner info verdict],
      (call world).1 = .failed (.initializationFailed "Device registry lock poisoned") ∧
        (raw call world).1 = .done (none, .initializationFailed)

/-- Calls that try the lock of the shaders first are refused, and no shaders are counted. A shutdown
has no answer to give. -/
structure ShadersRefused (world : World) : Prop where
  shader : ∀ handle, (EntryPoint.shader handle world).1 =
    .failed (.initializationFailed "Shader registry lock poisoned")
  destroyObject : ∀ handle, (EntryPoint.destroyObject handle world).1 =
    .failed (.initializationFailed "Shader registry lock poisoned")
  shaderCount : EntryPoint.shaderCount world = 0

/-- Calls that have made or found something before they come to a poisoned lock are refused then. -/
structure LateRefused (world : World) (all : Registries) : Prop where
  createDevice : all.devices.poisoned = true → ∀ config made,
    (Device.create config world).1 = .done made → (EntryPoint.createDevice config world).1 =
      .failed (.initializationFailed "Device registry lock poisoned")
  destroyDevice : all.shaders.poisoned = true → ∀ handle found,
    (device handle world).1 = .done found → (EntryPoint.destroyDevice handle world).1 =
      .failed (.initializationFailed "Shader registry lock poisoned")
  createShader : all.shaders.poisoned = true → ∀ owner maker info verdict made,
    (device owner world).1 = .done maker → (Shader.create maker info verdict world).1 = .done made →
      ∀ call ∈ [createShader owner info verdict, createShaderFromGlsl owner info verdict],
        (call world).1 = .failed (.initializationFailed "Shader registry lock poisoned") ∧
          (raw call world).1 = .done (none, .initializationFailed)

/-- A creation that is refused for a poisoned lock leaves every account as it was. -/
structure Undone (world : World) : Prop where
  device : ∀ serial tracker, world.allocators serial = .tracking tracker → ∀ config kind,
    (createDevice config world).1 = .failed (registryPoisoned kind) →
      world.Unmarked serial tracker (createDevice config world).2
  shader : ∀ serial tracker, world.allocators serial = .tracking tracker →
    ∀ owner info verdict kind,
      ∀ call ∈ [createShader owner info verdict, createShaderFromGlsl owner info verdict],
        (call world).1 = .failed (registryPoisoned kind) →
          world.Unmarked serial tracker (call world).2

variable {world : World} {all : Registries}

theorem Lists.undone (lists : world.Lists 0) : world.Undone where
  device _ _ watched _ _ failing := createDevice_unmarked lists watched failing
  shader serial tracker watched owner info verdict kind call member := by
    rw [eq_createShader member]
    exact createShader_unmarked lists watched

theorem devicesRefused (present : world.registries = some all)
    (poisoned : all.devices.poisoned = true) (faultless : world.logger.faultless = true) :
    world.DevicesRefused where
  device handle := congrArg Prod.fst (device_refused present faultless poisoned handle)
  destroyDevice handle :=
    congrArg Prod.fst (EntryPoint.destroyDevice_refused present faultless poisoned handle)
  createShader owner info verdict call member := by
    have failing : (call world).1 = .failed (registryPoisoned .device) := by
      rw [eq_createShader member, createShader_refused present faultless poisoned]
    exact ⟨failing, raw_failing failing⟩

theorem shadersRefused (present : world.registries = some all)
    (poisoned : all.shaders.poisoned = true) (faultless : world.logger.faultless = true) :
    world.ShadersRefused where
  shader handle := congrArg Prod.fst (shader_refused present faultless poisoned handle)
  destroyObject handle := congrArg Prod.fst (destroyObject_refused present faultless poisoned handle)
  shaderCount := by
    unfold EntryPoint.shaderCount
    rw [present]
    exact if_pos poisoned

/-- The account of no allocator is out of order once a device was to be destroyed. -/
theorem Settled.destroyDevice_lists (settled : world.Settled) (handle : Handle .device) :
    (EntryPoint.destroyDevice handle world).2.Lists 0 := by
  intro serial
  have solvent := settled world.nextSerial serial (Nat.le_refl _)
  have kept := (Solvent.upkeep world.nextSerial serial).destroyDevice solvent handle
  obtain ⟨earlier, balances⟩ := kept.balances
  exact ⟨earlier, _, by rwa [add_zero]⟩

/-- The device that is gone already is let go without ado, and the refusal is passed on. -/
theorem Settled.destroyDevice_refused (settled : world.Settled)
    (present : world.registries = some all) (poisoned : all.shaders.poisoned = true)
    (faultless : world.logger.faultless = true) {handle : Handle .device} {found : Device}
    (looked : (device handle world).1 = .done found) :
    (EntryPoint.destroyDevice handle world).1 = .failed (registryPoisoned .shader) := by
  obtain ⟨others, known, healthy, stored, _⟩ := device_eq_done (Prod.ext looked rfl)
  obtain rfl : others = all := Option.some.inj (known.symm.trans present)
  have sane := (settled.destroyDevice_lists handle).sane
  rw [destroyDevice_run] at sane ⊢
  simp only [present, healthy, stored, Bool.false_eq_true, if_false] at sane ⊢
  -- The device is out of its registry by the time the lock of the shaders is tried.
  let alone := others.withDevices (others.devices.content.erase handle)
  let rest := world.withRegistries alone
  have refused : dismiss handle rest =
      (.failed (registryPoisoned .shader), (logError (registryPoisoned .shader) rest).2) := by
    have there : rest.registries = some alone := rfl
    have calm : rest.logger.faultless = true := faultless
    rw [dismiss_refused handle there poisoned, failLogged_faultless calm]
  have quiet : (logError (registryPoisoned .shader) rest).2.logger.faultless = true :=
    (Explained.log (errorRecord _) : Explained none False _).faultless rfl faultless
  rw [thenRelease_world, refused] at sane
  unfold Act.thenRelease
  rw [refused]
  exact leave_kept (found.letGo_explained.finishes found.letGo_unasking quiet sane)

theorem Settled.lateRefused (settled : world.Settled) (present : world.registries = some all)
    (faultless : world.logger.faultless = true) : world.LateRefused all where
  createDevice poisoned config made created :=
    createDevice_refused present faultless poisoned settled.lists (Prod.ext created rfl)
  destroyDevice poisoned _ _ looked :=
    settled.destroyDevice_refused present poisoned faultless looked
  createShader poisoned owner maker info verdict made looked created call member := by
    obtain ⟨_, _, _, _, unchanged⟩ := device_eq_done (Prod.ext looked rfl)
    have failing : (call world).1 = .failed (registryPoisoned .shader) := by
      rw [eq_createShader member]
      exact shader_not_admitted present faultless poisoned settled.lists
        (Prod.ext looked unchanged) (Prod.ext created rfl)
    exact ⟨failing, raw_failing failing⟩

end World

namespace Session

variable {heap : Heap}

/-- From when a lock is poisoned on, whatever is done, the registry behind it stays as it is. Calls
that have nothing to do with the registry go on as if the lock were not poisoned, and the others are
refused if the logger does not panic. Those of them that have made something by then give it back; that
nothing is in their way rests on the accounts, which are in order after operations of the driver. -/
theorem damage_lasts_and_is_contained (commands later : List Command) {all : Registries}
    (present : (run (.initial heap) commands).2.registries = some all) :
    let now := (run (run (.initial heap) commands).2 later).2
    ∃ left, now.registries = some left ∧ all.Lasts left ∧ now.Contained left ∧
      (now.logger.faultless = true → (left.devices.poisoned = true → now.DevicesRefused) ∧
        (left.shaders.poisoned = true → now.ShadersRefused)) ∧
      ((∀ command ∈ commands ++ later, command.isOperation = true) →
        now.Undone ∧ (now.logger.faultless = true → now.LateRefused left)) := by
  intro now
  obtain ⟨left, found, lasts⟩ := run_lasting (run (.initial heap) commands).2 later all present
  refine ⟨left, found, lasts, contained found, fun faultless => ⟨fun poisoned => ?_, fun poisoned => ?_⟩,
    fun operations => ?_⟩
  · exact devicesRefused found poisoned faultless
  · exact shadersRefused found poisoned faultless
  · have settled : now.Settled :=
      (initial_settled.run fun command member => operations command (by simp [member])).run
        fun command member => operations command (by simp [member])
    exact ⟨settled.lists.undone, settled.lateRefused found⟩

/-- A shader is made, and a logger panics while another that is not known is destroyed. -/
def lostShader : List Command :=
  [.call .startUp, .call (.createDevice standard),
    .call (.createShader .core ⟨1, 1⟩ (.bil ((Container.Bil.Header.current 7).toBytes ++ [1, 2])) .panics),
    .call (.setLogger [{ severity := some .error, skip := 0 }]), .call (.destroyObject ⟨9, 1⟩)]
where
  standard : Settings :=
    { extensions := none, debug := none, gpuName := none, allocator := none, compiler := none }

/-- The driver is shut down, and a device is made again. -/
def aftermath : List Command :=
  [.call .shutdown, .call (.createDevice lostShader.standard)]

/-- The shader is out of reach, and still there after the shutdown. -/
theorem lost_shader_outlasts_shutdown :
    let now := (run (run .initial lostShader).2 aftermath).2
    (∀ command ∈ lostShader ++ aftermath, command.isOperation = true) ∧
      now.logger.faultless = true ∧ now.registeredDevices.length = 1 ∧
      ∃ all left, (run .initial lostShader).2.registries = some all ∧
        all.shaders.poisoned = true ∧ all.shaders.content.size = 1 ∧
        now.registries = some left ∧ all.Lasts left ∧ now.Contained left ∧ now.ShadersRefused ∧
        now.Undone ∧ now.LateRefused left := by
  intro now
  have operations : ∀ command ∈ lostShader ++ aftermath, command.isOperation = true := by decide
  have faultless : now.logger.faultless = true := by decide +kernel
  have devices : now.registeredDevices.length = 1 := by decide +kernel
  have struck : (run .initial lostShader).2.registries.any
      (fun all => all.shaders.poisoned && all.shaders.content.size == 1) = true := by decide +kernel
  obtain ⟨all, present, found⟩ := (Option.any_eq_true _ _).mp struck
  obtain ⟨poisoned, stored⟩ := Bool.and_eq_true_iff.mp found
  obtain ⟨left, known, lasts, contained, refused, undone⟩ :=
    damage_lasts_and_is_contained lostShader aftermath present
  have lost : left.shaders.poisoned = true := by rw [lasts.shaders poisoned, poisoned]
  obtain ⟨given, late⟩ := undone operations
  exact ⟨operations, faultless, devices, all, left, present, poisoned, eq_of_beq stored, known, lasts,
    contained, (refused faultless).2 lost, given, late faultless⟩

end Session

end ShaderDriver
