import ShaderDriver.Proofs.Session.Custody
import ShaderDriver.Proofs.Session.Epochs
import ShaderDriver.Proofs.Session.Untouched

namespace ShaderDriver

open Act EntryPoint World

/-! What poisons the locks of the registries, and what can be done as long as they are healthy. -/

namespace World

variable {world : World}

/-- There are registries, and a lock is poisoned. -/
def Worn (world : World) : Prop :=
  ∃ all, world.registries = some all ∧ ¬ all.Healthy

theorem Worn.unhealthy (worn : world.Worn) : ¬ world.healthy = true := by
  obtain ⟨all, present, broken⟩ := worn
  rw [healthy_iff]
  rintro ⟨_, found, whole⟩
  rw [present] at found
  cases found
  exact broken whole

theorem worn_of_unhealthy {all : Registries} (present : world.registries = some all)
    (broken : ¬ world.healthy = true) : world.Worn :=
  ⟨all, present, fun whole => broken (healthy_iff.mpr ⟨all, present, whole⟩)⟩

/-- Whatever is registered is found under its handle, and can be taken out. Only a panic keeps the
call from saying so, and it leaves no lock poisoned either. -/
structure Serves (world : World) (all : Registries) : Prop where
  device : ∀ handle found, all.devices.content.get? handle = some found →
    EntryPoint.device handle world = (.done found, world)
  shader : ∀ handle entry, all.shaders.content.get? handle = some entry →
    EntryPoint.shader handle world = (.done entry.shader, world)
  destroyDevice : ∀ handle found, all.devices.content.get? handle = some found →
    (∀ error, (EntryPoint.destroyDevice handle world).1 ≠ .failed error) ∧
      (EntryPoint.destroyDevice handle world).2.registries = some (dismissed all handle)
  destroyObject : ∀ handle entry, all.shaders.content.get? handle = some entry →
    (∀ error, (EntryPoint.destroyObject handle world).1 ≠ .failed error) ∧
      (EntryPoint.destroyObject handle world).2.registries =
        some (all.withShaders (all.shaders.content.erase handle))

end World

theorem Registries.Healthy.serves {world : World} {all : Registries} (healthy : all.Healthy)
    (present : world.registries = some all) : world.Serves all where
  device handle found stored := by
    rw [device_run present healthy, stored]
  shader handle entry stored := by
    rw [shader_run present healthy, stored]
  destroyDevice handle found stored := by
    constructor
    · unfold EntryPoint.destroyDevice
      rw [locked_run .device Registries.devices]
      simp only [present, healthy.devices, stored, Bool.false_eq_true, if_false]
      rw [bind_done (setDevices_run present _)]
      have alone : (world.withRegistries
          (all.withDevices (all.devices.content.erase handle))).registries = some _ := rfl
      exact thenRelease_unfailing (dismiss_unfailing handle alone healthy.shaders) found.letGo
    · rw [destroyDevice_outcome handle present]
      simp only [healthy.devices, healthy.shaders, stored, Bool.false_eq_true, if_false]
  destroyObject handle entry stored := by
    constructor
    · unfold EntryPoint.destroyObject
      rw [locked_run .shader Registries.shaders]
      simp only [present, healthy.shaders, stored, Bool.false_eq_true, if_false]
      rw [bind_done (setShaders_run present _)]
      exact entry.shader.letGo_unfailing _
    · rw [destroyObject_outcome handle present]
      simp only [healthy.shaders, stored, Bool.false_eq_true, if_false]

namespace Session

/-- The lock that a command poisons. Handles that are not known are refused with the lock held for
writing, and the logger panics at the entry about it. -/
def Command.poisons? (world : World) : Command → Option ObjectKind
  | .call (.destroyDevice handle) =>
      if world.registries.any (fun all => (all.devices.content.get? handle).isNone) &&
        (world.logger.receive .error).1 then some .device else none
  | .call (.destroyObject handle) =>
      if world.registries.any (fun all => (all.shaders.content.get? handle).isNone) &&
        (world.logger.receive .error).1 then some .shader else none
  | _ => none

/-- No command poisons a lock. -/
def tolerant : World → List Command → Bool
  | _, [] => true
  | world, command :: rest =>
      (command.poisons? world).isNone && tolerant (step world command).2 rest

end Session

namespace EntryPoint

/-- The locks are as they were. -/
def enduring : Frame where
  related first second := ∀ all, first.registries = some all → ∃ left,
    second.registries = some left ∧ left.devices.poisoned = all.devices.poisoned ∧
      left.shaders.poisoned = all.shaders.poisoned
  refl _ all present := ⟨all, present, rfl, rfl⟩
  trans first second all present := by
    obtain ⟨middle, found, devices, shaders⟩ := first all present
    obtain ⟨left, last, later, others⟩ := second middle found
    exact ⟨left, last, later.trans devices, others.trans shaders⟩

variable {α : Type} {act : Act α} {world : World} {all : Registries}

theorem enduring_of_untouched (quiet : untouched.Holds act) : enduring.Holds act :=
  fun world all present => ⟨all, (quiet world).trans present, rfl, rfl⟩

theorem registries_enduring : enduring.Holds registries :=
  enduring_of_untouched registries_moves.untouched

theorem unlocked_enduring (kind : ObjectKind) (guarded : Guarded α) :
    enduring.Holds (unlocked kind guarded) :=
  enduring_of_untouched (unlocked_moves kind guarded).untouched

theorem setDevices_enduring (devices : Registry .device Device) :
    enduring.Holds (setDevices devices) := by
  intro world all present
  rw [setDevices_run present]
  exact ⟨_, rfl, rfl, rfl⟩

theorem setShaders_enduring (shaders : Registry .shader ShaderEntry) :
    enduring.Holds (setShaders shaders) := by
  intro world all present
  rw [setShaders_run present]
  exact ⟨_, rfl, rfl, rfl⟩

theorem startUp_enduring : enduring.Holds startUp := by
  intro world all present
  refine ⟨all, ?_, rfl, rfl⟩
  simp only [startUp, Act.change, present, Option.getD_some]

theorem shutdown_enduring : enduring.Holds shutdown := by
  intro world all present
  rw [shutdown_outcome, present]
  refine ⟨_, rfl, ?_, ?_⟩
  · simp only [emptiedAll, emptied]
    split <;> rfl
  · simp only [emptiedAll, emptied]
    split <;> rfl

theorem createDevice_enduring (config : DeviceConfig) : enduring.Holds (createDevice config) :=
  createDevice_holds enduring_of_untouched (fun _ =>
    .bind registries_enduring fun all => .bind (unlocked_enduring .device all.devices) fun _ =>
      .bind (setDevices_enduring _) fun _ => .pure _) config

theorem admitShader_enduring (owner : Handle .device) (info : CreateInfo) (verdict : Verdict) :
    enduring.Holds (admitShader owner info verdict) :=
  admitShader_holds enduring_of_untouched (fun _ _ =>
    .bind registries_enduring fun all => .bind (unlocked_enduring .shader all.shaders) fun _ =>
      .bind (setShaders_enduring _) fun _ => .pure _) owner info verdict

end EntryPoint

namespace Session

variable {world : World} {all : Registries}

theorem shaderCall_enduring (call : CreationCall) (owner : Handle .device) (info : CreateInfo)
    (verdict : Verdict) : enduring.Holds (createShader call owner info verdict) := by
  intro world
  rw [shaderCall_world]
  exact admitShader_enduring owner info verdict world

/-- The locks are poisoned that were poisoned before, and the one that the command poisons. -/
def Wears (command : Command) (world after : World) : Prop :=
  ∀ all, world.registries = some all → ∃ left, after.registries = some left ∧
    left.devices.poisoned =
      (all.devices.poisoned || command.poisons? world == some .device) ∧
    left.shaders.poisoned =
      (all.shaders.poisoned || command.poisons? world == some .shader)

theorem wears_of_enduring {α : Type} {act : Act α} {command : Command}
    (enduring : enduring.Holds act) (calm : command.poisons? world = none) :
    Wears command world (act world).2 := by
  intro all present
  obtain ⟨left, found, devices, shaders⟩ := enduring world all present
  refine ⟨left, found, ?_, ?_⟩
  · rw [devices, calm]
    exact (Bool.or_false _).symm
  · rw [shaders, calm]
    exact (Bool.or_false _).symm

theorem destroyDevice_wears (handle : Handle .device) (world : World) :
    Wears (.call (.destroyDevice handle)) world (EntryPoint.destroyDevice handle world).2 := by
  intro all present
  refine ⟨_, destroyDevice_outcome handle present, ?_⟩
  simp only [Command.poisons?, present, Option.any_some]
  cases stored : all.devices.content.get? handle with
  | none =>
      cases (world.logger.receive .error).1 <;> cases poisoned : all.devices.poisoned <;>
        simp [Registries.poison, poisoned]
  | some device =>
      cases devices : all.devices.poisoned <;> cases shaders : all.shaders.poisoned <;>
        simp [dismissed, Registries.withDevices, Registries.withShaders, devices, shaders]

theorem destroyObject_wears (handle : Handle .shader) (world : World) :
    Wears (.call (.destroyObject handle)) world (EntryPoint.destroyObject handle world).2 := by
  intro all present
  refine ⟨_, destroyObject_outcome handle present, ?_⟩
  simp only [Command.poisons?, present, Option.any_some]
  cases stored : all.shaders.content.get? handle with
  | none =>
      cases (world.logger.receive .error).1 <;> cases poisoned : all.shaders.poisoned <;>
        simp [Registries.poison, poisoned]
  | some entry =>
      cases poisoned : all.shaders.poisoned <;> simp [Registries.withShaders, poisoned]

theorem call_wears (command : CallCommand) (world : World) :
    Wears (.call command) world (command.run world).2 := by
  have quiet (command : CallCommand) (reads : command.reads = true)
      (calm : (Command.call command).poisons? world = none) :
      Wears (.call command) world (command.run world).2 :=
    wears_of_enduring (enduring_of_untouched (call_untouched command reads)) calm
  cases command with
  | startUp => exact wears_of_enduring (silently_holds startUp_enduring) rfl
  | shutdown => exact wears_of_enduring (silently_holds shutdown_enduring) rfl
  | shaderCount => exact quiet _ rfl rfl
  | createDevice settings =>
      refine wears_of_enduring (.bind (enduring_of_untouched (config_untouched settings))
        fun config => .bind (createDevice_enduring config) fun _ => .pure _) rfl
  | device into handle => exact quiet _ rfl rfl
  | destroyDevice handle =>
      simp only [CallCommand.run, silently_world]
      exact destroyDevice_wears handle world
  | createShader call owner info verdict =>
      refine wears_of_enduring (.bind (shaderCall_enduring call owner info verdict)
        fun _ => .pure _) rfl
  | shader into handle => exact quiet _ rfl rfl
  | destroyObject handle =>
      simp only [CallCommand.run, silently_world]
      exact destroyObject_wears handle world
  | log record => exact quiet _ rfl rfl
  | setLogger faults => exact quiet _ rfl rfl
  | resetLogger environment => exact quiet _ rfl rfl

theorem step_wears (command : Command) (world : World) :
    Wears command world (step world command).2 := by
  have quiet {act : Act (Option Value)} (left : untouched.Holds act)
      (calm : command.poisons? { world with trace := [] } = none) :
      Wears command { world with trace := [] } (act { world with trace := [] }).2 :=
    wears_of_enduring (enduring_of_untouched left) calm
  cases command with
  | memory command => exact quiet (memory_untouched command _) rfl
  | compiler command => exact quiet (compiler_untouched command _) rfl
  | device command => exact quiet (device_untouched command _) rfl
  | held command => exact quiet (held_untouched command _) rfl
  | call command => exact call_wears command { world with trace := [] }

theorem step_healthy (command : Command) (healthy : world.healthy = true) :
    (step world command).2.healthy = true ↔ command.poisons? world = none := by
  obtain ⟨all, present, whole⟩ := healthy_iff.mp healthy
  obtain ⟨left, found, devices, shaders⟩ := step_wears command world all present
  rw [whole.devices, Bool.false_or] at devices
  rw [whole.shaders, Bool.false_or] at shaders
  have sound : (step world command).2.healthy =
      (!left.devices.poisoned && !left.shaders.poisoned) := by
    rw [World.healthy, found]
  rw [sound, devices, shaders]
  rcases command.poisons? world with _ | _ | _ <;> decide

/-- A lock that is poisoned stays poisoned. -/
theorem step_worn (command : Command) (worn : world.Worn) : (step world command).2.Worn := by
  obtain ⟨all, present, broken⟩ := worn
  obtain ⟨left, found, devices, shaders⟩ := step_wears command world all present
  refine ⟨left, found, fun whole => broken ?_⟩
  rw [whole.devices, Bool.false_eq, Bool.or_eq_false_iff] at devices
  rw [whole.shaders, Bool.false_eq, Bool.or_eq_false_iff] at shaders
  exact ⟨devices.1, shaders.1⟩

theorem run_worn {commands : List Command} (worn : world.Worn) : (run world commands).2.Worn := by
  induction commands generalizing world with
  | nil => exact worn
  | cons command rest ih => exact ih (step_worn command worn)

theorem run_healthy {commands : List Command} (healthy : world.healthy = true) :
    (run world commands).2.healthy = true ↔ tolerant world commands = true := by
  induction commands generalizing world with
  | nil => exact iff_of_true healthy rfl
  | cons command rest ih =>
      change (run (step world command).2 rest).2.healthy = true ↔
        ((command.poisons? world).isNone && tolerant (step world command).2 rest) = true
      rw [Bool.and_eq_true, Option.isNone_iff_eq_none, ← step_healthy command healthy]
      by_cases kept : (step world command).2.healthy = true
      · rw [ih kept, and_iff_right kept]
      · have worn : (step world command).2.Worn := by
          obtain ⟨all, present, _⟩ := healthy_iff.mp healthy
          obtain ⟨left, found, _⟩ := step_wears command world all present
          exact worn_of_unhealthy found kept
        exact iff_of_false (run_worn worn).unhealthy fun both => kept both.1

/-- From healthy locks on, the locks are healthy just as long as no handle is refused with a lock held
and a panic at the entry about it, and then everything that is registered can be found and taken
out. A panic of the logger at any other entry does no harm. -/
theorem locks_stay_healthy_but_for_refusals (world : World) (commands : List Command)
    (healthy : world.healthy = true) :
    ((run world commands).2.healthy = true ↔ tolerant world commands = true) ∧
    ((run world commands).2.healthy = true →
      ∃ all, (run world commands).2.registries = some all ∧ (run world commands).2.Serves all) := by
  refine ⟨run_healthy healthy, fun whole => ?_⟩
  obtain ⟨all, present, fine⟩ := healthy_iff.mp whole
  exact ⟨all, present, fine.serves present⟩

/-- The logger panics at the last entry about a second device, and when the first one is destroyed. -/
def panicsElsewhere : List Command :=
  [.call (.setLogger [{ severity := some .info, skip := 0 }, { severity := some .info, skip := 0 }]),
    .call (.createDevice plainSettings), .call (.destroyDevice ⟨1, 1⟩)]

theorem panics_elsewhere_leave_locks_healthy :
    (run (run .initial oneDevice).2 panicsElsewhere).1.map Answer.exit =
        [.done (some .nothing), .unwound, .unwound] ∧
      (run (run .initial oneDevice).2 panicsElsewhere).2.healthy = true := by
  have healthy : (run .initial oneDevice).2.healthy = true := by decide +kernel
  have calm : tolerant (run .initial oneDevice).2 panicsElsewhere = true := by decide +kernel
  refine ⟨by decide +kernel, ?_⟩
  exact (locks_stay_healthy_but_for_refusals _ _ healthy).1.mpr calm

/-- The logger panics at the entry about a device that is not known. -/
def panicAtRefusal : List Command :=
  [.call (.setLogger [{ severity := some .error, skip := 0 }]), .call (.destroyDevice ⟨9, 1⟩)]

/-- The device that was there before can be neither found nor destroyed any more. -/
theorem refusal_takes_all_devices_away :
    (run .initial oneDevice).2.healthy = true ∧
      (device ⟨1, 1⟩ (run .initial oneDevice).2).1.isDone = true ∧
      (run (run .initial oneDevice).2 panicAtRefusal).1.map Answer.exit =
        [.done (some .nothing), .unwound] ∧
      (run (run .initial oneDevice).2 panicAtRefusal).2.healthy = false ∧
      (device ⟨1, 1⟩ (run (run .initial oneDevice).2 panicAtRefusal).2).1 =
        .failed (registryPoisoned .device) ∧
      (destroyDevice ⟨1, 1⟩ (run (run .initial oneDevice).2 panicAtRefusal).2).1 =
        .failed (registryPoisoned .device) := by
  refine ⟨?_, ?_, ?_, ?_, ?_, ?_⟩ <;> decide +kernel

end Session

end ShaderDriver
