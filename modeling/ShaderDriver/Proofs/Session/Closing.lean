import ShaderDriver.Proofs.Memory.Bookkeeping
import ShaderDriver.Proofs.Session.Departures
import ShaderDriver.Proofs.Session.Epochs

namespace ShaderDriver

open Memory Act EntryPoint

/-! A shutdown lets go of everything that is registered, and a panic on the way makes no difference.
-/

namespace EntryPoint

theorem removed_healthy {kind : ObjectKind} {α : Type} {guarded : Guarded (Registry kind α)}
    (healthy : guarded.poisoned = false) : removed guarded = guarded.content.values := by
  rw [removed, healthy]
  rfl

theorem emptiedAll_healthy {all : Registries} (healthy : all.Healthy) :
    emptiedAll all = .empty := by
  simp only [emptiedAll, emptied, healthy.devices, healthy.shaders, Bool.false_eq_true, if_false,
    Registries.empty]

/-- A release of something in each item is the release of all of them. -/
theorem releaseEach_map {α β : Type} (view : α → β) (release : β → Act Unit) (items : List α) :
    releaseEach (fun item => release (view item)) items = releaseEach release (items.map view) := by
  induction items with
  | nil => rfl
  | cons item rest ih =>
      unfold releaseEach
      rw [ih]
      rfl

end EntryPoint

namespace World

variable {world after : World} {all : Registries} {serial : Nat}

/-- The shaders in the order of their registry, and then the devices in the order of theirs. -/
theorem Keeps.shutdown_world (keeps : world.Keeps serial 0)
    (present : world.registries = some all) (healthy : all.Healthy) :
    (shutdown world).2 = all.devices.content.values.foldl loseDevice
      ((all.shaders.content.values.map ShaderEntry.shader).foldl loseShader
        (world.withRegistries .empty)) := by
  let emptied := world.withRegistries .empty
  let shaders := all.shaders.content.values.map ShaderEntry.shader
  have left : emptied.Stands (shaders.foldl loseShader emptied) :=
    foldl_stands loseShader_stands shaders emptied
  have shadersUnlisted : ∀ shader ∈ shaders,
      emptied.hasShader shader = true ↔ shader ∈ emptied.heldShaders := by
    intro shader member
    refine keeps.numbered.shader rfl ?_ List.not_mem_nil
    rwa [registeredShaders_eq present]
  have devicesUnlisted : ∀ device ∈ all.devices.content.values,
      (shaders.foldl loseShader emptied).hasDevice device = true ↔
        device ∈ (shaders.foldl loseShader emptied).heldDevices := by
    intro device member
    refine keeps.numbered.device left.held ?_ ?_
    · rwa [registeredDevices_eq present]
    · rw [registeredDevices_eq left.registries]
      exact List.not_mem_nil
  rw [shutdown_run present, thenRelease_world, emptiedAll_healthy healthy,
    removed_healthy healthy.shaders, removed_healthy healthy.devices,
    releaseEach_map ShaderEntry.shader Shader.letGo, releaseShaders_world shadersUnlisted,
    releaseDevices_world devicesUnlisted]

/-- Nothing is registered any more, and nothing is left but what the application has. -/
structure Closes (world : World) (all : Registries) (events : List Event) (after : World) :
    Prop where
  registries : after.registries = some .empty
  told : events =
    all.shaders.content.values.flatMap (fun entry => world.shaderLeaves entry.shader) ++
      all.devices.content.values.flatMap world.deviceLeaves
  held : after.held = world.held
  shaders : after.liveShaders = world.heldShaders.toFinset
  devices : after.liveDevices = world.heldDevices.toFinset

theorem Keeps.closes (keeps : world.Keeps serial 0) (present : world.registries = some all)
    (healthy : all.Healthy) :
    world.Closes all (Session.step world (.call .shutdown)).1.events
      (Session.step world (.call .shutdown)).2 := by
  let emptied := World.withRegistries { world with trace := [] } .empty
  let shaders := all.shaders.content.values.map ShaderEntry.shader
  have shown : (Session.step world (.call .shutdown)).1.events =
      (Session.step world (.call .shutdown)).2.trace := rfl
  have ended : (Session.step world (.call .shutdown)).2 =
      all.devices.content.values.foldl loseDevice (shaders.foldl loseShader emptied) :=
    (Session.silently_world _ _).trans (keeps.watched.shutdown_world present healthy)
  have first := foldl_stands loseShader_stands shaders emptied
  have last := first.trans (foldl_stands loseDevice_stands all.devices.content.values _)
  rw [shown, ended]
  refine ⟨last.registries, ?_, last.held, ?_, ?_⟩
  · rw [foldl_trace loseDevice_stands loseDevice_trace fun stands => stands.deviceLeaves,
      foldl_trace loseShader_stands loseShader_trace fun stands => stands.shaderLeaves,
      funext first.deviceLeaves, List.flatMap_map]
    rfl
  · rw [liveShaders, registeredShaders_eq last.registries, heldShaders, last.held]
    rfl
  · rw [liveDevices, registeredDevices_eq last.registries, heldDevices, last.held]
    rfl

end World

namespace Session

open World

variable {heap : Heap}

/-- However the logger behaves, a shutdown of healthy registries ends first the shaders and then the
devices that the application has no reference to. If it has none at all, no allocator that is for
devices and shaders only has anything left to get back. -/
theorem shutdown_ends_shaders_before_devices (commands : List Command) {all : Registries}
    (present : (run (.initial heap) commands).2.registries = some all) (healthy : all.Healthy) :
    let world := (run (.initial heap) commands).2
    let after := (step world (.call .shutdown)).2
    world.Closes all (step world (.call .shutdown)).1.events after ∧
      ∀ serial, spares serial (.initial heap) commands = true → after.Accounted serial ∧
        (world.heldShaders = [] → world.heldDevices = [] →
          ∀ tracker, after.allocators serial = .tracking tracker →
            tracker.liveCount = 0 ∧ tracker.totalBytes = 0) := by
  intro world after
  obtain ⟨unused, sparing⟩ := exists_spared (.initial heap) commands
  have closes : world.Closes all (step world (.call .shutdown)).1.events after :=
    ((initial_keeps unused).run (sparing unused (Nat.le_refl _))).closes present healthy
  refine ⟨closes, fun serial spared => ?_⟩
  have kept : after.Keeps serial 0 :=
    ((initial_keeps serial).run spared).step (.call .shutdown) (Option.some_ne_none serial).symm
  refine ⟨kept.accounted, fun shaders devices tracker watched => ?_⟩
  have accounts : tracker.Accounts (demandsAt serial after.liveDevices after.liveShaders) :=
    kept.accounts tracker watched
  rw [closes.devices, closes.shaders, shaders, devices] at accounts
  exact ⟨accounts.liveCount, accounts.totalBytes⟩

/-- Two shaders are registered, and the logger will panic at the entry about the end of the first. -/
def panicAtFirstEnd : List Command :=
  [.memory (.makeAllocator "heap" (some 1000)), .call .startUp,
    .call (.createDevice { plainSettings with debug := some true, allocator := some "heap" }),
    plainShader ⟨1, 1⟩, plainShader ⟨1, 1⟩,
    .call (.setLogger [{ severity := some .trace, skip := 0 }])]

theorem panic_at_first_end_leaves_nothing :
    spares 0 .initial panicAtFirstEnd = true ∧
      (run .initial panicAtFirstEnd).2.registeredShaders.length = 2 ∧
      (step (run .initial panicAtFirstEnd).2 (.call .shutdown)).1.exit = .unwound ∧
      ∃ all, (run .initial panicAtFirstEnd).2.registries = some all ∧ all.Healthy ∧
        (run .initial panicAtFirstEnd).2.Closes all
          (step (run .initial panicAtFirstEnd).2 (.call .shutdown)).1.events
          (step (run .initial panicAtFirstEnd).2 (.call .shutdown)).2 ∧
        ∀ tracker, (step (run .initial panicAtFirstEnd).2 (.call .shutdown)).2.allocators 0 =
          .tracking tracker → tracker.liveCount = 0 ∧ tracker.totalBytes = 0 := by
  have spared : spares 0 .initial panicAtFirstEnd = true := by decide +kernel
  have healthy : (run .initial panicAtFirstEnd).2.healthy = true := by decide +kernel
  have shaders : (run .initial panicAtFirstEnd).2.heldShaders = [] := by decide +kernel
  have devices : (run .initial panicAtFirstEnd).2.heldDevices = [] := by decide +kernel
  obtain ⟨all, present, whole⟩ := healthy_iff.mp healthy
  obtain ⟨closes, accounted⟩ := shutdown_ends_shaders_before_devices panicAtFirstEnd present whole
  exact ⟨spared, by decide +kernel, by decide +kernel, all, present, whole, closes,
    (accounted 0 spared).2 shaders devices⟩

end Session

end ShaderDriver
