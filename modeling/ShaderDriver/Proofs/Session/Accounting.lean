import ShaderDriver.Proofs.Session.Commands

namespace ShaderDriver

open Memory

/-! Over whole runs, the account of an allocator is the demand of the devices and shaders that are
alive. -/

namespace World

variable {heap : Heap} {world : World} {serial : Nat}

/-- In the beginning there are no references, and every account is empty. -/
theorem initial_keeps (serial : Nat) : (initial heap).Keeps serial 0 where
  orderly :=
    { named := .nil
      tidy := fun _ impossible => nomatch impossible
      devices := .nil
      shaders := .nil }
  once := Multiset.nodup_zero
  consistent :=
    { same := fun _ impossible => absurd impossible (Multiset.notMem_zero _)
      fits := fun _ impossible => absurd impossible (Multiset.notMem_zero _) }
  balances := ⟨0, Allocator.tracking_accounts.mpr (Tracker.withBudget_accounts none), rfl⟩

theorem Keeps.run {commands : List Session.Command} (keeps : world.Keeps serial 0)
    (spared : Session.spares serial world commands = true) :
    (Session.run world commands).2.Keeps serial 0 := by
  induction commands generalizing world with
  | nil => exact keeps
  | cons command rest ih =>
      obtain ⟨first, later⟩ := Bool.and_eq_true_iff.mp spared
      exact ih (keeps.step command (bne_iff_ne.mp first)) later

/-- For every type the account of an allocator has the number and the bytes that the devices and
shaders in its memory ask for while they are alive. -/
structure Accounted (world : World) (serial : Nat) : Prop where
  account : ∀ tracker, world.allocators serial = .tracking tracker → ∀ type,
    tracker.liveUsage type = Usage.total
      (∑ device ∈ world.liveDevices with device.allocator.serial = serial,
          {(Device.footprint, .apiObject)} +
        ∑ shader ∈ world.liveShaders with shader.allocator.serial = serial, shader.demands)
      type
  devices : ∀ device ∈ world.liveDevices, ∃ config, device.MadeFrom config
  shaders : ∀ shader ∈ world.liveShaders, ∃ device info source, shader.MadeFrom device info ∧
    Source.Of device info source ∧ shader.demands =
      {(Shader.footprint, .apiObject)} + {(Ir.footprint, .internalShader)} + source.demands +
        (if device.debug then {(info.code.length, .debug)} else 0)

theorem Keeps.accounts (keeps : world.Keeps serial 0) :
    (world.allocators serial).Accounts (demandsAt serial world.liveDevices world.liveShaders) := by
  obtain ⟨_, balances⟩ := keeps.balances
  have memory := balances.memory
  rwa [zero_add, memoryAt_assetsIn fun object member => keeps.fits member, devicesIn_references,
    shadersIn_references] at memory

theorem Keeps.accounted (keeps : world.Keeps serial 0) : world.Accounted serial where
  account tracker watched type := (keeps.accounts tracker watched).liveUsage type
  devices device alive := by
    rw [← devicesIn_references, mem_devicesIn] at alive
    exact (keeps.fits alive).1
  shaders shader alive := by
    rw [← shadersIn_references, mem_shadersIn] at alive
    obtain ⟨device, info, made⟩ := (keeps.fits alive).1
    obtain ⟨source, asked, demands⟩ := made.demands
    exact ⟨device, info, source, made, asked, demands⟩

end World

namespace Session

open World

variable {heap : Heap}

/-- An allocator that commands turn to through devices and shaders only has exactly what the devices
and shaders that are alive ask for. -/
theorem account_is_demand_of_the_living (serial : Nat) (commands : List Command)
    (spared : spares serial (.initial heap) commands = true) :
    (run (.initial heap) commands).2.Accounted serial :=
  ((initial_keeps serial).run spared).accounted

/-- A logger panics while a shader that is not known is destroyed. The device ends, but its shader
stays behind the poisoned lock. -/
def shaderLeftBehind : List Command :=
  [.memory (.makeAllocator "heap" (some 1000)),
    .call .startUp,
    .call (.createDevice
      { extensions := none, debug := some true, gpuName := none, allocator := some "heap",
        compiler := none }),
    .call (.createShader .core ⟨1, 1⟩
      (.bil ((Container.Bil.Header.current 7).toBytes ++ [1, 2, 3, 4])) .panics),
    .call (.setLogger [{ severity := some .error, skip := 0 }]),
    .call (.destroyObject ⟨9, 1⟩),
    .call (.destroyDevice ⟨1, 1⟩),
    .memory (.failNth "heap" 1),
    .call .shutdown]

theorem shader_left_behind_is_accounted :
    spares 0 .initial shaderLeftBehind = true ∧
      (run .initial shaderLeftBehind).2.liveDevices.card = 0 ∧
      (run .initial shaderLeftBehind).2.liveShaders.card = 1 ∧
      (run .initial shaderLeftBehind).2.Accounted 0 := by
  have spared : spares 0 .initial shaderLeftBehind = true := by decide +kernel
  refine ⟨spared, by decide +kernel, by decide +kernel, ?_⟩
  exact account_is_demand_of_the_living 0 shaderLeftBehind spared

end Session

end ShaderDriver
