import ShaderDriver.EntryPoint.Calls
import ShaderDriver.Proofs.Object.Ownership
import ShaderDriver.Proofs.Object.Reversion
import ShaderDriver.Proofs.Registry.Entries

namespace ShaderDriver

open Act

/-! Reading the registries, which changes nothing but the log, and changing them. -/

namespace Registries

/-- The registries with other content of one of them. -/
def withDevices (all : Registries) (devices : Registry .device Device) : Registries :=
  { all with devices := { all.devices with content := devices } }

def withShaders (all : Registries) (shaders : Registry .shader ShaderEntry) : Registries :=
  { all with shaders := { all.shaders with content := shaders } }

end Registries

def World.withRegistries (world : World) (all : Registries) : World :=
  { world with registries := some all }

namespace EntryPoint

variable {world after : World} {all : Registries}

theorem failLogged_ne_done {α : Type} (error : Error) (value : α) (world after : World) :
    (failLogged error : Act α) world ≠ (.done value, after) := by
  intro done
  obtain ⟨_, _, _, failed⟩ := bind_eq_done.mp done
  cases failed

theorem failLogged_bind {α β : Type} (error : Error) (next : α → Act β) :
    (failLogged error >>= next) = failLogged error := by
  funext world
  change Act.bind (Act.bind (logError error) _) next world = Act.bind (logError error) _ world
  unfold Act.bind
  rcases logError error world with ⟨exit, after⟩
  cases exit <;> rfl

theorem registries_some (found : world.registries = some all) :
    registries world = (.done all, world) := by
  simp only [registries, found]

theorem registries_none (missing : world.registries = none) :
    registries world = failLogged notInitialized world := by
  simp only [registries, missing]

theorem registries_moves : registries.Idle := by
  refine .pointwise fun world => ?_
  cases found : world.registries with
  | none => exact ⟨_, .failLogged notInitialized, registries_none found⟩
  | some all => exact ⟨_, .idle all, registries_some found⟩

theorem registries_eq_done (done : registries world = (.done all, after)) :
    world.registries = some all ∧ after = world := by
  cases found : world.registries with
  | none =>
      rw [registries_none found] at done
      exact absurd done (failLogged_ne_done _ _ _ _)
  | some present =>
      rw [registries_some found] at done
      cases done
      exact ⟨rfl, rfl⟩

theorem unlocked_moves {α : Type} (kind : ObjectKind) (guarded : Guarded α) :
    (unlocked kind guarded).Idle := by
  unfold unlocked
  split
  · exact .failLogged _
  · exact .idle _

theorem unlocked_eq_done {α : Type} {kind : ObjectKind} {guarded : Guarded α} {content : α}
    (done : unlocked kind guarded world = (.done content, after)) :
    guarded.poisoned = false ∧ content = guarded.content ∧ after = world := by
  unfold unlocked at done
  split at done
  · exact absurd done (failLogged_ne_done _ _ _ _)
  · next healthy =>
      cases done
      exact ⟨Bool.eq_false_iff.mpr healthy, rfl, rfl⟩

/-- Nothing runs behind a lock if there are no registries or the lock is poisoned. -/
theorem locked_run {α β : Type} (kind : ObjectKind) (part : Registries → Guarded α)
    (next : α → Act β) (world : World) :
    (registries >>= fun all => unlocked kind (part all) >>= next) world =
      match world.registries with
      | none => failLogged notInitialized world
      | some all =>
          if (part all).poisoned then failLogged (registryPoisoned kind) world
          else next (part all).content world := by
  cases found : world.registries with
  | none =>
      rw [bind_apply, registries_none found, ← bind_apply, failLogged_bind]
  | some all =>
      rw [bind_done (registries_some found)]
      unfold unlocked
      cases poisoned : (part all).poisoned with
      | true =>
          rw [if_pos rfl, failLogged_bind]
          simp only [poisoned, if_true]
      | false =>
          simp only [poisoned, Bool.false_eq_true, if_false]
          rfl

theorem locked_eq_done {α β : Type} {kind : ObjectKind} (part : Registries → Guarded α)
    {next : α → Act β} {value : β}
    (done : (registries >>= fun all => unlocked kind (part all) >>= next) world =
      (.done value, after)) :
    ∃ all, world.registries = some all ∧ (part all).poisoned = false ∧
      next (part all).content world = (.done value, after) := by
  obtain ⟨all, _, read, rest⟩ := bind_eq_done.mp done
  obtain ⟨present, rfl⟩ := registries_eq_done read
  obtain ⟨content, _, opened, ran⟩ := bind_eq_done.mp rest
  obtain ⟨healthy, rfl, rfl⟩ := unlocked_eq_done opened
  exact ⟨all, present, healthy, ran⟩

theorem setDevices_run (found : world.registries = some all) (devices : Registry .device Device) :
    setDevices devices world = (.done (), world.withRegistries (all.withDevices devices)) := by
  simp only [setDevices, changeRegistries, Act.change, found, Option.map_some,
    World.withRegistries, Registries.withDevices]

theorem setShaders_run (found : world.registries = some all)
    (shaders : Registry .shader ShaderEntry) :
    setShaders shaders world = (.done (), world.withRegistries (all.withShaders shaders)) := by
  simp only [setShaders, changeRegistries, Act.change, found, Option.map_some,
    World.withRegistries, Registries.withShaders]

/-! Looking objects up. -/

theorem device_moves (handle : Handle .device) : (device handle).Idle := by
  refine registries_moves.bind fun all => (unlocked_moves .device all.devices).bind fun devices => ?_
  split
  · exact .idle _
  · exact .failLogged _

theorem device_eq_done {handle : Handle .device} {found : Device}
    (done : device handle world = (.done found, after)) :
    ∃ all, world.registries = some all ∧ all.devices.poisoned = false ∧
      all.devices.content.get? handle = some found ∧ after = world := by
  obtain ⟨all, present, healthy, ran⟩ := locked_eq_done Registries.devices done
  cases stored : all.devices.content.get? handle with
  | none =>
      rw [stored] at ran
      exact absurd ran (failLogged_ne_done _ _ _ _)
  | some value =>
      rw [stored] at ran
      cases ran
      exact ⟨all, present, healthy, stored, rfl⟩

theorem shader_moves (handle : Handle .shader) : (shader handle).Idle := by
  refine registries_moves.bind fun all => (unlocked_moves .shader all.shaders).bind fun shaders => ?_
  split
  · exact .idle _
  · exact .failLogged _

/-! Registering objects. -/

theorem registerDevice_eq_done {device : Device} {handle : Handle .device}
    (done : registerDevice device world = (.done handle, after)) :
    ∃ all, world.registries = some all ∧ all.devices.poisoned = false ∧
      handle = (all.devices.content.insert device).1 ∧
      after = world.withRegistries (all.withDevices (all.devices.content.insert device).2) := by
  obtain ⟨all, present, healthy, ran⟩ := locked_eq_done Registries.devices done
  obtain ⟨_, last, stored, rest⟩ := bind_eq_done.mp ran
  rw [setDevices_run present] at stored
  cases stored
  cases rest
  exact ⟨all, present, healthy, rfl, rfl⟩

theorem registerDevice_cases (device : Device) (world : World) :
    (∃ error, registerDevice device world = failLogged error world) ∨
      ∃ all, world.registries = some all ∧ registerDevice device world =
        (.done (all.devices.content.insert device).1,
          world.withRegistries (all.withDevices (all.devices.content.insert device).2)) := by
  have ran : registerDevice device world = _ :=
    locked_run .device Registries.devices _ world
  rw [ran]
  cases present : world.registries with
  | none => exact .inl ⟨_, rfl⟩
  | some all =>
      simp only
      split
      · exact .inl ⟨_, rfl⟩
      · exact .inr ⟨all, rfl, bind_done (setDevices_run present _)⟩

theorem registerDevice_reverts (device : Device) : (registerDevice device).Reverts 0 :=
  .bind registries_moves fun all => .bind (unlocked_moves .device all.devices) fun _ =>
    .of_finishes fun _ => rfl

theorem registerShader_eq_done {owner : Handle .device} {shader : Shader} {handle : Handle .shader}
    (done : registerShader owner shader world = (.done handle, after)) :
    ∃ all, world.registries = some all ∧ all.shaders.poisoned = false ∧
      handle = (all.shaders.content.insert { owner, shader }).1 ∧
      after = world.withRegistries (all.withShaders (all.shaders.content.insert { owner, shader }).2) := by
  obtain ⟨all, present, healthy, ran⟩ := locked_eq_done Registries.shaders done
  obtain ⟨_, last, stored, rest⟩ := bind_eq_done.mp ran
  rw [setShaders_run present] at stored
  cases stored
  cases rest
  exact ⟨all, present, healthy, rfl, rfl⟩

theorem registerShader_cases (owner : Handle .device) (shader : Shader) (world : World) :
    (∃ error, registerShader owner shader world = failLogged error world) ∨
      ∃ all, world.registries = some all ∧ registerShader owner shader world =
        (.done (all.shaders.content.insert { owner, shader }).1,
          world.withRegistries
            (all.withShaders (all.shaders.content.insert { owner, shader }).2)) := by
  have ran : registerShader owner shader world = _ :=
    locked_run .shader Registries.shaders _ world
  rw [ran]
  cases present : world.registries with
  | none => exact .inl ⟨_, rfl⟩
  | some all =>
      simp only
      split
      · exact .inl ⟨_, rfl⟩
      · exact .inr ⟨all, rfl, bind_done (setShaders_run present _)⟩

theorem registerShader_reverts (owner : Handle .device) (shader : Shader) :
    (registerShader owner shader).Reverts 0 :=
  .bind registries_moves fun all => .bind (unlocked_moves .shader all.shaders) fun _ =>
    .of_finishes fun _ => rfl

/-! Taking the shaders of a device out. -/

/-- The entries of the shaders that were asked of a device. -/
def ownedBy (owner : Handle .device) (shaders : Registry .shader ShaderEntry) :
    List (Handle .shader × ShaderEntry) :=
  shaders.entries.filter fun entry => entry.2.owner == owner

/-! Emptying the registries. -/

/-- What a shutdown takes out of a registry. -/
def removed {kind : ObjectKind} {α : Type} (guarded : Guarded (Registry kind α)) : List α :=
  if guarded.poisoned then [] else guarded.content.values

/-- What a shutdown leaves of a registry. -/
def emptied {kind : ObjectKind} {α : Type} (guarded : Guarded (Registry kind α)) :
    Guarded (Registry kind α) :=
  if guarded.poisoned then guarded else { guarded with content := .empty }

def emptiedAll (all : Registries) : Registries :=
  { devices := emptied all.devices, shaders := emptied all.shaders }

theorem removed_append_emptied {kind : ObjectKind} {α : Type}
    (guarded : Guarded (Registry kind α)) :
    removed guarded ++ (emptied guarded).content.values = guarded.content.values := by
  unfold removed emptied
  split
  · rfl
  · exact List.append_nil _

theorem emptied_tidy {kind : ObjectKind} {α : Type} {guarded : Guarded (Registry kind α)}
    (tidy : guarded.content.Tidy) : (emptied guarded).content.Tidy := by
  unfold emptied
  split
  · exact tidy
  · exact Registry.tidy_empty

theorem shutdown_run (found : world.registries = some all) :
    shutdown world = (releaseEach (fun entry => entry.shader.letGo) (removed all.shaders)).thenRelease
      (releaseEach Device.letGo (removed all.devices)) (world.withRegistries (emptiedAll all)) := by
  simp only [shutdown, found, removed, emptiedAll, emptied, World.withRegistries]

/-! Creating objects under handles. -/

theorem newDevice_moves (config : DeviceConfig) :
    ((Device.create config).onFailure logError).Moves 0 Device.assets :=
  (Device.create_moves config).onFailure fun error => .log (errorRecord error)

theorem admitDevice_reverts (config : DeviceConfig) : (admitDevice config).Reverts 0 :=
  .bind registries_moves fun _ => .bind (newDevice_moves config) fun device =>
    ((registerDevice_reverts device).orRelease device.teardown_moves).map _

theorem admitDevice_eq_done {config : DeviceConfig} {handle : Handle .device} {device : Device}
    (done : admitDevice config world = (.done (handle, device), after)) :
    ∃ middle all, (Device.create config).onFailure logError world = (.done device, middle) ∧
      middle.registries = some all ∧ all.devices.poisoned = false ∧
      handle = (all.devices.content.insert device).1 ∧
      after = middle.withRegistries (all.withDevices (all.devices.content.insert device).2) := by
  obtain ⟨_, _, read, rest⟩ := bind_eq_done.mp done
  obtain ⟨_, rfl⟩ := registries_eq_done read
  obtain ⟨made, middle, created, further⟩ := bind_eq_done.mp rest
  obtain ⟨given, last, registered, finished⟩ := bind_eq_done.mp further
  cases finished
  obtain ⟨all, present, healthy, rfl, rfl⟩ :=
    registerDevice_eq_done (orRelease_eq_done.mp registered)
  exact ⟨middle, all, created, present, healthy, rfl, rfl⟩

theorem admitShader_reverts (owner : Handle .device) (info : CreateInfo) (verdict : Verdict) :
    (admitShader owner info verdict).Reverts 0 :=
  .bind (device_moves owner) fun maker =>
    .bind (Shader.create_moves maker info verdict) fun shader =>
      ((registerShader_reverts owner shader).orRelease shader.teardown_moves).map _

theorem admitShader_eq_done {owner : Handle .device} {info : CreateInfo} {verdict : Verdict}
    {handle : Handle .shader} {shader : Shader}
    (done : admitShader owner info verdict world = (.done (handle, shader), after)) :
    ∃ maker middle all, device owner world = (.done maker, world) ∧
      Shader.create maker info verdict world = (.done shader, middle) ∧
      middle.registries = some all ∧ all.shaders.poisoned = false ∧
      handle = (all.shaders.content.insert { owner, shader }).1 ∧
      after = middle.withRegistries (all.withShaders (all.shaders.content.insert { owner, shader }).2) := by
  obtain ⟨maker, _, found, rest⟩ := bind_eq_done.mp done
  obtain ⟨_, _, _, _, rfl⟩ := device_eq_done found
  obtain ⟨made, middle, created, further⟩ := bind_eq_done.mp rest
  obtain ⟨given, last, registered, finished⟩ := bind_eq_done.mp further
  cases finished
  obtain ⟨all, present, healthy, rfl, rfl⟩ :=
    registerShader_eq_done (orRelease_eq_done.mp registered)
  exact ⟨maker, middle, all, found, created, present, healthy, rfl, rfl⟩

theorem createShader_reverts (owner : Handle .device) (info : CreateInfo) (verdict : Verdict) :
    (createShader owner info verdict).Reverts 0 :=
  (admitShader_reverts owner info verdict).map Prod.fst

theorem raw_world {α : Type} (act : Act α) (world : World) : (raw act world).2 = (act world).2 := by
  unfold raw
  generalize act world = ran
  obtain ⟨exit, after⟩ := ran
  cases exit <;> rfl

end EntryPoint

end ShaderDriver
