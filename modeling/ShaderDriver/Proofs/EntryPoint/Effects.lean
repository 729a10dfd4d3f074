import ShaderDriver.Proofs.EntryPoint.Lookup

namespace ShaderDriver

open Act

/-! What the entry points leave alone in the registries, and how those that create or refuse end. -/

variable {α β : Type}

namespace Act

/-- The registries are left alone. -/
def untouched : Frame where
  related first second := second.registries = first.registries
  refl _ := rfl
  trans first second := second.trans first

theorem Moves.untouched {act : Act α} {spent : Multiset Asset} {gained : α → Multiset Asset}
    (moves : act.Moves spent gained) : Act.untouched.Holds act :=
  fun world => (moves.retains world).registries

theorem change_untouched {update : World → World}
    (same : ∀ world, (update world).registries = world.registries) :
    Act.untouched.Holds (Act.change update) :=
  same

end Act

theorem Device.letGo_untouched (device : Device) : Act.untouched.Holds device.letGo := by
  intro world
  unfold Device.letGo
  split
  · rfl
  · exact device.teardown_moves.untouched world

theorem Shader.letGo_untouched (shader : Shader) : Act.untouched.Holds shader.letGo := by
  intro world
  unfold Shader.letGo
  split
  · rfl
  · exact shader.teardown_moves.untouched world

theorem Held.letGo_untouched (object : Held) : Act.untouched.Holds object.letGo := by
  cases object with
  | allocator _ => exact .pure ()
  | compiler _ => exact .pure ()
  | buffer own => exact own.release_moves.untouched
  | base own => exact own.release_moves.untouched
  | ir own => exact own.release_moves.untouched
  | program own => exact own.destroy_moves.untouched
  | device shared => exact shared.letGo_untouched
  | shader shared => exact shared.letGo_untouched

/-- Neither registry is poisoned. -/
structure Registries.Healthy (all : Registries) : Prop where
  devices : all.devices.poisoned = false
  shaders : all.shaders.poisoned = false

namespace EntryPoint

variable {world : World} {all left : Registries}

theorem failLogged_exit (error : Error) (world : World) :
    (failLogged error : Act α) world =
      (if (world.logger.receive .error).1 then .unwound else .failed error,
        (logError error world).2) := by
  change Act.bind (logError error) _ world = _
  unfold Act.bind logError log
  rw [show (errorRecord error).severity = .error from rfl]
  rcases world.logger.receive .error with ⟨panics, next⟩
  cases panics <;> rfl

theorem failLogged_unfinished (error : Error) (world : World) :
    (failLogged error world : Exit α × World).1.isDone = false := by
  rw [failLogged_exit]
  split <;> rfl

theorem failLogged_untouched (error : Error) : untouched.Holds (failLogged error : Act α) :=
  (Moves.failLogged error : (failLogged error : Act α).Idle).untouched

/-! What holds between worlds with the same registries, and when an object is registered, holds when
one is created. -/

section

variable {frame : Frame}
  (quiet : ∀ {α : Type} {act : Act α}, untouched.Holds act → frame.Holds act)

include quiet

theorem createDevice_holds (registered : ∀ device, frame.Holds (registerDevice device))
    (config : DeviceConfig) : frame.Holds (createDevice config) := by
  have admitted : frame.Holds (admitDevice config) :=
    .bind (quiet registries_moves.untouched) fun _ =>
      .bind (quiet (newDevice_moves config).untouched) fun device =>
        .bind ((registered device).orRelease (quiet device.teardown_moves.untouched)) fun _ => .pure _
  exact .bind admitted fun _ => .bind (quiet (Moves.note .info _ _).untouched) fun _ => .pure _

theorem admitShader_holds (registered : ∀ owner shader, frame.Holds (registerShader owner shader))
    (owner : Handle .device) (info : CreateInfo) (verdict : Verdict) :
    frame.Holds (admitShader owner info verdict) :=
  .bind (quiet (device_moves owner).untouched) fun maker =>
    .bind (quiet (Shader.create_moves maker info verdict).untouched) fun shader =>
      .bind ((registered owner shader).orRelease (quiet shader.teardown_moves.untouched)) fun _ =>
        .pure _

end

theorem admitDevice_registries {config : DeviceConfig} {handle : Handle .device} {device : Device}
    (done : (admitDevice config world).1 = .done (handle, device)) :
    ∃ all, world.registries = some all ∧ handle = all.devices.content.nextHandle ∧
      (admitDevice config world).2.registries =
        some (all.withDevices (all.devices.content.insert device).2) := by
  rcases ran : admitDevice config world with ⟨exit, after⟩
  rw [ran] at done
  cases done
  obtain ⟨middle, all, created, found, _, rfl, rfl⟩ := admitDevice_eq_done ran
  have kept := (newDevice_moves config).retained created
  exact ⟨all, kept.registries.symm.trans found, rfl, rfl⟩

theorem admitShader_registries {owner : Handle .device} {info : CreateInfo} {verdict : Verdict}
    {handle : Handle .shader} {shader : Shader}
    (done : (admitShader owner info verdict world).1 = .done (handle, shader)) :
    ∃ all, world.registries = some all ∧ handle = all.shaders.content.nextHandle ∧
      (admitShader owner info verdict world).2.registries =
        some (all.withShaders (all.shaders.content.insert { owner, shader }).2) := by
  rcases ran : admitShader owner info verdict world with ⟨exit, after⟩
  rw [ran] at done
  cases done
  obtain ⟨maker, middle, all, _, created, found, _, rfl, rfl⟩ := admitShader_eq_done ran
  have kept := (Shader.create_moves maker info verdict).retained created
  exact ⟨all, kept.registries.symm.trans found, rfl, rfl⟩

theorem createDevice_registries (config : DeviceConfig) (world : World) :
    (createDevice config world).2.registries = (admitDevice config world).2.registries := by
  unfold createDevice
  rw [bind_apply]
  rcases admitDevice config world with ⟨exit, after⟩
  cases exit with
  | failed error => rfl
  | unwound => rfl
  | done admitted =>
      exact ((Moves.note .info _ _).bind fun _ => .idle _).untouched after

/-- Only a logger that panics at the last entry keeps the handle of an admitted device from the
caller. -/
theorem createDevice_exit (config : DeviceConfig) (world : World) :
    match (admitDevice config world).1 with
    | .done (handle, _) => (createDevice config world).1 = .done handle ∨
        (createDevice config world).1 = .unwound
    | .failed error => (createDevice config world).1 = .failed error
    | .unwound => (createDevice config world).1 = .unwound := by
  unfold createDevice
  rw [bind_apply]
  rcases admitDevice config world with ⟨exit, after⟩
  cases exit with
  | failed error => rfl
  | unwound => rfl
  | done admitted =>
      simp only [bind_apply, note, log]
      cases (after.logger.receive .info).1
      · exact .inl rfl
      · exact .inr rfl

theorem createShader_exit (owner : Handle .device) (info : CreateInfo) (verdict : Verdict)
    (world : World) :
    match (admitShader owner info verdict world).1 with
    | .done (handle, _) => (createShader owner info verdict world).1 = .done handle
    | .failed error => (createShader owner info verdict world).1 = .failed error
    | .unwound => (createShader owner info verdict world).1 = .unwound := by
  unfold createShader
  rw [bind_apply]
  rcases admitShader owner info verdict world with ⟨exit, after⟩
  cases exit <;> rfl

/-- The registries without a device and without the shaders that were asked of it. -/
def dismissed (all : Registries) (handle : Handle .device) : Registries :=
  (all.withDevices (all.devices.content.erase handle)).withShaders
    (all.shaders.content.eraseAll ((ownedBy handle all.shaders.content).map Prod.fst))

/-! Handles that are not known. -/

/-- The handle is refused. Only the logger can keep the error from being passed on, and no entry of
a registry changes. -/
structure Refuses (act : Act α) {kind : ObjectKind} (handle : Handle kind) (world : World) : Prop where
  exit : (act world).1 =
    if (world.logger.receive .error).1 then .unwound else .failed (unknown handle)
  entries : ∀ all, world.registries = some all → ∃ left, (act world).2.registries = some left ∧
    left.devices.content = all.devices.content ∧ left.shaders.content = all.shaders.content

theorem failLogged_refuses {kind : ObjectKind} (handle : Handle kind) (world : World) :
    Refuses (failLogged (unknown handle) : Act α) handle world where
  exit := by rw [failLogged_exit]
  entries all present := ⟨all, by rw [failLogged_untouched, present], rfl, rfl⟩

/-- A lock that is poisoned on the way out does not change how an action ends. -/
theorem writing_exit (kind : ObjectKind) (act : Act α) (world : World) :
    (writing kind act world).1 = (act world).1 := by
  unfold writing
  generalize act world = ran
  obtain ⟨exit, after⟩ := ran
  cases exit <;> rfl

theorem writing_refuses {act : Act α} {kind : ObjectKind} {handle : Handle kind}
    (refuses : Refuses act handle world) : Refuses (writing kind act) handle world where
  exit := by rw [writing_exit, refuses.exit]
  entries all present := by
    obtain ⟨left, found, devices, shaders⟩ := refuses.entries all present
    unfold writing
    generalize act world = ran at found ⊢
    obtain ⟨exit, after⟩ := ran
    cases exit with
    | done value => exact ⟨left, found, devices, shaders⟩
    | failed error => exact ⟨left, found, devices, shaders⟩
    | unwound =>
        have found : after.registries = some left := found
        simp only [poison, changeRegistries, Act.change, found, Option.map_some]
        cases kind with
        | device => exact ⟨_, rfl, devices, shaders⟩
        | shader => exact ⟨_, rfl, devices, shaders⟩

theorem Refuses.of_run {act other : Act α} {kind : ObjectKind} {handle : Handle kind}
    (refuses : Refuses other handle world) (same : act world = other world) :
    Refuses act handle world := by
  obtain ⟨exit, entries⟩ := refuses
  rw [← same] at exit entries
  exact ⟨exit, entries⟩

theorem device_run (present : world.registries = some all) (healthy : all.Healthy)
    (handle : Handle .device) : device handle world =
      match all.devices.content.get? handle with
      | some found => (.done found, world)
      | none => failLogged (unknown handle) world := by
  unfold device
  rw [locked_run .device Registries.devices]
  simp only [present, healthy.devices, Bool.false_eq_true, if_false]
  cases all.devices.content.get? handle <;> rfl

theorem shader_run (present : world.registries = some all) (healthy : all.Healthy)
    (handle : Handle .shader) : shader handle world =
      match all.shaders.content.get? handle with
      | some found => (.done found.shader, world)
      | none => failLogged (unknown handle) world := by
  unfold shader
  rw [locked_run .shader Registries.shaders]
  simp only [present, healthy.shaders, Bool.false_eq_true, if_false]
  cases all.shaders.content.get? handle <;> rfl

theorem unknown_device_refused {handle : Handle .device} (present : world.registries = some all)
    (healthy : all.Healthy) (absent : all.devices.content.get? handle = none) :
    Refuses (device handle) handle world ∧ Refuses (destroyDevice handle) handle world := by
  have looked := device_run present healthy handle
  rw [absent] at looked
  have destroyed : destroyDevice handle world =
      writing .device (failLogged (unknown handle) : Act Unit) world := by
    unfold destroyDevice
    rw [locked_run .device Registries.devices]
    simp only [present, healthy.devices, Bool.false_eq_true, if_false, absent]
  exact ⟨(failLogged_refuses handle world).of_run looked,
    (writing_refuses (failLogged_refuses handle world)).of_run destroyed⟩

theorem unknown_shader_refused {handle : Handle .shader} (present : world.registries = some all)
    (healthy : all.Healthy) (absent : all.shaders.content.get? handle = none) :
    Refuses (shader handle) handle world ∧ Refuses (destroyObject handle) handle world := by
  have looked := shader_run present healthy handle
  rw [absent] at looked
  have destroyed : destroyObject handle world =
      writing .shader (failLogged (unknown handle) : Act Unit) world := by
    unfold destroyObject
    rw [locked_run .shader Registries.shaders]
    simp only [present, healthy.shaders, Bool.false_eq_true, if_false, absent]
  exact ⟨(failLogged_refuses handle world).of_run looked,
    (writing_refuses (failLogged_refuses handle world)).of_run destroyed⟩

end EntryPoint

end ShaderDriver
