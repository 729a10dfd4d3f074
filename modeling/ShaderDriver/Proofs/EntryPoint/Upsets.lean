import ShaderDriver.Proofs.EntryPoint.Lookup
import ShaderDriver.Proofs.Object.Upsets

namespace ShaderDriver.EntryPoint

open Act

/-! The entry points of the driver add no reason to panic either, and no lock is poisoned without
one. -/

variable {verdict : Option Verdict} {excuse : Prop} {α : Type}

theorem registries_explained : Explained verdict excuse registries := by
  intro world
  unfold registries
  cases found : world.registries with
  | none => exact Explained.failLogged _ world
  | some all => exact Explained.pure all world

theorem unlocked_explained (kind : ObjectKind) (guarded : Guarded α) :
    Explained verdict excuse (unlocked kind guarded) := by
  unfold unlocked
  split
  · exact .failLogged _
  · exact .pure _

theorem changeRegistries_explained {update : Registries → Registries}
    (locks : ∀ all, (update all).devices.poisoned = all.devices.poisoned ∧
      (update all).shaders.poisoned = all.shaders.poisoned) :
    Explained verdict excuse (changeRegistries update) := by
  refine .change (fun _ => rfl) (fun _ => rfl) (fun _ => rfl) (fun _ _ _ panics => panics)
    fun world sound => ⟨sound.parsers, fun all found => ?_, sound.counters⟩
  obtain ⟨before, known, rfl⟩ := Option.map_eq_some_iff.mp found
  rw [(locks before).1, (locks before).2]
  exact sound.registries before known

theorem setDevices_explained (devices : Registry .device Device) :
    Explained verdict excuse (setDevices devices) :=
  changeRegistries_explained fun _ => ⟨rfl, rfl⟩

theorem setShaders_explained (shaders : Registry .shader ShaderEntry) :
    Explained verdict excuse (setShaders shaders) :=
  changeRegistries_explained fun _ => ⟨rfl, rfl⟩

/-- A lock that is held for writing is poisoned only by an unwinding. -/
theorem writing_explained {act : Act α} (kind : ObjectKind) (explained : Explained verdict excuse act) :
    Explained verdict excuse (writing kind act) := by
  intro world
  have start := explained world
  unfold writing
  generalize act world = ran at start ⊢
  obtain ⟨exit, after⟩ := ran
  cases exit with
  | done value => exact start
  | failed error => exact start
  | unwound =>
      have unseen : after.Passes (poison kind after).2 verdict [] :=
        .unseen rfl rfl rfl fun _ _ panics => panics
      obtain ⟨events, passes, reason⟩ := start.reason
      refine ⟨⟨events, ?_, fun ended => ?_⟩, fun faulty => ?_, fun calm => absurd rfl calm⟩
      · simpa using passes.trans unseen
      · exact (reason ended).imp_right (Or.imp_right fun faulty => faulty.moved rfl)
      · exact (start.lasting faulty).moved rfl

theorem startUp_explained : Explained verdict excuse startUp := by
  refine .change (fun _ => rfl) (fun _ => rfl) (fun _ => rfl) (fun _ _ _ panics => panics)
    fun world sound => ⟨sound.parsers, fun all found => ?_, sound.counters⟩
  cases known : world.registries with
  | none =>
      simp only [known, Option.getD_none, Option.some.injEq] at found
      rw [← found]
      exact ⟨rfl, rfl⟩
  | some before =>
      simp only [known, Option.getD_some, Option.some.injEq] at found
      rw [← found]
      exact sound.registries before known

theorem emptied_poisoned {kind : ObjectKind} (guarded : Guarded (Registry kind α)) :
    (emptied guarded).poisoned = guarded.poisoned := by
  unfold emptied
  split <;> rfl

theorem shutdown_explained : Explained verdict excuse shutdown := by
  intro world
  cases found : world.registries with
  | none =>
      have unchanged : shutdown world = (.done (), world) := by
        simp only [shutdown, found]
      rw [unchanged]
      exact Explained.pure () world
  | some all =>
      have releases : Explained verdict excuse
          ((releaseEach (fun entry => entry.shader.letGo) (removed all.shaders)).thenRelease
            (releaseEach Device.letGo (removed all.devices))) :=
        (Explained.releaseEach _ fun entry => entry.shader.letGo_explained).thenRelease
          (.releaseEach _ Device.letGo_explained)
      have emptied : Explains verdict excuse world False
          (world.withRegistries (emptiedAll all)) := by
        refine ⟨⟨[], .unseen rfl rfl rfl fun _ _ panics => panics, False.elim⟩,
          fun faulty => faulty.moved rfl, fun _ sound => ?_⟩
        refine ⟨sound.parsers, fun left emptied => ?_, sound.counters⟩
        cases emptied
        rw [emptiedAll, emptied_poisoned, emptied_poisoned]
        exact sound.registries all found
      rw [shutdown_run found]
      exact emptied.trans (releases (world.withRegistries (emptiedAll all)))

theorem registerDevice_explained (device : Device) :
    Explained verdict excuse (registerDevice device) :=
  .bind registries_explained fun _ => .bind (unlocked_explained _ _) fun _ =>
    .bind (setDevices_explained _) fun _ => .pure _

theorem admitDevice_explained (config : DeviceConfig) :
    Explained verdict excuse (admitDevice config) :=
  .bind registries_explained fun _ =>
    .bind ((Device.create_explained config).onFailure fun _ => .log _) fun device =>
      .bind ((registerDevice_explained device).orRelease device.teardown_explained) fun _ => .pure _

theorem createDevice_explained (config : DeviceConfig) :
    Explained verdict excuse (createDevice config) :=
  .bind (admitDevice_explained config) fun _ => .bind (.note .info _ _) fun _ => .pure _

theorem device_explained (handle : Handle .device) : Explained verdict excuse (device handle) := by
  refine .bind registries_explained fun all => .bind (unlocked_explained _ _) fun devices => ?_
  split
  · exact .pure _
  · exact .failLogged _

theorem takeOwned_explained (owner : Handle .device) :
    Explained verdict excuse (takeOwned owner) :=
  .bind registries_explained fun _ => .bind (unlocked_explained _ _) fun _ =>
    .bind (setShaders_explained _) fun _ => .pure _

theorem dismiss_explained (handle : Handle .device) : Explained verdict excuse (dismiss handle) :=
  .bind (takeOwned_explained handle) fun orphans =>
    (Explained.note .info _ _).thenRelease (.releaseEach orphans Shader.letGo_explained)

theorem destroyDevice_explained (handle : Handle .device) :
    Explained verdict excuse (destroyDevice handle) := by
  refine .bind registries_explained fun all => .bind (unlocked_explained _ _) fun devices => ?_
  split
  · exact writing_explained .device (.failLogged _)
  · next found _ =>
      exact .bind (setDevices_explained _) fun _ =>
        (dismiss_explained handle).thenRelease found.letGo_explained

theorem registerShader_explained (owner : Handle .device) (shader : Shader) :
    Explained verdict excuse (registerShader owner shader) :=
  .bind registries_explained fun _ => .bind (unlocked_explained _ _) fun _ =>
    .bind (setShaders_explained _) fun _ => .pure _

theorem admitShader_explained (owner : Handle .device) (info : CreateInfo) (answer : Verdict) :
    Explained (some answer) excuse (admitShader owner info answer) :=
  .bind (device_explained owner) fun maker =>
    .bind (Shader.create_explained maker info answer) fun shader =>
      .bind ((registerShader_explained owner shader).orRelease shader.teardown_explained) fun _ =>
        .pure _

theorem createShader_explained (owner : Handle .device) (info : CreateInfo) (answer : Verdict) :
    Explained (some answer) excuse (createShader owner info answer) :=
  .bind (admitShader_explained owner info answer) fun _ => .pure _

theorem raw_explained {act : Act α} (explained : Explained verdict excuse act) :
    Explained verdict excuse (raw act) := by
  intro world
  have start := explained world
  unfold raw
  generalize act world = ran at start ⊢
  obtain ⟨exit, after⟩ := ran
  cases exit with
  | done value => exact start.recast (by simp)
  | failed error => exact start.recast (by simp)
  | unwound => exact start.recast (by simp)

theorem shader_explained (handle : Handle .shader) : Explained verdict excuse (shader handle) := by
  refine .bind registries_explained fun all => .bind (unlocked_explained _ _) fun shaders => ?_
  split
  · exact .pure _
  · exact .failLogged _

theorem destroyObject_explained (handle : Handle .shader) :
    Explained verdict excuse (destroyObject handle) := by
  refine .bind registries_explained fun all => .bind (unlocked_explained _ _) fun shaders => ?_
  split
  · exact writing_explained .shader (.failLogged _)
  · next entry _ => exact .bind (setShaders_explained _) fun _ => entry.shader.letGo_explained

end ShaderDriver.EntryPoint
