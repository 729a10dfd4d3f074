import ShaderDriver.Proofs.EntryPoint.Upsets
import ShaderDriver.Proofs.Object.Mirrors

namespace ShaderDriver.EntryPoint

open Act

/-! The entry points go on alike. -/

variable {leeway : Leeway} {heap : Heap} {α γ : Type} {view : α → γ}

/-! Registries and their locks. -/

theorem registries_mirrors : Mirrors leeway heap (Registries.seen leeway) registries registries := by
  have reads : registries =
      Act.read World.registries >>= fun found => found.elim (failLogged notInitialized) pure := by
    funext world
    unfold registries
    rw [bind_apply]
    simp only [Act.read]
    cases world.registries <;> rfl
  rw [reads]
  refine Mirrors.bind (.read fun world image alike => alike.registries) fun found other same => ?_
  obtain ⟨rfl, rfl⟩ | ⟨all, left, rfl, rfl, alike⟩ := option_alike same
  · exact .failLogged _
  · exact .pure alike

theorem unlocked_mirrors (kind : ObjectKind) {guarded other : Guarded α}
    (poisoned : guarded.poisoned = other.poisoned)
    (content : view guarded.content = view other.content) :
    Mirrors leeway heap view (unlocked kind guarded) (unlocked kind other) := by
  unfold unlocked
  rw [poisoned]
  split
  · exact .failLogged _
  · exact .pure content

section

variable {all left : Registries} (alike : all.seen leeway = left.seen leeway)

include alike

theorem devices_alike : all.devices.poisoned = left.devices.poisoned ∧
    all.devices.content.mapped (Device.seen leeway) =
      left.devices.content.mapped (Device.seen leeway) :=
  ⟨congrArg (fun seen => seen.devices.poisoned) alike,
    congrArg (fun seen => seen.devices.content) alike⟩

theorem shaders_alike : all.shaders.poisoned = left.shaders.poisoned ∧
    all.shaders.content.mapped (ShaderEntry.seen leeway) =
      left.shaders.content.mapped (ShaderEntry.seen leeway) :=
  ⟨congrArg (fun seen => seen.shaders.poisoned) alike,
    congrArg (fun seen => seen.shaders.content) alike⟩

end

/-! With the lock of a registry, it is gone on from what the registry looks like. -/

theorem lockedDevices_mirrors {β : Type} {next echo : Registry .device Device → Act β} {view : β → γ}
    (onward : ∀ devices others : Registry .device Device,
      devices.mapped (Device.seen leeway) = others.mapped (Device.seen leeway) →
        Mirrors leeway heap view (next devices) (echo others)) :
    Mirrors leeway heap view (registries >>= fun all => unlocked .device all.devices >>= next)
      (registries >>= fun all => unlocked .device all.devices >>= echo) := by
  refine registries_mirrors.bind fun all left same => ?_
  obtain ⟨poisoned, content⟩ := devices_alike same
  exact (unlocked_mirrors .device poisoned content).bind onward

theorem lockedShaders_mirrors {β : Type} {next echo : Registry .shader ShaderEntry → Act β}
    {view : β → γ}
    (onward : ∀ shaders others : Registry .shader ShaderEntry,
      shaders.mapped (ShaderEntry.seen leeway) = others.mapped (ShaderEntry.seen leeway) →
        Mirrors leeway heap view (next shaders) (echo others)) :
    Mirrors leeway heap view (registries >>= fun all => unlocked .shader all.shaders >>= next)
      (registries >>= fun all => unlocked .shader all.shaders >>= echo) := by
  refine registries_mirrors.bind fun all left same => ?_
  obtain ⟨poisoned, content⟩ := shaders_alike same
  exact (unlocked_mirrors .shader poisoned content).bind onward

theorem changeRegistries_mirrors {update echo : Registries → Registries}
    (alike : ∀ all left, all.seen leeway = left.seen leeway →
      (update all).seen leeway = (echo left).seen leeway) :
    Echoes leeway heap (changeRegistries update) (changeRegistries echo) := by
  refine .change (fun _ => eased_of_same rfl rfl) (fun _ => eased_of_same rfl rfl)
    fun world image same => { same with registries := ?_ }
  have start := same.registries
  change (world.registries.map update).map _ = (image.registries.map echo).map _
  obtain ⟨here, there⟩ | ⟨all, left, here, there, like⟩ := option_alike start <;> rw [here, there]
  · rfl
  · exact congrArg some (alike all left like)

theorem setDevices_mirrors {devices others : Registry .device Device}
    (alike : devices.mapped (Device.seen leeway) = others.mapped (Device.seen leeway)) :
    Echoes leeway heap (setDevices devices) (setDevices others) := by
  refine changeRegistries_mirrors fun all left same => ?_
  have poisoned := congrArg (fun seen => seen.devices.poisoned) same
  have shaders := congrArg (fun seen => seen.shaders) same
  simp only [Registries.seen, alike] at poisoned shaders ⊢
  rw [poisoned, shaders]

theorem setShaders_mirrors {shaders others : Registry .shader ShaderEntry}
    (alike : shaders.mapped (ShaderEntry.seen leeway) = others.mapped (ShaderEntry.seen leeway)) :
    Echoes leeway heap (setShaders shaders) (setShaders others) := by
  refine changeRegistries_mirrors fun all left same => ?_
  have poisoned := congrArg (fun seen => seen.shaders.poisoned) same
  have devices := congrArg (fun seen => seen.devices) same
  simp only [Registries.seen, alike] at poisoned devices ⊢
  rw [poisoned, devices]

theorem poison_mirrors (kind : ObjectKind) : Echoes leeway heap (poison kind) (poison kind) := by
  refine changeRegistries_mirrors fun all left same => ?_
  have devices := congrArg (fun seen => seen.devices) same
  have shaders := congrArg (fun seen => seen.shaders) same
  have content := congrArg (fun seen => seen.devices.content) same
  have entries := congrArg (fun seen => seen.shaders.content) same
  cases kind <;> simp only [Registries.seen] at devices shaders content entries ⊢
  · rw [content, shaders]
  · rw [entries, devices]

theorem writing_eq_proceed (kind : ObjectKind) (act : Act α) :
    writing kind act = act.proceed fun
      | .unwound => poison kind >>= fun _ => Act.unwind
      | exit => ended exit := by
  funext world
  unfold writing proceed
  rcases act world with ⟨exit, after⟩
  cases exit <;> rfl

theorem writing_mirrors (kind : ObjectKind) {act other : Act α} (alike : Echoes leeway heap act other) :
    Echoes leeway heap (writing kind act) (writing kind other) := by
  rw [writing_eq_proceed, writing_eq_proceed]
  refine alike.proceed fun exit ending matched => ?_
  cases matched with
  | done same => exact .ended (.done same)
  | failed error => exact .ended (.failed error)
  | unwound => exact (poison_mirrors kind).andThen fun _ => .unwind

/-! Devices. -/

theorem startUp_mirrors : Echoes leeway heap startUp startUp := by
  refine .change (fun _ => eased_of_same rfl rfl) (fun _ => eased_of_same rfl rfl)
    fun world image same => { same with registries := ?_ }
  obtain ⟨here, there⟩ | ⟨all, left, here, there, like⟩ := option_alike same.registries <;>
    simp only [here, there, Option.getD_none, Option.getD_some]
  exact congrArg some like

theorem registerDevice_mirrors {device other : Device}
    (alike : device.seen leeway = other.seen leeway) :
    Echoes leeway heap (registerDevice device) (registerDevice other) := by
  refine lockedDevices_mirrors fun devices others known => ?_
  obtain ⟨handle, next⟩ := Registry.insert_alike known alike
  exact (setDevices_mirrors next).andThen fun _ => .pure handle

theorem admitDevice_mirrors {config other : DeviceConfig}
    (alike : config.seen leeway = other.seen leeway) :
    Mirrors leeway heap (Prod.map id (Device.seen leeway)) (admitDevice config)
      (admitDevice other) := by
  refine registries_mirrors.bind fun _ _ _ => Mirrors.bind
    ((Device.create_mirrors alike).onFailure fun error => .log _) fun device echo same => ?_
  refine ((registerDevice_mirrors same).orRelease (Device.teardown_mirrors same)).andThen
    fun handle => .pure ?_
  exact congrArg (handle, ·) same

theorem createDevice_mirrors {config other : DeviceConfig}
    (alike : config.seen leeway = other.seen leeway) :
    Echoes leeway heap (createDevice config) (createDevice other) := by
  have name : config.gpuName = other.gpuName := congrArg (fun seen => seen.gpuName) alike
  have extensions : config.extensions = other.extensions :=
    congrArg (fun seen => seen.extensions) alike
  refine (admitDevice_mirrors alike).bind fun admitted echo same => ?_
  have handle : admitted.1 = echo.1 := (Prod.mk.inj same).1
  simp only [handle, name, extensions]
  exact Mirrors.andThen (.note _ _ _) fun _ => .pure rfl

theorem device_mirrors (handle : Handle .device) :
    Mirrors leeway heap (Device.seen leeway) (device handle) (device handle) := by
  refine lockedDevices_mirrors fun devices others known => ?_
  obtain ⟨here, there⟩ | ⟨found, echo, here, there, like⟩ :=
    option_alike (Registry.get?_alike known handle) <;> simp only [here, there]
  · exact .failLogged _
  · exact .pure like

theorem takeOwned_mirrors (owner : Handle .device) :
    Mirrors leeway heap (List.map (Shader.seen leeway)) (takeOwned owner) (takeOwned owner) := by
  refine lockedShaders_mirrors fun shaders others known => ?_
  -- Who owns a shader is looked at, so the same entries are taken out.
  have own (entries : List (Handle .shader × ShaderEntry)) :
      (entries.filter fun entry => entry.2.owner == owner).map
          (Prod.map id (ShaderEntry.seen leeway)) =
        (entries.map (Prod.map id (ShaderEntry.seen leeway))).filter
          fun entry => entry.2.owner == owner := by
    rw [List.filter_map]
    rfl
  have owned : (ownedBy owner shaders).map (Prod.map id (ShaderEntry.seen leeway)) =
      (ownedBy owner others).map (Prod.map id (ShaderEntry.seen leeway)) := by
    rw [ownedBy, ownedBy, own, own, ← Registry.entries_mapped, known, Registry.entries_mapped]
  have handles : (ownedBy owner shaders).map Prod.fst = (ownedBy owner others).map Prod.fst := by
    have first := congrArg (List.map Prod.fst) owned
    rw [List.map_map, List.map_map] at first
    exact first
  have orphans : ((ownedBy owner shaders).map fun entry => entry.2.shader).map (Shader.seen leeway) =
      ((ownedBy owner others).map fun entry => entry.2.shader).map (Shader.seen leeway) := by
    have second := congrArg (List.map fun entry => entry.2.shader) owned
    rw [List.map_map, List.map_map] at second ⊢
    exact second
  have left : (shaders.eraseAll ((ownedBy owner shaders).map Prod.fst)).mapped
        (ShaderEntry.seen leeway) =
      (others.eraseAll ((ownedBy owner others).map Prod.fst)).mapped (ShaderEntry.seen leeway) := by
    rw [← Registry.eraseAll_mapped, known, handles, Registry.eraseAll_mapped]
  exact (setShaders_mirrors left).andThen fun _ => .pure orphans

theorem dismiss_mirrors (handle : Handle .device) :
    Echoes leeway heap (dismiss handle) (dismiss handle) := by
  refine (takeOwned_mirrors handle).bind fun orphans others same => ?_
  have length : orphans.length = others.length := by
    simpa only [List.length_map] using congrArg List.length same
  rw [length]
  exact Mirrors.thenRelease (.note _ _ _)
    (.releaseEach same fun shader other alike => Shader.letGo_mirrors alike)

theorem destroyDevice_mirrors (handle : Handle .device) :
    Echoes leeway heap (destroyDevice handle) (destroyDevice handle) := by
  refine lockedDevices_mirrors fun devices others known => ?_
  obtain ⟨here, there⟩ | ⟨found, echo, here, there, like⟩ :=
    option_alike (Registry.get?_alike known handle) <;> simp only [here, there]
  · exact writing_mirrors .device (.failLogged _)
  · have erased : (devices.erase handle).mapped (Device.seen leeway) =
        (others.erase handle).mapped (Device.seen leeway) := by
      rw [← Registry.erase_mapped, known, Registry.erase_mapped]
    exact (setDevices_mirrors erased).andThen fun _ =>
      (dismiss_mirrors handle).thenRelease (Device.letGo_mirrors like)

section

variable {kind : ObjectKind} {guarded other : Guarded (Registry kind α)}
  (poisoned : guarded.poisoned = other.poisoned)
  (content : guarded.content.mapped view = other.content.mapped view)

include poisoned content

theorem removed_alike : (removed guarded).map view = (removed other).map view := by
  unfold removed
  rw [poisoned]
  split
  · rfl
  · rw [← Registry.values_mapped, content, Registry.values_mapped]

theorem emptied_alike : (emptied guarded).poisoned = (emptied other).poisoned ∧
    (emptied guarded).content.mapped view = (emptied other).content.mapped view := by
  unfold emptied
  rw [← poisoned]
  split
  · exact ⟨poisoned, content⟩
  · exact ⟨rfl, rfl⟩

end

theorem emptiedAll_alike {all left : Registries} (same : all.seen leeway = left.seen leeway) :
    (emptiedAll all).seen leeway = (emptiedAll left).seen leeway := by
  obtain ⟨devices, machines⟩ := emptied_alike (devices_alike same).1 (devices_alike same).2
  obtain ⟨shaders, programs⟩ := emptied_alike (shaders_alike same).1 (shaders_alike same).2
  simp only [Registries.seen, emptiedAll, devices, machines, shaders, programs]

theorem shutdown_mirrors : Echoes leeway heap shutdown shutdown := by
  refine ⟨eased_of_explained shutdown_explained, eased_of_explained shutdown_explained,
    fun world image alike easy fine => ?_⟩
  obtain ⟨here, there⟩ | ⟨all, left, here, there, same⟩ := option_alike alike.registries
  · simp only [shutdown, here, there]
    exact ⟨.done rfl, alike⟩
  · rw [shutdown_run here] at easy ⊢
    rw [shutdown_run there] at fine ⊢
    have shaders := removed_alike (shaders_alike same).1 (shaders_alike same).2
    have devices := removed_alike (devices_alike same).1 (devices_alike same).2
    have begun : Echoes leeway heap _ _ := .releaseEach shaders fun entry other like =>
      Shader.letGo_mirrors (congrArg (fun seen : ShaderEntry => seen.shader) like)
    have rest : Echoes leeway heap _ _ := .releaseEach devices fun device other like =>
      Device.letGo_mirrors like
    refine (begun.thenRelease rest).mimics _ _ ?_ easy fine
    exact { alike with registries := congrArg some (emptiedAll_alike same) }

/-! Shaders. -/

theorem registerShader_mirrors (owner : Handle .device) {shader other : Shader}
    (alike : shader.seen leeway = other.seen leeway) :
    Echoes leeway heap (registerShader owner shader) (registerShader owner other) := by
  refine lockedShaders_mirrors fun shaders others known => ?_
  have entry : ShaderEntry.seen leeway { owner, shader } = ShaderEntry.seen leeway
      { owner, shader := other } := congrArg (ShaderEntry.mk owner) alike
  obtain ⟨handle, next⟩ := Registry.insert_alike known entry
  exact (setShaders_mirrors next).andThen fun _ => .pure handle

theorem admitShader_mirrors (owner : Handle .device) {info : CreateInfo}
    (fits : leeway.Fits heap info.code) (verdict : Verdict) :
    Mirrors leeway heap (Prod.map id (Shader.seen leeway)) (admitShader owner info verdict)
      (admitShader owner info verdict) := by
  refine (device_mirrors owner).bind fun maker other alike =>
    (Shader.create_mirrors alike fits verdict).bind fun shader echo same => ?_
  refine ((registerShader_mirrors owner same).orRelease (Shader.teardown_mirrors same)).andThen
    fun handle => .pure ?_
  exact congrArg (handle, ·) same

theorem createShader_mirrors (owner : Handle .device) {info : CreateInfo}
    (fits : leeway.Fits heap info.code) (verdict : Verdict) :
    Echoes leeway heap (createShader owner info verdict) (createShader owner info verdict) :=
  (admitShader_mirrors owner fits verdict).bind fun _ _ same =>
    .pure (Prod.mk.inj same).1

theorem raw_eq_proceed (act : Act α) : raw act = act.proceed fun
    | .done value => pure (some value, .success)
    | .failed error => pure (none, error.code)
    | .unwound => Act.unwind := by
  funext world
  unfold raw proceed
  rcases act world with ⟨exit, after⟩
  cases exit <;> rfl

theorem raw_mirrors {act other : Act α} (alike : Echoes leeway heap act other) :
    Echoes leeway heap (raw act) (raw other) := by
  rw [raw_eq_proceed, raw_eq_proceed]
  refine alike.proceed fun exit ending matched => ?_
  cases matched with
  | done same =>
      cases same
      exact .pure rfl
  | failed error => exact .pure rfl
  | unwound => exact .unwind

theorem shader_mirrors (handle : Handle .shader) :
    Mirrors leeway heap (Shader.seen leeway) (shader handle) (shader handle) := by
  refine lockedShaders_mirrors fun shaders others known => ?_
  obtain ⟨here, there⟩ | ⟨found, echo, here, there, like⟩ :=
    option_alike (Registry.get?_alike known handle) <;> simp only [here, there]
  · exact .failLogged _
  · exact .pure (congrArg (fun seen => seen.shader) like)

theorem destroyObject_mirrors (handle : Handle .shader) :
    Echoes leeway heap (destroyObject handle) (destroyObject handle) := by
  refine lockedShaders_mirrors fun shaders others known => ?_
  obtain ⟨here, there⟩ | ⟨found, echo, here, there, like⟩ :=
    option_alike (Registry.get?_alike known handle) <;> simp only [here, there]
  · exact writing_mirrors .shader (.failLogged _)
  · have erased : (shaders.erase handle).mapped (ShaderEntry.seen leeway) =
        (others.erase handle).mapped (ShaderEntry.seen leeway) := by
      rw [← Registry.erase_mapped, known, Registry.erase_mapped]
    exact (setShaders_mirrors erased).andThen fun _ =>
      Shader.letGo_mirrors (congrArg (fun seen => seen.shader) like)

theorem setLogger_mirrors {logger : Log.Logger} (fits : leeway.Loggers logger logger) :
    Echoes leeway heap (setLogger logger) (setLogger logger) :=
  .change (fun _ => eased_of_same rfl rfl) (fun _ => eased_of_same rfl rfl)
    fun _ _ alike => { alike with logger := fits }

theorem shaderCount_alike {world image : World} (alike : world.Alike leeway heap image) :
    shaderCount world = shaderCount image := by
  unfold shaderCount
  obtain ⟨here, there⟩ | ⟨all, left, here, there, same⟩ := option_alike alike.registries <;>
    rw [here, there]
  obtain ⟨poisoned, content⟩ := shaders_alike same
  have size : all.shaders.content.size = left.shaders.content.size := by
    rw [← Registry.size_mapped, content, Registry.size_mapped]
  simp only [poisoned, size]

end ShaderDriver.EntryPoint
