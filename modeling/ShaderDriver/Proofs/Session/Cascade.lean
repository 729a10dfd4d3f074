import ShaderDriver.Proofs.Object.Answers
import ShaderDriver.Proofs.Session.Departures
import ShaderDriver.Proofs.Session.Dismissals

namespace ShaderDriver

open Act EntryPoint

/-! The end of a device comes to the same as the ends of its shaders one by one, and its own after
them. -/

namespace Registry

variable {kind : ObjectKind} {α : Type} {registry : Registry kind α} {handle : Handle kind}
  {value : α} {number : α → Nat}

/-- What is taken out takes its number along. -/
theorem Tidy.erase_apart (tidy : registry.Tidy) (distinct : (registry.values.map number).Nodup)
    (found : registry.get? handle = some value) :
    number value ∉ (registry.erase handle).values.map number :=
  (List.nodup_cons.mp (((tidy.erase_values found).map number).nodup_iff.mp distinct)).1

theorem Tidy.eraseAll_apart (tidy : registry.Tidy) (distinct : (registry.values.map number).Nodup)
    (chosen : Handle kind × α → Bool) {entry : Handle kind × α}
    (member : entry ∈ registry.entries.filter chosen) :
    number entry.2 ∉
      (registry.eraseAll ((registry.entries.filter chosen).map Prod.fst)).values.map number := by
  have parts := (tidy.eraseAll_entries chosen).map fun entry => number entry.2
  rw [values, List.map_map] at distinct
  have whole := parts.nodup_iff.mp distinct
  rw [List.map_append, List.nodup_append] at whole
  intro listed
  rw [values, List.map_map] at listed
  exact whole.2.2 _ (List.mem_map_of_mem member) _ listed rfl

theorem entries_ascending (registry : Registry kind α) :
    registry.entries.Pairwise fun first second => first.1.index < second.1.index := by
  refine List.pairwise_filterMap.mpr (List.pairwise_lt_range.imp ?_)
  intro first second less entry found other present
  rwa [index_of_entryAt found, index_of_entryAt present]

end Registry

namespace EntryPoint

/-- The entry about the end of a device. -/
def dismissal (handle : Handle .device) (orphans : Nat) : Log.Record :=
  { severity := .info
    source := "xgl::Icd"
    message := "Destroyed device " ++ handle.typedText ++ " (" ++ toString orphans ++
      " shaders released)"
    site := none }

theorem dismiss_run {world : World} {all : Registries} (handle : Handle .device)
    (present : world.registries = some all) (healthy : all.shaders.poisoned = false) :
    let owned := ownedBy handle all.shaders.content
    dismiss handle world = ((Act.log (dismissal handle owned.length)).thenRelease
      (releaseEach Shader.letGo (owned.map fun entry => entry.2.shader)))
        (world.withRegistries (all.withShaders
          (all.shaders.content.eraseAll (owned.map Prod.fst)))) := by
  intro owned
  have count : (owned.map fun entry => entry.2.shader).length = owned.length := List.length_map _
  unfold dismiss takeOwned
  simp only [Act.bind_assoc]
  rw [locked_run .shader Registries.shaders]
  simp only [present, healthy, Bool.false_eq_true, if_false]
  rw [bind_done (setShaders_run present _), pure_bind, dismissal, ← count]
  rfl

end EntryPoint

namespace World

variable {world after : World} {all : Registries} {serial : Nat} {handle : Handle .device}
  {device : Device}

/-- All but what has been seen. -/
def untraced (world : World) : World :=
  { world with trace := [] }

/-- All but what is registered and what has been seen. -/
def bare (world : World) : World :=
  { world with registries := none, trace := [] }

theorem untraced_eq (same : world.bare = after.bare)
    (registered : world.registries = after.registries) : world.untraced = after.untraced := by
  have parts (world : World) :
      world.untraced = { world.bare with registries := world.registries } := rfl
  rw [parts, parts, same, registered]

/-- What neither reads nor changes the registries does the same to worlds that differ in them. -/
theorem bare_congr (next : World → World)
    (alone : ∀ world, (next world).bare = (next world.bare).bare)
    (same : world.bare = after.bare) : (next world).bare = (next after).bare := by
  rw [alone, same, ← alone]

theorem loseShader_bare (same : world.bare = after.bare) (shader : Shader) :
    (world.loseShader shader).bare = (after.loseShader shader).bare := by
  refine bare_congr (fun world => world.loseShader shader) (fun world => ?_) same
  unfold loseShader
  change _ = World.bare (if shader ∈ world.heldShaders then _ else _)
  split
  · rfl
  · rw [Shader.teardown_world, Shader.teardown_world]
    rfl

theorem loseDevice_bare (same : world.bare = after.bare) (device : Device) :
    (world.loseDevice device).bare = (after.loseDevice device).bare := by
  refine bare_congr (fun world => world.loseDevice device) (fun world => ?_) same
  unfold loseDevice
  change _ = World.bare (if device ∈ world.heldDevices then _ else _)
  split
  · rfl
  · rw [Device.teardown_world, Device.teardown_world]
    rfl

theorem loseShaders_bare (same : world.bare = after.bare) (shaders : List Shader) :
    (shaders.foldl loseShader world).bare = (shaders.foldl loseShader after).bare := by
  induction shaders generalizing world after with
  | nil => exact same
  | cons shader rest ih => exact ih (loseShader_bare same shader)

/-- Entries in the log of an application whose logger is without faults leave no mark. -/
theorem log_bare (faultless : world.logger.faultless = true) (record : Log.Record) :
    (Act.log record world).2.bare = world.bare := by
  rw [log_faultless faultless]
  rfl

namespace Keeps

variable (keeps : world.Keeps serial 0) (present : world.registries = some all)
  (healthy : all.Healthy)

include keeps present

theorem shaderIds : (all.shaders.content.values.map fun entry => entry.shader.id).Nodup := by
  have distinct := keeps.numbered.shaders.distinct
  rwa [registeredShaders_eq present, List.map_map] at distinct

theorem deviceIds : (all.devices.content.values.map Device.id).Nodup := by
  have distinct := keeps.numbered.devices.distinct
  rwa [registeredDevices_eq present] at distinct

theorem device_unlisted (stored : all.devices.content.get? handle = some device)
    (taken : after.registries = some (dismissed all handle)) (held : after.held = world.held) :
    after.hasDevice device = true ↔ device ∈ after.heldDevices := by
  have tidy := (keeps.orderly.tidy all present).1
  refine keeps.numbered.device held ?_ ?_
  · rw [registeredDevices_eq present]
    exact tidy.mem_values stored
  · rw [registeredDevices_eq taken]
    exact tidy.erase_apart (keeps.deviceIds present) stored

theorem shaders_unlisted (taken : after.registries = some (dismissed all handle))
    (held : after.held = world.held) {entry : Handle .shader × ShaderEntry}
    (member : entry ∈ ownedBy handle all.shaders.content) :
    after.hasShader entry.2.shader = true ↔ entry.2.shader ∈ after.heldShaders := by
  have tidy := (keeps.orderly.tidy all present).2
  refine keeps.numbered.shader held ?_ ?_
  · rw [registeredShaders_eq present]
    exact List.mem_map_of_mem (List.mem_map_of_mem (List.mem_filter.mp member).1)
  · rw [registeredShaders_eq taken, List.map_map]
    exact tidy.eraseAll_apart (keeps.shaderIds present) _ member

include healthy

theorem destroyObject_world {handle : Handle .shader} {entry : ShaderEntry}
    (stored : all.shaders.content.get? handle = some entry) :
    (destroyObject handle world).2 =
      (world.withRegistries (all.withShaders (all.shaders.content.erase handle))).loseShader
        entry.shader := by
  have tidy := (keeps.orderly.tidy all present).2
  have listed : entry.shader ∈ world.registeredShaders := by
    rw [registeredShaders_eq present]
    exact List.mem_map_of_mem (tidy.mem_values stored)
  have gone := tidy.erase_apart (keeps.shaderIds present) stored
  unfold destroyObject
  rw [locked_run .shader Registries.shaders]
  simp only [present, healthy.shaders, stored, Bool.false_eq_true, if_false]
  rw [bind_done (setShaders_run present _)]
  refine Shader.letGo_world (keeps.numbered.shader rfl listed ?_)
  rw [registeredShaders_eq rfl, List.map_map]
  exact gone

/-- The entry in the log, the shaders in the order of the registry, and the device. -/
theorem destroyDevice_world (stored : all.devices.content.get? handle = some device) :
    (destroyDevice handle world).2 =
      (((ownedBy handle all.shaders.content).map fun entry => entry.2.shader).foldl loseShader
        (Act.log (dismissal handle (ownedBy handle all.shaders.content).length)
          (world.withRegistries (dismissed all handle))).2).loseDevice device := by
  let orphans := (ownedBy handle all.shaders.content).map fun entry => entry.2.shader
  let record := dismissal handle (ownedBy handle all.shaders.content).length
  let taken := world.withRegistries (dismissed all handle)
  let logged := (Act.log record taken).2
  have stands : taken.Stands logged := log_stands record taken
  have unlisted : ∀ shader ∈ orphans,
      logged.hasShader shader = true ↔ shader ∈ logged.heldShaders := by
    intro shader member
    obtain ⟨owned, listed, rfl⟩ := List.mem_map.mp member
    exact keeps.shaders_unlisted present stands.registries stands.held listed
  have alone : (world.withRegistries
      (all.withDevices (all.devices.content.erase handle))).registries = some _ := rfl
  have last : taken.Stands (orphans.foldl loseShader logged) :=
    stands.trans (foldl_stands loseShader_stands orphans logged)
  rw [destroyDevice_run]
  simp only [present, healthy.devices, stored, Bool.false_eq_true, if_false]
  rw [thenRelease_world, dismiss_run handle alone healthy.shaders, thenRelease_world]
  change (device.letGo (releaseEach Shader.letGo orphans logged).2).2 = _
  rw [releaseShaders_world unlisted]
  exact Device.letGo_world (keeps.device_unlisted present stored last.registries last.held)

end Keeps

end World

namespace EntryPoint

/-- Once they are taken out, no shader is left that was asked of the device. -/
theorem ownedBy_eraseAll {shaders : Registry .shader ShaderEntry} (tidy : shaders.Tidy)
    (owner : Handle .device) :
    ownedBy owner (shaders.eraseAll ((ownedBy owner shaders).map Prod.fst)) = [] := by
  refine List.filter_eq_nil_iff.mpr fun entry member own => ?_
  have stored := (tidy.eraseAll _).mem_entries.mp member
  rw [Registry.get?_eraseAll] at stored
  split at stored
  · cases stored
  · next kept =>
      refine kept (List.mem_map_of_mem (List.mem_filter.mpr ⟨?_, own⟩))
      exact tidy.mem_entries.mpr stored

end EntryPoint

namespace Session

open World

variable {world : World} {all : Registries} {serial : Nat} {handle : Handle .device}
  {device : Device}

/-- The shaders that were asked of a device are destroyed by index, and then the device. -/
def piecemeal (all : Registries) (handle : Handle .device) : List Command :=
  ((ownedBy handle all.shaders.content).map fun entry => .call (.destroyObject entry.1)) ++
    [.call (.destroyDevice handle)]

theorem step_destroyObject (world : World) (handle : Handle .shader) :
    (step world (.call (.destroyObject handle))).2 = (destroyObject handle world.untraced).2 :=
  silently_world _ _

theorem step_destroyDevice (world : World) (handle : Handle .device) :
    (step world (.call (.destroyDevice handle))).2 = (destroyDevice handle world.untraced).2 :=
  silently_world _ _

/-- One shader after the other is destroyed: the registry is as if they were taken out together, and
the rest of the world as if nothing had been taken out of a registry. -/
theorem run_destroys {owned : List (Handle .shader × ShaderEntry)} (keeps : world.Keeps serial 0)
    (present : world.registries = some all) (healthy : all.Healthy)
    (stored : ∀ entry ∈ owned, all.shaders.content.get? entry.1 = some entry.2)
    (distinct : (owned.map Prod.fst).Nodup) :
    let after := (run world (owned.map fun entry => .call (.destroyObject entry.1))).2
    after.Keeps serial 0 ∧
      after.registries =
        some (all.withShaders (all.shaders.content.eraseAll (owned.map Prod.fst))) ∧
      after.bare = ((owned.map fun entry => entry.2.shader).foldl loseShader world).bare := by
  induction owned generalizing world all with
  | nil => exact ⟨keeps, present, rfl⟩
  | cons entry rest ih =>
      obtain ⟨first, later⟩ := List.nodup_cons.mp distinct
      have ended := (step_destroyObject world entry.1).trans
        (keeps.watched.destroyObject_world present healthy (stored entry List.mem_cons_self))
      have kept := keeps.step (.call (.destroyObject entry.1)) (Option.some_ne_none serial).symm
      have taken : (step world (.call (.destroyObject entry.1))).2.registries =
          some (all.withShaders (all.shaders.content.erase entry.1)) := by
        rw [ended, (loseShader_stands _ _).registries]
        rfl
      have left : ∀ other ∈ rest,
          (all.shaders.content.erase entry.1).get? other.1 = some other.2 := by
        intro other member
        have differs : other.1 ≠ entry.1 := fun same =>
          first (same ▸ List.mem_map_of_mem member)
        rw [Registry.get?_erase, if_neg differs]
        exact stored other (List.mem_cons_of_mem _ member)
      obtain ⟨keeps, registries, bare⟩ :=
        ih kept taken ⟨healthy.devices, healthy.shaders⟩ left later
      refine ⟨keeps, registries, bare.trans (loseShaders_bare ?_ _)⟩
      rw [ended]
      have same : (world.untraced.withRegistries
          (all.withShaders (all.shaders.content.erase entry.1))).bare = world.bare := rfl
      exact loseShader_bare same entry.2.shader

/-- A device takes its shaders along as if they had been destroyed before it. -/
structure Cascades (world : World) (all : Registries) (handle : Handle .device)
    (device : Device) : Prop where
  owned : ∀ other entry, (other, entry) ∈ ownedBy handle all.shaders.content ↔
    all.shaders.content.get? other = some entry ∧ entry.owner = handle
  ascending : (ownedBy handle all.shaders.content).Pairwise fun first second =>
    first.1.index < second.1.index
  piecemeal : (step world (.call (.destroyDevice handle))).2.untraced =
    (run world (piecemeal all handle)).2.untraced
  told : (step world (.call (.destroyDevice handle))).1.events =
    [.logged (dismissal handle (ownedBy handle all.shaders.content).length)
      (world.logger.sink .info)] ++
    (ownedBy handle all.shaders.content).flatMap (fun entry => world.shaderLeaves entry.2.shader) ++
    world.deviceLeaves device
  others : ∃ left, (step world (.call (.destroyDevice handle))).2.registries = some left ∧
    all.Dismisses left handle

variable (present : world.registries = some all) (healthy : all.Healthy)
  (registered : all.devices.content.get? handle = some device)

include present healthy registered

theorem step_destroyDevice_registries :
    (step world (.call (.destroyDevice handle))).2.registries = some (dismissed all handle) := by
  have there : world.untraced.registries = some all := present
  rw [step_destroyDevice]
  exact ((healthy.serves there).destroyDevice handle device registered).2

variable (keeps : world.Keeps serial 0)

include keeps

theorem step_destroyDevice_world :
    let owned := ownedBy handle all.shaders.content
    (step world (.call (.destroyDevice handle))).2 =
      ((owned.map fun entry => entry.2.shader).foldl loseShader
        (Act.log (dismissal handle owned.length)
          (world.untraced.withRegistries (dismissed all handle))).2).loseDevice device :=
  (step_destroyDevice world handle).trans
    (keeps.watched.destroyDevice_world present healthy registered)

theorem step_destroyDevice_bare (faultless : world.logger.faultless = true) :
    (step world (.call (.destroyDevice handle))).2.bare =
      ((((ownedBy handle all.shaders.content).map fun entry => entry.2.shader).foldl loseShader
        world).loseDevice device).bare := by
  let record := dismissal handle (ownedBy handle all.shaders.content).length
  let taken := world.untraced.withRegistries (dismissed all handle)
  have silent : (Act.log record taken).2.bare = world.bare :=
    log_bare (show taken.logger.faultless = true from faultless) record
  rw [step_destroyDevice_world present healthy registered keeps]
  exact loseDevice_bare (loseShaders_bare silent _) device

/-- The same references end in the same order, and the registries end up with the same places to be
used again. -/
theorem step_destroyDevice_piecemeal (faultless : world.logger.faultless = true) :
    (step world (.call (.destroyDevice handle))).2.untraced =
      (run world (piecemeal all handle)).2.untraced := by
  have tidy := (keeps.orderly.tidy all present).2
  have stored : ∀ entry ∈ ownedBy handle all.shaders.content,
      all.shaders.content.get? entry.1 = some entry.2 :=
    fun entry member => tidy.mem_entries.mp (List.mem_filter.mp member).1
  have distinct : ((ownedBy handle all.shaders.content).map Prod.fst).Nodup :=
    all.shaders.content.handles_nodup.sublist (List.filter_sublist.map Prod.fst)
  obtain ⟨kept, left, bare⟩ := run_destroys keeps present healthy stored distinct
  rw [piecemeal, run_append]
  generalize (run world _).2 = middle at kept left bare ⊢
  have calm : middle.logger.faultless = true := by
    have same := congrArg World.logger bare
    change middle.logger = (List.foldl loseShader world _).logger at same
    rwa [same, (foldl_stands loseShader_stands _ world).faultless faultless]
  have whole : (all.withShaders (all.shaders.content.eraseAll
      ((ownedBy handle all.shaders.content).map Prod.fst))).Healthy :=
    ⟨healthy.devices, healthy.shaders⟩
  have none := ownedBy_eraseAll tidy handle
  change World.untraced _ = (step middle (.call (.destroyDevice handle))).2.untraced
  refine untraced_eq ?_ ?_
  · rw [step_destroyDevice_bare present healthy registered keeps faultless,
      step_destroyDevice_bare left whole registered kept calm]
    simp only [Registries.withShaders, none, List.map_nil, List.foldl_nil]
    exact loseDevice_bare bare.symm device
  · rw [step_destroyDevice_registries present healthy registered,
      step_destroyDevice_registries left whole registered]
    simp only [dismissed, Registries.withShaders, Registries.withDevices, none, List.map_nil]
    rfl

theorem step_destroyDevice_events :
    (step world (.call (.destroyDevice handle))).1.events =
      [.logged (dismissal handle (ownedBy handle all.shaders.content).length)
        (world.logger.sink .info)] ++
      (ownedBy handle all.shaders.content).flatMap
        (fun entry => world.shaderLeaves entry.2.shader) ++
      world.deviceLeaves device := by
  let orphans := (ownedBy handle all.shaders.content).map fun entry => entry.2.shader
  have logged := log_stands (dismissal handle (ownedBy handle all.shaders.content).length)
    (world.untraced.withRegistries (dismissed all handle))
  have last := logged.trans (foldl_stands loseShader_stands orphans _)
  change (step world (.call (.destroyDevice handle))).2.trace = _
  rw [step_destroyDevice_world present healthy registered keeps, loseDevice_trace,
    last.deviceLeaves,
    foldl_trace loseShader_stands loseShader_trace fun stands => stands.shaderLeaves,
    funext logged.shaderLeaves, List.flatMap_map, Act.log_world]
  rfl

omit present healthy registered keeps

variable {heap : Heap}

/-- With a logger that does not panic, a device takes its shaders along as if each of them had been
destroyed before it. -/
theorem devices_end_like_their_shaders_before_them (commands : List Command) {all : Registries}
    {handle : Handle .device} {device : Device}
    (present : (run (.initial heap) commands).2.registries = some all) (healthy : all.Healthy)
    (registered : all.devices.content.get? handle = some device)
    (faultless : (run (.initial heap) commands).2.logger.faultless = true) :
    Cascades (run (.initial heap) commands).2 all handle device := by
  obtain ⟨serial, spared⟩ := exists_spared (.initial heap) commands
  have keeps := (initial_keeps serial).run (spared serial (Nat.le_refl _))
  have tidy := (keeps.orderly.tidy all present).2
  refine
    { owned := fun other entry => ?_
      ascending := all.shaders.content.entries_ascending.filter _
      piecemeal := step_destroyDevice_piecemeal present healthy registered keeps faultless
      told := step_destroyDevice_events present healthy registered keeps
      others := ⟨_, step_destroyDevice_registries present healthy registered, ?_⟩ }
  · rw [ownedBy, List.mem_filter, tidy.mem_entries, beq_iff_eq]
  · exact Registries.dismissed_dismisses tidy (by rw [registered]; rfl)

/-- The shaders of two devices stand among each other. The first place was used before, and an
application has the shader in the last one. -/
def shadersAmongEachOther : List Command :=
  [.call .startUp, .call (.createDevice plainSettings), .call (.createDevice plainSettings),
    plainShader ⟨1, 1⟩, plainShader ⟨2, 1⟩, plainShader ⟨1, 1⟩, .call (.destroyObject ⟨1, 1⟩),
    plainShader ⟨1, 1⟩, .call (.shader (some "kept") ⟨3, 1⟩)]

theorem two_of_three_shaders_go_with_their_device :
    ∃ all device, (run .initial shadersAmongEachOther).2.registries = some all ∧ all.Healthy ∧
      all.devices.content.get? ⟨1, 1⟩ = some device ∧
      (run .initial shadersAmongEachOther).2.logger.faultless = true ∧
      (ownedBy ⟨1, 1⟩ all.shaders.content).map Prod.fst = [⟨1, 3⟩, ⟨3, 1⟩] ∧
      Cascades (run .initial shadersAmongEachOther).2 all ⟨1, 1⟩ device := by
  have healthy : (run .initial shadersAmongEachOther).2.healthy = true := by decide +kernel
  have faultless : (run .initial shadersAmongEachOther).2.logger.faultless = true := by
    decide +kernel
  have owned : (run .initial shadersAmongEachOther).2.registries.map (fun all =>
      ((all.devices.content.get? ⟨1, 1⟩).isSome,
        (ownedBy ⟨1, 1⟩ all.shaders.content).map Prod.fst)) =
      some (true, [⟨1, 3⟩, ⟨3, 1⟩]) := by decide +kernel
  obtain ⟨all, present, whole⟩ := healthy_iff.mp healthy
  rw [present, Option.map_some, Option.some.injEq, Prod.mk.injEq] at owned
  obtain ⟨device, registered⟩ := Option.isSome_iff_exists.mp owned.1
  exact ⟨all, device, present, whole, registered, faultless, owned.2,
    devices_end_like_their_shaders_before_them shadersAmongEachOther present whole registered
      faultless⟩

end Session

end ShaderDriver
