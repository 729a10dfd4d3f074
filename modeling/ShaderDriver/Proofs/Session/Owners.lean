import ShaderDriver.Proofs.Session.Endings
import ShaderDriver.Proofs.Session.Untouched

namespace ShaderDriver

open Act

/-! The device that a shader was asked of stays registered as long as the shader is, and no other
device takes its place. -/

namespace Registries

variable {all : Registries} {made more : List (Shader × Device)} {shader : Shader} {maker : Device}

/-- Unless their lock is poisoned, all registered shaders were made on the devices that are known under
the handles of their owners. -/
def Owned (all : Registries) (made : List (Shader × Device)) : Prop :=
  all.shaders.poisoned = false → ∀ handle entry, all.shaders.content.get? handle = some entry →
    ∃ maker, all.devices.content.get? entry.owner = some maker ∧ (entry.shader, maker) ∈ made

namespace Owned

theorem empty : Registries.empty.Owned made := by
  intro _ handle entry stored
  simp only [Registries.empty, Registry.get?_empty] at stored
  cases stored

theorem emptiedAll (all : Registries) : (EntryPoint.emptiedAll all).Owned made := by
  intro healthy handle entry stored
  have none : (EntryPoint.emptied all.shaders).content.get? handle = none := by
    rw [EntryPoint.emptied_healthy healthy, Registry.get?_empty]
  cases none.symm.trans stored

variable (owned : all.Owned made)

include owned

theorem later (further : made ⊆ more) : all.Owned more := by
  intro healthy handle entry stored
  obtain ⟨maker, found, member⟩ := owned healthy handle entry stored
  exact ⟨maker, found, further member⟩

theorem poison (kind : ObjectKind) : (all.poison kind).Owned made := by
  cases kind with
  | device => exact owned
  | shader => exact fun healthy => nomatch healthy

/-- A new device is known under a handle under which no device was known. -/
theorem insertDevice (tidy : all.devices.content.Tidy) (device : Device) :
    (all.withDevices (all.devices.content.insert device).2).Owned made := by
  intro healthy handle entry stored
  obtain ⟨maker, found, member⟩ := owned healthy handle entry stored
  have other : entry.owner ≠ (all.devices.content.insert device).1 := by
    intro same
    have absent : all.devices.content.get? (all.devices.content.insert device).1 = none :=
      tidy.next_absent
    rw [same, absent] at found
    cases found
  refine ⟨maker, ?_, member⟩
  change (all.devices.content.insert device).2.get? entry.owner = _
  rwa [Registry.get?_insert tidy.nextVacant, if_neg other]

theorem insertShader (tidy : all.shaders.content.Tidy) {owner : Handle .device}
    (found : all.devices.content.get? owner = some maker) (product : (shader, maker) ∈ made) :
    (all.withShaders (all.shaders.content.insert { owner, shader }).2).Owned made := by
  intro healthy handle entry stored
  change (all.shaders.content.insert _).2.get? handle = some entry at stored
  rw [Registry.get?_insert tidy.nextVacant] at stored
  split at stored
  · cases stored
    exact ⟨maker, found, product⟩
  · exact owned healthy handle entry stored

theorem eraseShader (gone : Handle .shader) :
    (all.withShaders (all.shaders.content.erase gone)).Owned made := by
  intro healthy handle entry stored
  change (all.shaders.content.erase gone).get? handle = some entry at stored
  rw [Registry.get?_erase] at stored
  split at stored
  · cases stored
  · exact owned healthy handle entry stored

/-- A device that goes takes the shaders with it that were asked of it. -/
theorem dismissed (tidy : all.shaders.content.Tidy) (gone : Handle .device) :
    (EntryPoint.dismissed all gone).Owned made := by
  intro healthy handle entry stored
  change (all.shaders.content.eraseAll _).get? handle = some entry at stored
  rw [Registry.get?_eraseAll] at stored
  split at stored
  · cases stored
  · next kept =>
      obtain ⟨maker, found, member⟩ := owned healthy handle entry stored
      have other : entry.owner ≠ gone := by
        intro same
        refine kept (List.mem_map.mpr ⟨(handle, entry), List.mem_filter.mpr ⟨?_, ?_⟩, rfl⟩)
        · exact tidy.mem_entries.mpr stored
        · rw [same, beq_self_eq_true]
      refine ⟨maker, ?_, member⟩
      change (all.devices.content.erase gone).get? entry.owner = _
      rwa [Registry.get?_erase, if_neg other]

end Owned

end Registries

namespace World

variable {world after : World} {made : List (Shader × Device)}

def Owned (world : World) (made : List (Shader × Device)) : Prop :=
  ∀ all, world.registries = some all → all.Owned made

namespace Owned

theorem alike (owned : world.Owned made) (same : after.registries = world.registries) :
    after.Owned made := by
  unfold Owned at owned ⊢
  rwa [same]

theorem of_registries {left : Registries} (found : world.registries = some left)
    (owned : left.Owned made) : world.Owned made := by
  intro all present
  rw [found] at present
  cases present
  exact owned

theorem of_absent (missing : world.registries = none) : world.Owned made := by
  intro all present
  cases missing.symm.trans present

variable (owned : world.Owned made)

include owned

theorem later {more : List (Shader × Device)} (further : made ⊆ more) : world.Owned more :=
  fun all present => (owned all present).later further

theorem held {α : Type} {act : Act α} (quiet : untouched.Holds act) :
    (act world).2.Owned made :=
  owned.alike (quiet world)

theorem startUp : (EntryPoint.startUp world).2.Owned made := by
  intro all present
  cases found : world.registries with
  | some earlier =>
      simp only [EntryPoint.startUp, Act.change, found, Option.getD_some] at present
      exact owned all (found.trans present)
  | none =>
      simp only [EntryPoint.startUp, Act.change, found, Option.getD_none] at present
      cases present
      exact .empty

omit owned in
theorem shutdown (world : World) : (EntryPoint.shutdown world).2.Owned made := by
  intro all present
  rw [EntryPoint.shutdown_outcome] at present
  obtain ⟨earlier, _, rfl⟩ := Option.map_eq_some_iff.mp present
  exact .emptiedAll earlier

theorem destroyObject (handle : Handle .shader) :
    (EntryPoint.destroyObject handle world).2.Owned made := by
  cases found : world.registries with
  | none =>
      have absent : (EntryPoint.destroyObject handle world).2.registries = none :=
        EntryPoint.locked_absent Registries.shaders _ found
      exact of_absent absent
  | some all =>
      refine of_registries (EntryPoint.destroyObject_outcome handle found) ?_
      have known := owned all found
      split
      · exact known
      · split
        · split
          · exact known.poison .shader
          · exact known
        · exact known.eraseShader handle

theorem destroyDevice (orderly : world.Orderly) (handle : Handle .device) :
    (EntryPoint.destroyDevice handle world).2.Owned made := by
  cases found : world.registries with
  | none =>
      have absent : (EntryPoint.destroyDevice handle world).2.registries = none :=
        EntryPoint.locked_absent Registries.devices _ found
      exact of_absent absent
  | some all =>
      refine of_registries (EntryPoint.destroyDevice_outcome handle found) ?_
      have known := owned all found
      split
      · exact known
      · split
        · split
          · exact known.poison .device
          · exact known
        · split
          · next poisoned => exact fun healthy => nomatch poisoned.symm.trans healthy
          · exact known.dismissed (orderly.tidy all found).2 handle

theorem createDevice (orderly : world.Orderly) (config : DeviceConfig) :
    (EntryPoint.createDevice config world).2.Owned made := by
  refine alike ?_ (EntryPoint.createDevice_registries config world)
  have reverts : (EntryPoint.admitDevice config world).1.isDone = false →
      world.Retains (EntryPoint.admitDevice config world).2 :=
    (EntryPoint.admitDevice_reverts config).retains
  cases exit : (EntryPoint.admitDevice config world).1 with
  | failed error =>
      rw [exit] at reverts
      exact owned.alike (reverts rfl).registries
  | unwound =>
      rw [exit] at reverts
      exact owned.alike (reverts rfl).registries
  | done admitted =>
      obtain ⟨all, present, _, found⟩ := EntryPoint.admitDevice_registries exit
      exact of_registries found ((owned all present).insertDevice (orderly.tidy all present).1 _)

theorem createShader (orderly : world.Orderly) (owner : Handle .device) (info : CreateInfo)
    (verdict : Verdict)
    (product : ∀ {maker shader after}, EntryPoint.device owner world = (.done maker, world) →
      Shader.create maker info verdict world = (.done shader, after) → (shader, maker) ∈ made) :
    (EntryPoint.admitShader owner info verdict world).2.Owned made := by
  have reverts : (EntryPoint.admitShader owner info verdict world).1.isDone = false →
      world.Retains (EntryPoint.admitShader owner info verdict world).2 :=
    (EntryPoint.admitShader_reverts owner info verdict).retains
  rcases ran : EntryPoint.admitShader owner info verdict world with ⟨exit, after⟩
  rw [ran] at reverts
  cases exit with
  | failed error => exact owned.alike (reverts rfl).registries
  | unwound => exact owned.alike (reverts rfl).registries
  | done admitted =>
      obtain ⟨handle, shader⟩ := admitted
      obtain ⟨maker, middle, all, lookup, created, present, _, rfl, rfl⟩ :=
        EntryPoint.admitShader_eq_done ran
      have kept := (Shader.create_moves maker info verdict).retained created
      have before : world.registries = some all := kept.registries.symm.trans present
      obtain ⟨_, found, _, stored, _⟩ := EntryPoint.device_eq_done lookup
      cases before.symm.trans found
      exact of_registries rfl
        ((owned all before).insertShader (orderly.tidy all before).2 stored (product lookup created))

/-- Whatever a command makes is entered with what was made before. -/
theorem call (orderly : world.Orderly) (command : Session.CallCommand)
    (product : ∀ result, ((Session.Command.call command).making world world).1.value?.join =
      some result → result ∈ made) :
    (command.run world).2.Owned made := by
  have quiet (command : Session.CallCommand) (reads : command.reads = true) :
      (command.run world).2.Owned made :=
    owned.held (Session.call_untouched command reads)
  cases command with
  | startUp =>
      simp only [Session.CallCommand.run, Session.silently_world]
      exact owned.startUp
  | shutdown =>
      simp only [Session.CallCommand.run, Session.silently_world]
      exact shutdown world
  | shaderCount => exact quiet _ rfl
  | createDevice settings =>
      have stays := Session.config_sparing settings world
      refine bind_keeps (fun after => after.Owned made) (owned.alike stays.registries)
        fun config after ran kept => ?_
      rw [ran] at stays
      rw [map_world]
      exact kept.createDevice (stays.orderly orderly) config
  | device into handle => exact quiet _ rfl
  | destroyDevice handle =>
      simp only [Session.CallCommand.run, Session.silently_world]
      exact owned.destroyDevice orderly handle
  | createShader call owner info verdict =>
      simp only [Session.CallCommand.run]
      rw [map_world, Session.shaderCall_world]
      refine owned.createShader orderly owner info verdict fun lookup created => product _ ?_
      simp only [Session.Command.making]
      rw [bind_done lookup, bind_done created]
      rfl
  | shader into handle => exact quiet _ rfl
  | destroyObject handle =>
      simp only [Session.CallCommand.run, Session.silently_world]
      exact owned.destroyObject handle
  | log record => exact quiet _ rfl
  | setLogger faults => exact quiet _ rfl
  | resetLogger environment => exact quiet _ rfl

/-- Whatever a command makes is entered with what was made before. -/
theorem step (orderly : world.Orderly) (command : Session.Command) :
    (Session.step world command).2.Owned (made ++ (command.product? world).toList) := by
  have start : Owned { world with trace := [] } (made ++ (command.product? world).toList) :=
    owned.later (List.subset_append_left _ _)
  cases command with
  | memory command => exact start.held (Session.memory_untouched command _)
  | compiler command => exact start.held (Session.compiler_untouched command _)
  | device command => exact start.held (Session.device_untouched command _)
  | held command => exact start.held (Session.held_untouched command _)
  | call command =>
      have watched : Orderly { world with trace := [] } :=
        ⟨orderly.named, orderly.tidy, orderly.devices, orderly.shaders⟩
      refine start.call watched command fun result product => List.mem_append_right _ ?_
      rw [Option.mem_toList]
      exact product

theorem run {serial : Nat} {commands : List Session.Command} (keeps : world.Keeps serial 0)
    (spared : Session.spares serial world commands = true) :
    (Session.run world commands).2.Owned (made ++ Session.products world commands) := by
  induction commands generalizing world made with
  | nil => rwa [Session.products, List.append_nil]
  | cons command rest ih =>
      obtain ⟨first, later⟩ := Bool.and_eq_true_iff.mp spared
      rw [Session.products, ← List.append_assoc]
      exact ih (owned.step keeps.orderly command) (keeps.step command (bne_iff_ne.mp first)) later

end Owned

/-- Every registered shader, unless the lock is poisoned, has the handle of a registered device with it,
and of all devices that is the one on which the shader was made. -/
def Attributes (world : World) (made : List (Shader × Device)) : Prop :=
  ∀ all, world.registries = some all → all.shaders.poisoned = false →
    ∀ handle entry, (handle, entry) ∈ all.shaders.content.entries →
      ∃ device, all.devices.content.get? entry.owner = some device ∧
        (∃ info, entry.shader.MadeFrom device info) ∧
        ∀ maker, (entry.shader, maker) ∈ made ↔ maker = device

end World

namespace Session

open World

variable {heap : Heap}

/-- After any run, every registered shader is attributed to the device that it was made on, and that
device is still registered. -/
theorem shaders_stay_with_their_device (commands : List Command) :
    (run (.initial heap) commands).2.Attributes (products (.initial heap) commands) := by
  intro all present healthy handle entry listed
  obtain ⟨serial, spared⟩ := exists_spared (.initial heap) commands
  have keeps : (World.initial heap).Keeps serial 0 := initial_keeps serial
  have after := keeps.run (spared serial (Nat.le_refl _))
  have course := course commands keeps (spared serial (Nat.le_refl _))
  have owned : (World.initial heap).Owned [] := World.Owned.of_absent rfl
  have stored := (after.orderly.tidy all present).2.mem_entries.mp listed
  obtain ⟨device, found, product⟩ :=
    owned.run keeps (spared serial (Nat.le_refl _)) all present healthy handle entry stored
  rw [List.nil_append] at product
  refine ⟨device, found, ?_, fun maker => ⟨fun another => ?_, fun same => same ▸ product⟩⟩
  · obtain ⟨_, _, made⟩ := exists_product product
    exact (product_made made).1
  · -- No other shader has the number.
    exact congrArg Prod.snd (List.inj_on_of_nodup_map course.apart another product rfl)

/-- A device is created where one was destroyed that a shader had been made on. -/
def successor : List Command :=
  let create : Command := .call (.createDevice
    { extensions := none, debug := none, gpuName := none, allocator := none, compiler := none })
  let code := (Container.Bil.Header.current 7).toBytes ++ [1, 2, 3, 4]
  [.call .startUp, create, .call (.createShader .core ⟨1, 1⟩ (.bil code) .panics),
    .call (.destroyDevice ⟨1, 1⟩), create,
    .call (.createShader .rawCore ⟨1, 3⟩ (.bil code) .panics)]

example : ((run .initial successor).2.registries.map fun all =>
      all.shaders.content.entries.map fun entry => (entry.2.owner, entry.2.shader.maker)) =
        some [(⟨1, 3⟩, 4)] ∧
    (products .initial successor).map (fun made => made.2.id) = [1, 4] := by decide +kernel

end Session

end ShaderDriver
