import ShaderDriver.Proofs.EntryPoint.Refusals
import ShaderDriver.Proofs.Session.Accounting
import ShaderDriver.Proofs.Session.Locks

namespace ShaderDriver

open Act EntryPoint

/-! The end of a device takes everything away that belongs to the device, or nothing at all. The
exception are shaders behind a poisoned lock: their device is gone before the lock is tried. -/

namespace Registries

variable {all : Registries} {handle : Handle .device}

/-- A registered device can be taken out, but the shaders are behind a poisoned lock. -/
structure Strands (all : Registries) (handle : Handle .device) : Prop where
  devices : all.devices.poisoned = false
  registered : (all.devices.content.get? handle).isSome = true
  shaders : all.shaders.poisoned = true

/-- The device is taken out with the shaders that were asked of it, and nothing else is. -/
structure Dismisses (all left : Registries) (handle : Handle .device) : Prop where
  registered : (all.devices.content.get? handle).isSome = true
  devices : ∀ other, left.devices.content.get? other =
    if other = handle then none else all.devices.content.get? other
  shaders : ∀ other, left.shaders.content.get? other =
    (all.shaders.content.get? other).filter fun entry => entry.owner != handle

theorem dismissed_dismisses (tidy : all.shaders.content.Tidy)
    (registered : (all.devices.content.get? handle).isSome = true) :
    all.Dismisses (dismissed all handle) handle where
  registered := registered
  devices other := Registry.get?_erase _ handle other
  shaders other := by
    have owned : other ∈ (ownedBy handle all.shaders.content).map Prod.fst ↔
        ∃ entry, all.shaders.content.get? other = some entry ∧ entry.owner = handle := by
      simp [ownedBy, tidy.mem_entries]
    change (all.shaders.content.eraseAll _).get? other = _
    rw [Registry.get?_eraseAll]
    simp only [owned]
    cases stored : all.shaders.content.get? other with
    | none => simp
    | some entry => by_cases own : entry.owner = handle <;> simp [own, Option.filter]

end Registries

namespace World

/-- The registries, with the handles that they give out next, and the allocators are as they were. -/
structure Spared (world after : World) : Prop where
  registries : after.registries = world.registries
  allocators : after.allocators = world.allocators

/-- What there is when a device was to be destroyed: everything as before if there is an error, unless
the shaders are behind a poisoned lock, and the device and its shaders gone if there is none. -/
structure Concludes (world : World) (handle : Handle .device) : Prop where
  failed : ∀ error after, destroyDevice handle world = (.failed error, after) →
    (world.Spared after ↔ ∀ all ∈ world.registries, ¬ all.Strands handle)
  stranded : ∀ error after, destroyDevice handle world = (.failed error, after) →
    ∀ all ∈ world.registries, all.Strands handle → error = registryPoisoned .shader ∧
      after.registries = some (all.withDevices (all.devices.content.erase handle))
  done : ∀ after, destroyDevice handle world = (.done (), after) → ∃ all left,
    world.registries = some all ∧ after.registries = some left ∧ all.Dismisses left handle

variable {world after : World} {all : Registries} {handle : Handle .device} {error : Error}

theorem failLogged_spared {α : Type} (error : Error) (world : World) :
    world.Spared (failLogged error world : Exit α × World).2 := by
  rw [failLogged_exit]
  exact ⟨rfl, rfl⟩

/-- A refusal that is passed on has left the lock alone. -/
theorem writing_spared {kind : ObjectKind} {refusal : Error}
    (failed : writing kind (failLogged refusal : Act Unit) world = (.failed error, after)) :
    world.Spared after := by
  have spared := failLogged_spared (α := Unit) refusal world
  unfold writing at failed
  generalize failLogged refusal world = ran at failed spared
  obtain ⟨exit, middle⟩ := ran
  cases exit <;> cases failed
  exact spared

/-- With the shaders behind a poisoned lock, the end of a registered device is refused. -/
theorem destroyDevice_refused (present : world.registries = some all) (strands : all.Strands handle) :
    (destroyDevice handle world).1 = .failed (registryPoisoned .shader) ∨
      (destroyDevice handle world).1 = .unwound := by
  obtain ⟨found, stored⟩ := Option.isSome_iff_exists.mp strands.registered
  rw [destroyDevice_run]
  simp only [present, strands.devices, stored, Bool.false_eq_true, if_false]
  generalize alone : world.withRegistries (all.withDevices (all.devices.content.erase handle)) = rest
  have refused : dismiss handle rest = failLogged (registryPoisoned .shader) rest := by
    rw [← alone]
    exact dismiss_refused handle rfl strands.shaders
  rcases thenRelease_exit (dismiss handle) found.letGo rest with kept | unwound
  · rw [kept, refused, failLogged_exit]
    split
    · exact .inr rfl
    · exact .inl rfl
  · exact .inr unwound

/-- Unless a device is stranded, an error about it comes before anything has changed. -/
theorem destroyDevice_spared (unstranded : ∀ all ∈ world.registries, ¬ all.Strands handle)
    (failed : destroyDevice handle world = (.failed error, after)) : world.Spared after := by
  have refused (refusal : Error)
      (failed : (failLogged refusal world : Exit Unit × World) = (.failed error, after)) :
      world.Spared after := by
    have spared := failLogged_spared (α := Unit) refusal world
    rwa [failed] at spared
  have outcome := failed
  rw [destroyDevice_run] at outcome
  split at outcome
  · exact refused _ outcome
  · next all present =>
      split at outcome
      · exact refused _ outcome
      · next devices =>
          split at outcome
          · exact writing_spared outcome
          · next found stored =>
              have unlocked : all.devices.poisoned = false := Bool.eq_false_iff.mpr devices
              have healthy : all.Healthy := by
                refine ⟨unlocked, Bool.eq_false_iff.mpr fun shaders => ?_⟩
                exact unstranded all present ⟨unlocked, by rw [stored]; rfl, shaders⟩
              have unfailing := ((healthy.serves present).destroyDevice handle found stored).1 error
              exact absurd (congrArg Prod.fst failed) unfailing

/-- A stranded device is taken out before the lock of the shaders is found poisoned. -/
theorem destroyDevice_stranded (present : world.registries = some all) (strands : all.Strands handle)
    (failed : destroyDevice handle world = (.failed error, after)) :
    error = registryPoisoned .shader ∧
      after.registries = some (all.withDevices (all.devices.content.erase handle)) := by
  constructor
  · rcases destroyDevice_refused present strands with refused | unwound
    · rw [failed] at refused
      cases refused
      rfl
    · rw [failed] at unwound
      cases unwound
  · obtain ⟨found, stored⟩ := Option.isSome_iff_exists.mp strands.registered
    have left := destroyDevice_outcome handle present
    simp only [failed, strands.devices, strands.shaders, stored, Bool.false_eq_true, if_true,
      if_false] at left
    exact left

theorem Spared.unstranded (spared : world.Spared after) (present : world.registries = some all)
    (failed : destroyDevice handle world = (.failed error, after)) : ¬ all.Strands handle := by
  intro strands
  have left := (destroyDevice_stranded present strands failed).2
  rw [spared.registries, present, Option.some.injEq] at left
  have erased := Registry.get?_erase all.devices.content handle handle
  rw [if_pos rfl] at erased
  have absent : all.devices.content.get? handle = none := by
    rw [left]
    exact erased
  have registered := strands.registered
  rw [absent] at registered
  cases registered

/-- Without an error, the device was there, and it is gone with its shaders. -/
theorem destroyDevice_done (orderly : world.Orderly)
    (done : destroyDevice handle world = (.done (), after)) :
    ∃ all left, world.registries = some all ∧ after.registries = some left ∧
      all.Dismisses left handle := by
  have outcome := done
  rw [destroyDevice_run] at outcome
  split at outcome
  · exact absurd outcome (failLogged_ne_done _ _ _ _)
  · next all present =>
      have left := destroyDevice_outcome handle present
      split at outcome
      · exact absurd outcome (failLogged_ne_done _ _ _ _)
      · next devices =>
          split at outcome
          · have unfinished := failLogged_unfinished (α := Unit) (unknown handle) world
            rw [← writing_exit .device, outcome] at unfinished
            cases unfinished
          · next found stored =>
              have registered : (all.devices.content.get? handle).isSome = true := by
                rw [stored]
                rfl
              cases shaders : all.shaders.poisoned with
              | true =>
                  have strands : all.Strands handle := ⟨Bool.eq_false_iff.mpr devices, registered, shaders⟩
                  rcases destroyDevice_refused present strands with refused | unwound
                  · rw [done] at refused
                    cases refused
                  · rw [done] at unwound
                    cases unwound
              | false =>
                  simp only [done, devices, stored, shaders, if_false, Bool.false_eq_true] at left
                  exact ⟨all, _, present, left,
                    Registries.dismissed_dismisses (orderly.tidy all present).2 registered⟩

end World

namespace Session

open World

variable {heap : Heap}

/-- After any run, the end of a device is all or nothing, unless it strands the shaders. -/
theorem devices_end_with_their_shaders (commands : List Command) (handle : Handle .device) :
    (run (.initial heap) commands).2.Concludes handle := by
  obtain ⟨serial, spared⟩ := exists_spared (.initial heap) commands
  have keeps := (initial_keeps serial).run (spared serial (Nat.le_refl _))
  refine ⟨fun error after failed => ⟨fun kept all present => ?_, fun unstranded => ?_⟩, ?_, ?_⟩
  · exact kept.unstranded present failed
  · exact destroyDevice_spared unstranded failed
  · exact fun error after failed all present strands => destroyDevice_stranded present strands failed
  · exact fun after done => destroyDevice_done keeps.orderly done

/-- A logger panics while a shader that is not known is destroyed. -/
def shadersLocked : List Command :=
  [.call .startUp,
    .call (.createDevice
      { extensions := none, debug := none, gpuName := none, allocator := none, compiler := none }),
    .call (.setLogger [{ severity := some .error, skip := 0 }]), .call (.destroyObject ⟨9, 1⟩)]

/-- The error says that the shaders cannot be reached. The device is gone all the same. -/
theorem error_comes_after_device_is_gone :
    let world := (run .initial shadersLocked).2
    (device ⟨1, 1⟩ world).1.isDone = true ∧
      (destroyDevice ⟨1, 1⟩ world).1 = .failed (registryPoisoned .shader) ∧
      (device ⟨1, 1⟩ (destroyDevice ⟨1, 1⟩ world).2).1 =
        .failed (unknown (⟨1, 1⟩ : Handle .device)) ∧
      ¬ world.Spared (destroyDevice ⟨1, 1⟩ world).2 := by
  refine ⟨by decide +kernel, by decide +kernel, by decide +kernel, fun spared => ?_⟩
  have count : (run .initial shadersLocked).2.registeredDevices.length = 1 := by decide +kernel
  have left : (destroyDevice ⟨1, 1⟩ (run .initial shadersLocked).2).2.registeredDevices.length = 0 := by
    decide +kernel
  unfold World.registeredDevices at count left
  rw [spared.registries, count] at left
  cases left

end Session

end ShaderDriver
