import ShaderDriver.Proofs.EntryPoint.Effects

namespace ShaderDriver

open Act

/-! What the entry points leave in the registries, however they end, and which of them cannot fail. -/

variable {α β : Type}

namespace Registries

/-- After a panic with one of the locks held for writing. -/
def poison (all : Registries) : ObjectKind → Registries
  | .device => { all with devices := { all.devices with poisoned := true } }
  | .shader => { all with shaders := { all.shaders with poisoned := true } }

end Registries

variable {world : World} {all left : Registries}

namespace EntryPoint

theorem poison_outcome (kind : ObjectKind) (present : world.registries = some all) :
    (poison kind world).2.registries = some (all.poison kind) := by
  simp only [poison, changeRegistries, Act.change, present, Option.map_some]
  cases kind <;> rfl

/-- A refusal with a lock held poisons the lock if the logger panics at the entry about it. -/
theorem writing_outcome (kind : ObjectKind) (error : Error) (present : world.registries = some all) :
    (writing kind (failLogged error : Act α) world).2.registries =
      some (if (world.logger.receive .error).1 then all.poison kind else all) := by
  have left : (failLogged error world : Exit α × World).2.registries = some all := by
    rw [failLogged_untouched, present]
  have exit := failLogged_exit (α := α) error world
  unfold writing
  cases panics : (world.logger.receive .error).1 with
  | true =>
      rw [panics, if_pos rfl] at exit
      rw [exit] at left ⊢
      exact poison_outcome kind left
  | false =>
      rw [panics, if_neg Bool.false_ne_true] at exit
      rw [exit] at left ⊢
      exact left

theorem locked_outcome {kind : ObjectKind} (part : Registries → Guarded α) (next : α → Act β)
    (present : world.registries = some all) :
    ((registries >>= fun all => unlocked kind (part all) >>= next) world).2.registries =
      if (part all).poisoned then some all
      else (next (part all).content world).2.registries := by
  rw [locked_run kind part]
  simp only [present]
  split
  · rw [failLogged_untouched, present]
  · rfl

/-- Nothing comes into being behind a lock that is not there. -/
theorem locked_absent {kind : ObjectKind} (part : Registries → Guarded α) (next : α → Act β)
    (missing : world.registries = none) :
    ((registries >>= fun all => unlocked kind (part all) >>= next) world).2.registries = none := by
  rw [locked_run kind part]
  simp only [missing]
  rw [failLogged_untouched, missing]

theorem destroyObject_outcome (handle : Handle .shader) (present : world.registries = some all) :
    (destroyObject handle world).2.registries = some (
      if all.shaders.poisoned then all
      else match all.shaders.content.get? handle with
        | none => if (world.logger.receive .error).1 then all.poison .shader else all
        | some _ => all.withShaders (all.shaders.content.erase handle)) := by
  unfold destroyObject
  rw [locked_outcome Registries.shaders _ present]
  split
  · rfl
  · cases stored : all.shaders.content.get? handle with
    | none => exact writing_outcome .shader _ present
    | some entry =>
        simp only
        rw [bind_done (setShaders_run present _), entry.shader.letGo_untouched]
        rfl

theorem dismiss_outcome (handle : Handle .device) (present : world.registries = some all) :
    (dismiss handle world).2.registries = some (
      if all.shaders.poisoned then all
      else all.withShaders
        (all.shaders.content.eraseAll ((ownedBy handle all.shaders.content).map Prod.fst))) := by
  have quiet (shaders : List Shader) (message : String) :
      untouched.Holds ((note .info "xgl::Icd" message).thenRelease
        (releaseEach Shader.letGo shaders)) :=
    (Moves.note .info _ message).untouched.thenRelease
      (.releaseEach fun shader _ => shader.letGo_untouched)
  unfold dismiss takeOwned
  simp only [Act.bind_assoc]
  rw [locked_outcome Registries.shaders _ present]
  split
  · rfl
  · rw [bind_done (setShaders_run present _), pure_bind, quiet]
    rfl

theorem destroyDevice_run (handle : Handle .device) (world : World) :
    destroyDevice handle world =
      match world.registries with
      | none => failLogged notInitialized world
      | some all =>
          if all.devices.poisoned then failLogged (registryPoisoned .device) world
          else match all.devices.content.get? handle with
            | none => writing .device (failLogged (unknown handle)) world
            | some found => ((dismiss handle).thenRelease found.letGo)
                (world.withRegistries (all.withDevices (all.devices.content.erase handle))) := by
  unfold destroyDevice
  rw [locked_run .device Registries.devices]
  cases present : world.registries with
  | none => rfl
  | some all =>
      simp only
      split
      · rfl
      · cases all.devices.content.get? handle with
        | none => rfl
        | some found => exact bind_done (setDevices_run present _)

/-- With the shaders behind a poisoned lock, a device goes alone. -/
theorem destroyDevice_outcome (handle : Handle .device) (present : world.registries = some all) :
    (destroyDevice handle world).2.registries = some (
      if all.devices.poisoned then all
      else match all.devices.content.get? handle with
        | none => if (world.logger.receive .error).1 then all.poison .device else all
        | some _ =>
            if all.shaders.poisoned then all.withDevices (all.devices.content.erase handle)
            else dismissed all handle) := by
  rw [destroyDevice_run]
  simp only [present]
  split
  · rw [failLogged_untouched, present]
  · cases stored : all.devices.content.get? handle with
    | none => exact writing_outcome .device _ present
    | some device =>
        simp only
        rw [thenRelease_world, device.letGo_untouched]
        have alone : (world.withRegistries
            (all.withDevices (all.devices.content.erase handle))).registries = some _ := rfl
        exact dismiss_outcome handle alone

theorem shutdown_outcome (world : World) :
    (shutdown world).2.registries = world.registries.map emptiedAll := by
  cases present : world.registries with
  | none =>
      simp only [shutdown, present]
      rfl
  | some all =>
      have quiet : untouched.Holds
          ((releaseEach (fun entry : ShaderEntry => entry.shader.letGo) (removed all.shaders)).thenRelease
            (releaseEach Device.letGo (removed all.devices))) :=
        (Frame.Holds.releaseEach fun entry _ => entry.shader.letGo_untouched).thenRelease
          (.releaseEach fun device _ => device.letGo_untouched)
      rw [shutdown_run present, quiet]
      rfl

end EntryPoint

/-! What happened if the registries are healthy in the end. -/

theorem Registries.Healthy.not_poisoned {panics : Bool} {kind : ObjectKind}
    (healthy : left.Healthy) (found : (if panics then all.poison kind else all) = left) :
    left = all := by
  cases panics with
  | true =>
      subst found
      cases kind with
      | device => cases healthy.devices
      | shader => cases healthy.shaders
  | false => exact found.symm

namespace EntryPoint

theorem destroyObject_registries {handle : Handle .shader}
    (found : (destroyObject handle world).2.registries = some left) (healthy : left.Healthy) :
    ∃ all, world.registries = some all ∧ all.Healthy ∧
      left = all.withShaders (all.shaders.content.erase handle) := by
  cases present : world.registries with
  | none =>
      have absent : (destroyObject handle world).2.registries = none :=
        locked_absent Registries.shaders _ present
      cases absent.symm.trans found
  | some all =>
      rw [destroyObject_outcome handle present, Option.some.injEq] at found
      split at found
      · next poisoned =>
          subst found
          cases poisoned.symm.trans healthy.shaders
      · split at found
        · next absent =>
            obtain rfl := healthy.not_poisoned found
            exact ⟨left, rfl, healthy, by rw [Registry.erase_of_get?_eq_none absent]; rfl⟩
        · subst found
          exact ⟨all, rfl, ⟨healthy.devices, healthy.shaders⟩, rfl⟩

theorem destroyDevice_registries {handle : Handle .device}
    (found : (destroyDevice handle world).2.registries = some left) (healthy : left.Healthy) :
    ∃ all, world.registries = some all ∧ all.Healthy ∧
      left = match all.devices.content.get? handle with
        | none => all
        | some _ => dismissed all handle := by
  cases present : world.registries with
  | none =>
      have absent : (destroyDevice handle world).2.registries = none :=
        locked_absent Registries.devices _ present
      cases absent.symm.trans found
  | some all =>
      rw [destroyDevice_outcome handle present, Option.some.injEq] at found
      split at found
      · next poisoned =>
          subst found
          cases poisoned.symm.trans healthy.devices
      · split at found
        · next absent =>
            obtain rfl := healthy.not_poisoned found
            exact ⟨left, rfl, healthy, by rw [absent]⟩
        · next stored =>
            split at found
            · next poisoned =>
                subst found
                cases poisoned.symm.trans healthy.shaders
            · subst found
              exact ⟨all, rfl, ⟨healthy.devices, healthy.shaders⟩, by rw [stored]⟩

theorem emptied_healthy {kind : ObjectKind} {guarded : Guarded (Registry kind α)}
    (healthy : (emptied guarded).poisoned = false) :
    emptied guarded = { content := .empty, poisoned := false } := by
  unfold emptied at healthy ⊢
  cases poisoned : guarded.poisoned with
  | true =>
      rw [poisoned, if_pos rfl, poisoned] at healthy
      cases healthy
  | false => rfl

theorem shutdown_registries (found : (shutdown world).2.registries = some left)
    (healthy : left.Healthy) : left = .empty := by
  rw [shutdown_outcome] at found
  obtain ⟨all, _, rfl⟩ := Option.map_eq_some_iff.mp found
  rw [emptiedAll, emptied_healthy healthy.devices, emptied_healthy healthy.shaders]
  rfl

end EntryPoint

/-! Entry points that do not fail. -/

theorem Shader.letGo_unfailing (shader : Shader) : shader.letGo.Unfailing := by
  have ends : shader.teardown.Unfailing :=
    .emit ((log_unfailing shader.farewell).thenRelease _)
  intro world
  unfold Shader.letGo
  split
  · nofun
  · exact ends world

namespace EntryPoint

theorem dismiss_unfailing (handle : Handle .device) (present : world.registries = some all)
    (healthy : all.shaders.poisoned = false) (error : Error) :
    (dismiss handle world).1 ≠ .failed error := by
  unfold dismiss takeOwned
  simp only [Act.bind_assoc]
  rw [locked_run .shader Registries.shaders]
  simp only [present, healthy, Bool.false_eq_true, if_false]
  rw [bind_done (setShaders_run present _), pure_bind]
  exact (log_unfailing _).thenRelease _ _ error

end EntryPoint

end ShaderDriver
