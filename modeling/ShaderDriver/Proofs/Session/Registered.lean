import ShaderDriver.Proofs.Session.Upkeep

namespace ShaderDriver

open Memory Act World

/-! The entry points that make devices and shaders keep the balance between references and the
account of an allocator. -/

namespace World.Keeps

variable {world after : World} {serial : Nat} {pending : Multiset Held}

theorem foundDevice (keeps : world.Keeps serial pending) {handle : Handle .device} {device : Device}
    (done : EntryPoint.device handle world = (.done device, after)) :
    .device device ∈ world.references := by
  obtain ⟨all, found, _, stored, _⟩ := EntryPoint.device_eq_done done
  exact registeredDevice found ((keeps.orderly.tidy all found).1.mem_values stored)

theorem device_known (keeps : world.Keeps serial pending) {device : Device}
    (member : .device device ∈ world.references) : device.allocator.serial < world.nextSerial :=
  (keeps.consistent.fits _ (Multiset.mem_add.mpr (.inr member))).2.1

end World.Keeps

namespace Upkeep

variable {spare : Nat} {kept : World → Multiset Held → Prop} (upkeep : Upkeep spare kept)
  {world : World}

include upkeep

theorem admitDevice (start : kept world 0) (config : DeviceConfig)
    (known : config.allocator.serial < world.nextSerial) :
    kept (EntryPoint.admitDevice config world).2 0 := by
  have undone := upkeep.reverts start (EntryPoint.admitDevice_reverts config)
  rcases ran : EntryPoint.admitDevice config world with ⟨exit, after⟩
  rw [ran] at undone
  cases exit with
  | done admitted =>
      obtain ⟨handle, device⟩ := admitted
      obtain ⟨middle, all, created, found, _, rfl, rfl⟩ := EntryPoint.admitDevice_eq_done ran
      obtain ⟨made, least, most⟩ := Device.create_eq_done (onFailure_eq_done.mp created)
      have moves := EntryPoint.newDevice_moves config
      have retained := moves.retained created
      have bound : device.allocator.serial < middle.nextSerial := by
        rw [made.allocator]
        exact Nat.lt_of_lt_of_le known retained.serials
      have pending : kept middle {.device device} :=
        upkeep.gain start moves created rfl ⟨⟨config, made⟩, bound, most⟩ (by
          rintro kind id ⟨rfl⟩
          exact least)
      refine upkeep.rearrange pending ((upkeep.orderly pending).enlistDevice found ?_)
      rw [retained.references]
      exact (upkeep.keeps start).new rfl least
  | failed error => exact undone rfl
  | unwound => exact undone rfl

theorem createDevice (start : kept world 0) (config : DeviceConfig)
    (known : config.allocator.serial < world.nextSerial) :
    kept (EntryPoint.createDevice config world).2 0 := by
  refine bind_keeps (fun after => kept after 0) (upkeep.admitDevice start config known)
    fun admitted after _ admission => ?_
  exact upkeep.idle admission ((Moves.note .info _ _).bind fun _ => .idle _)

theorem admitShader (start : kept world 0) (owner : Handle .device) (info : CreateInfo)
    (verdict : Verdict) : kept (EntryPoint.admitShader owner info verdict world).2 0 := by
  have undone := upkeep.reverts start (EntryPoint.admitShader_reverts owner info verdict)
  rcases ran : EntryPoint.admitShader owner info verdict world with ⟨exit, after⟩
  rw [ran] at undone
  cases exit with
  | done admitted =>
      obtain ⟨handle, shader⟩ := admitted
      obtain ⟨maker, middle, all, lookup, created, found, _, rfl, rfl⟩ :=
        EntryPoint.admitShader_eq_done ran
      obtain ⟨made, least, most⟩ := Shader.create_eq_done created
      have keeps := upkeep.keeps start
      have moves := Shader.create_moves maker info verdict
      have retained := moves.retained created
      have bound : shader.allocator.serial < middle.nextSerial := by
        rw [made.allocator]
        exact Nat.lt_of_lt_of_le (keeps.device_known (keeps.foundDevice lookup)) retained.serials
      have pending : kept middle {.shader shader} :=
        upkeep.gain start moves created rfl ⟨⟨maker, info, made⟩, bound, most⟩ (by
          rintro kind id ⟨rfl⟩
          exact least)
      refine upkeep.rearrange pending ((upkeep.orderly pending).enlistShader found ?_ owner)
      rw [retained.references]
      exact keeps.new rfl least
  | failed error => exact undone rfl
  | unwound => exact undone rfl

end Upkeep

end ShaderDriver
