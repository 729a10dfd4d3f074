import ShaderDriver.Proofs.EntryPoint.Outcomes
import ShaderDriver.Proofs.Session.Holdings

namespace ShaderDriver

open Act

/-! Moving references about between the registries, the names of an application, and whoever has them
pending. -/

/-- The references that the registries hold. -/
def Registries.references (all : Registries) : Multiset Held :=
  (all.devices.content.values.map Held.device : Multiset Held) +
    (all.shaders.content.values.map fun entry => Held.shader entry.shader : Multiset Held)

namespace World

variable {world after : World} {all left : Registries} {object : Held}
  {pending others : Multiset Held}

/-- Names and handles lead to one object each. -/
structure Orderly (world : World) : Prop where
  named : (world.held.map Prod.fst).Nodup
  tidy : ∀ all, world.registries = some all →
    all.devices.content.Tidy ∧ all.shaders.content.Tidy
  devices : world.registeredDevices.Nodup
  shaders : world.registeredShaders.Nodup

theorem Orderly.retained (orderly : world.Orderly) (kept : world.Retains after) :
    after.Orderly where
  named := by rw [kept.held]; exact orderly.named
  tidy := by rw [kept.registries]; exact orderly.tidy
  devices := by rw [registeredDevices, kept.registries]; exact orderly.devices
  shaders := by rw [registeredShaders, kept.registries]; exact orderly.shaders

theorem Retains.references (kept : world.Retains after) : after.references = world.references := by
  simp only [World.references, registeredDevices, registeredShaders, kept.registries, kept.held]

/-- The references are elsewhere, and nothing else has happened. -/
structure Rearranges (world after : World) (pending others : Multiset Held) : Prop where
  allocators : after.allocators = world.allocators
  trace : after.trace = world.trace
  serials : after.nextSerial = world.nextSerial
  orderly : after.Orderly
  once : others.Nodup
  same : others + after.references = pending + world.references

theorem references_eq (world : World) :
    world.references = (world.registeredDevices.map Held.device : Multiset Held) +
      (world.registeredShaders.map Held.shader : Multiset Held) +
      (world.held.map Prod.snd : Multiset Held) := by
  simp only [references, ← Multiset.coe_add]

/-! Names. -/

theorem withoutName_absent {held : List (String × Held)} {name : String}
    (absent : held.lookup name = none) : (held.filter fun entry => entry.1 != name) = held := by
  refine List.filter_eq_self.mpr fun entry member => ?_
  have differs := List.lookup_eq_none_iff.mp absent entry member
  rwa [bne_comm] at differs

theorem withoutName_present {held : List (String × Held)} {name : String} {object : Held}
    (named : (held.map Prod.fst).Nodup) (found : held.lookup name = some object) :
    held.Perm ((name, object) :: held.filter fun entry => entry.1 != name) := by
  obtain ⟨front, back, rfl, _⟩ := List.lookup_eq_some_iff.mp found
  have middle : (front ++ (name, object) :: back).Perm ((name, object) :: (front ++ back)) :=
    List.perm_middle
  have distinct := List.nodup_cons.mp ((middle.map Prod.fst).nodup_iff.mp named)
  have others : ∀ entry ∈ front ++ back, (entry.1 != name) = true := by
    intro entry member
    rw [bne_iff_ne]
    intro same
    refine distinct.1 (List.mem_map.mpr ⟨entry, member, same⟩)
  have rest : ((front ++ (name, object) :: back).filter fun entry => entry.1 != name) =
      front ++ back := by
    rw [List.filter_append, List.filter_cons_of_neg (by simp), ← List.filter_append]
    exact List.filter_eq_self.mpr others
  rw [rest]
  exact middle

theorem withoutName_named {held : List (String × Held)} (named : (held.map Prod.fst).Nodup)
    (name : String) : ((held.filter fun entry => entry.1 != name).map Prod.fst).Nodup :=
  named.sublist (List.filter_sublist.map Prod.fst)

theorem Orderly.withoutName (orderly : world.Orderly) {name : String}
    (found : world.held? name = some object) :
    world.Rearranges (world.withoutName name) 0 {object} where
  allocators := rfl
  trace := rfl
  serials := rfl
  orderly := ⟨withoutName_named orderly.named name, orderly.tidy, orderly.devices, orderly.shaders⟩
  once := Multiset.nodup_singleton _
  same := by
    have held := Multiset.coe_eq_coe.mpr
      ((withoutName_present orderly.named found).map Prod.snd)
    rw [zero_add, references_eq world, held, references_eq]
    change {object} + (_ + _ + _) = _ + _ + _
    rw [List.map_cons, ← Multiset.cons_coe, ← Multiset.singleton_add]
    ac_rfl

theorem hold_named {held : List (String × Held)} (named : (held.map Prod.fst).Nodup)
    (name : String) (object : Held) :
    (((name, object) :: held.filter fun entry => entry.1 != name).map Prod.fst).Nodup := by
  rw [List.map_cons, List.nodup_cons]
  refine ⟨fun member => ?_, withoutName_named named name⟩
  obtain ⟨entry, listed, same⟩ := List.mem_map.mp member
  have differs := (List.mem_filter.mp listed).2
  rw [same, bne_self_eq_false] at differs
  cases differs

theorem Orderly.hold (orderly : world.Orderly) {name : String} (free : world.held? name = none)
    (object : Held) : world.Rearranges (world.hold name object) {object} 0 where
  allocators := rfl
  trace := rfl
  serials := rfl
  orderly := ⟨hold_named orderly.named name object, orderly.tidy, orderly.devices, orderly.shaders⟩
  once := Multiset.nodup_zero
  same := by
    have held : (world.hold name object).held = (name, object) :: world.held := by
      rw [World.hold, World.withoutName, withoutName_absent free]
    rw [references_eq world, references_eq, held, zero_add, List.map_cons, ← Multiset.cons_coe,
      ← Multiset.singleton_add]
    change _ + _ + _ = _
    ac_rfl

theorem Orderly.replace (orderly : world.Orderly) {name : String} {earlier : Held}
    (taken : world.held? name = some earlier) (object : Held) :
    world.Rearranges (world.hold name object) {object} {earlier} where
  allocators := rfl
  trace := rfl
  serials := rfl
  orderly := ⟨hold_named orderly.named name object, orderly.tidy, orderly.devices, orderly.shaders⟩
  once := Multiset.nodup_singleton _
  same := by
    have held := Multiset.coe_eq_coe.mpr
      ((withoutName_present orderly.named taken).map Prod.snd)
    have holds : (world.hold name object).held =
        (name, object) :: world.held.filter fun entry => entry.1 != name := rfl
    rw [references_eq world, references_eq, held, holds]
    change {earlier} + (_ + _ + _) = {object} + (_ + _ + _)
    simp only [List.map_cons, ← Multiset.cons_coe, ← Multiset.singleton_add]
    ac_rfl

/-! Registries. -/

theorem references_of_registries (found : world.registries = some all) :
    world.references = all.references + (world.held.map Prod.snd : Multiset Held) := by
  rw [references_eq, registeredDevices, registeredShaders, found, Registries.references]
  simp only [List.map_map]
  rfl

theorem registeredDevice (found : world.registries = some all) {device : Device}
    (member : device ∈ all.devices.content.values) : .device device ∈ world.references := by
  rw [← mem_devices, registeredDevices, found]
  exact List.mem_append_left _ member

theorem registeredShader (found : world.registries = some all) {shader : Shader}
    (member : shader ∈ all.shaders.content.values.map ShaderEntry.shader) :
    .shader shader ∈ world.references := by
  rw [← mem_shaders, registeredShaders, found]
  exact List.mem_append_left _ member

namespace Orderly

theorem devices_nodup (orderly : world.Orderly) (found : world.registries = some all) :
    all.devices.content.values.Nodup := by
  have devices := orderly.devices
  rwa [registeredDevices, found] at devices

theorem shaders_nodup (orderly : world.Orderly) (found : world.registries = some all) :
    (all.shaders.content.values.map ShaderEntry.shader).Nodup := by
  have shaders := orderly.shaders
  rwa [registeredShaders, found] at shaders

/-- The registries can be changed if what leaves them is pending, and what they take in was. -/
theorem reregister (orderly : world.Orderly) (found : world.registries = some all)
    (tidy : left.devices.content.Tidy ∧ left.shaders.content.Tidy)
    (devices : left.devices.content.values.Nodup)
    (shaders : (left.shaders.content.values.map ShaderEntry.shader).Nodup) (once : others.Nodup)
    (same : others + left.references = pending + all.references) :
    world.Rearranges (world.withRegistries left) pending others where
  allocators := rfl
  trace := rfl
  serials := rfl
  orderly := by
    refine ⟨orderly.named, ?_, devices, shaders⟩
    rintro present ⟨rfl⟩
    exact tidy
  once := once
  same := by
    rw [references_of_registries found, references_of_registries rfl, ← add_assoc,
      ← add_assoc, same]
    rfl

theorem enlistDevice (orderly : world.Orderly) (found : world.registries = some all)
    {device : Device} (new : .device device ∉ world.references) :
    world.Rearranges
      (world.withRegistries (all.withDevices (all.devices.content.insert device).2))
      {.device device} 0 := by
  have shaders := orderly.shaders_nodup found
  have values := (orderly.tidy all found).1.insert_values device
  refine orderly.reregister found ⟨(orderly.tidy all found).1.insert device, (orderly.tidy all found).2⟩ ?_
    shaders Multiset.nodup_zero ?_
  · exact values.nodup_iff.mpr ((orderly.devices_nodup found).cons fun member =>
      new (registeredDevice found member))
  · have listed := Multiset.coe_eq_coe.mpr (values.map Held.device)
    simp only [Registries.references, Registries.withDevices]
    rw [listed, zero_add, List.map_cons, ← Multiset.cons_coe, ← Multiset.singleton_add, add_assoc]

theorem enlistShader (orderly : world.Orderly) (found : world.registries = some all)
    {shader : Shader} (new : .shader shader ∉ world.references) (owner : Handle .device) :
    world.Rearranges
      (world.withRegistries (all.withShaders (all.shaders.content.insert { owner, shader }).2))
      {.shader shader} 0 := by
  have devices := orderly.devices_nodup found
  have values := (orderly.tidy all found).2.insert_values { owner, shader }
  refine orderly.reregister found ⟨(orderly.tidy all found).1, (orderly.tidy all found).2.insert _⟩
    devices ?_ Multiset.nodup_zero ?_
  · exact (values.map ShaderEntry.shader).nodup_iff.mpr ((orderly.shaders_nodup found).cons
      fun member => new (registeredShader found member))
  · have listed := Multiset.coe_eq_coe.mpr (values.map fun entry => Held.shader entry.shader)
    simp only [Registries.references, Registries.withShaders]
    rw [listed, zero_add, List.map_cons, ← Multiset.cons_coe, ← Multiset.singleton_add]
    ac_rfl

theorem strikeDevice (orderly : world.Orderly) (found : world.registries = some all)
    {handle : Handle .device} {device : Device}
    (stored : all.devices.content.get? handle = some device) :
    world.Rearranges (world.withRegistries (all.withDevices (all.devices.content.erase handle)))
      0 {.device device} := by
  have shaders := orderly.shaders_nodup found
  have values := (orderly.tidy all found).1.erase_values stored
  refine orderly.reregister found ⟨(orderly.tidy all found).1.erase handle, (orderly.tidy all found).2⟩ ?_
    shaders (Multiset.nodup_singleton _) ?_
  · exact (List.nodup_cons.mp (values.nodup_iff.mp (orderly.devices_nodup found))).2
  · have listed := Multiset.coe_eq_coe.mpr (values.map Held.device)
    simp only [Registries.references, Registries.withDevices]
    rw [listed, zero_add, List.map_cons, ← Multiset.cons_coe, ← Multiset.singleton_add, add_assoc]

theorem strikeShader (orderly : world.Orderly) (found : world.registries = some all)
    {handle : Handle .shader} {entry : ShaderEntry}
    (stored : all.shaders.content.get? handle = some entry) :
    world.Rearranges (world.withRegistries (all.withShaders (all.shaders.content.erase handle)))
      0 {.shader entry.shader} := by
  have devices := orderly.devices_nodup found
  have values := (orderly.tidy all found).2.erase_values stored
  refine orderly.reregister found ⟨(orderly.tidy all found).1, (orderly.tidy all found).2.erase handle⟩
    devices ?_ (Multiset.nodup_singleton _) ?_
  · exact (List.nodup_cons.mp ((values.map ShaderEntry.shader).nodup_iff.mp
      (orderly.shaders_nodup found))).2
  · have listed := Multiset.coe_eq_coe.mpr (values.map fun entry => Held.shader entry.shader)
    simp only [Registries.references, Registries.withShaders]
    rw [listed, zero_add, List.map_cons, ← Multiset.cons_coe, ← Multiset.singleton_add]
    ac_rfl

theorem strikeOwned (orderly : world.Orderly) (found : world.registries = some all)
    (owner : Handle .device) (device : Device) :
    world.Rearranges
      (world.withRegistries (all.withShaders (all.shaders.content.eraseAll
        ((EntryPoint.ownedBy owner all.shaders.content).map Prod.fst))))
      {.device device}
      ((((EntryPoint.ownedBy owner all.shaders.content).map fun entry => entry.2.shader).map
        Held.shader : List Held) + {.device device}) := by
  have devices := orderly.devices_nodup found
  have entries := (orderly.tidy all found).2.eraseAll_entries fun entry => entry.2.owner == owner
  have values := entries.map fun entry => entry.2.shader
  have nodup := orderly.shaders_nodup found
  rw [Registry.values, List.map_map] at nodup
  have whole := values.nodup_iff.mp nodup
  rw [List.map_append] at whole
  obtain ⟨taken, left, _⟩ := List.nodup_append.mp whole
  refine orderly.reregister found ⟨(orderly.tidy all found).1, (orderly.tidy all found).2.eraseAll _⟩
    devices ?_ ?_ ?_
  · rw [Registry.values, List.map_map]
    exact left
  · refine Multiset.nodup_add.mpr ⟨?_, Multiset.nodup_singleton _, ?_⟩
    · exact taken.map fun _ _ same => by cases same; rfl
    · rw [Multiset.disjoint_singleton, Multiset.mem_coe, List.mem_map]
      rintro ⟨_, _, impossible⟩
      cases impossible
  · have listed := Multiset.coe_eq_coe.mpr (values.map Held.shader)
    simp only [Registries.references, Registries.withShaders, Registry.values, List.map_map]
    simp only [List.map_append, List.map_map, ← Multiset.coe_add] at listed
    change _ = _ + (_ + ((all.shaders.content.entries.map
      (Held.shader ∘ fun entry => entry.2.shader) : List Held) : Multiset Held))
    rw [listed]
    ac_rfl

theorem pending_nodup {devices : List Device} {entries : List ShaderEntry} (once : devices.Nodup)
    (distinct : (entries.map ShaderEntry.shader).Nodup) :
    ((entries.map fun entry => Held.shader entry.shader : Multiset Held) +
      (devices.map Held.device : Multiset Held)).Nodup := by
  refine Multiset.nodup_add.mpr ⟨?_, ?_, ?_⟩
  · have shaders := distinct.map fun (_ _ : Shader) (same : Held.shader _ = .shader _) =>
      Held.shader.inj same
    rwa [List.map_map] at shaders
  · exact once.map fun _ _ same => Held.device.inj same
  · rw [Multiset.coe_disjoint]
    intro object shader device
    obtain ⟨_, _, rfl⟩ := List.mem_map.mp shader
    obtain ⟨_, _, impossible⟩ := List.mem_map.mp device
    cases impossible

theorem empty (orderly : world.Orderly) (found : world.registries = some all) :
    world.Rearranges (world.withRegistries (EntryPoint.emptiedAll all)) 0
      (((EntryPoint.removed all.shaders).map (fun entry => Held.shader entry.shader) : List Held) +
        ((EntryPoint.removed all.devices).map Held.device : List Held)) := by
  have devices := orderly.devices_nodup found
  have shaders := orderly.shaders_nodup found
  rw [← EntryPoint.removed_append_emptied] at devices shaders
  rw [List.map_append] at shaders
  obtain ⟨devicesTaken, devicesLeft, _⟩ := List.nodup_append.mp devices
  obtain ⟨shadersTaken, shadersLeft, _⟩ := List.nodup_append.mp shaders
  refine orderly.reregister found ⟨EntryPoint.emptied_tidy (orderly.tidy all found).1,
    EntryPoint.emptied_tidy (orderly.tidy all found).2⟩ devicesLeft shadersLeft
    (pending_nodup devicesTaken shadersTaken) ?_
  rw [Registries.references, Registries.references, ← EntryPoint.removed_append_emptied all.devices,
    ← EntryPoint.removed_append_emptied all.shaders, List.map_append, List.map_append,
    ← Multiset.coe_add, ← Multiset.coe_add, EntryPoint.emptiedAll, zero_add]
  ac_rfl

theorem poison (orderly : world.Orderly) (once : pending.Nodup) (kind : ObjectKind) :
    world.Rearranges (EntryPoint.poison kind world).2 pending pending := by
  cases found : world.registries with
  | none =>
      have unchanged : (EntryPoint.poison kind world).2 = world := by
        simp only [EntryPoint.poison, EntryPoint.changeRegistries, Act.change, found, Option.map_none]
        rw [← found]
      rw [unchanged]
      exact ⟨rfl, rfl, rfl, orderly, once, rfl⟩
  | some all =>
      have ran : (EntryPoint.poison kind world).2 = world.withRegistries (all.poison kind) := by
        simp only [EntryPoint.poison, EntryPoint.changeRegistries, Act.change, found,
          Option.map_some, withRegistries]
        cases kind <;> rfl
      have devices := orderly.devices_nodup found
      have shaders := orderly.shaders_nodup found
      have tidy := orderly.tidy all found
      rw [ran]
      cases kind with
      | device => exact orderly.reregister found tidy devices shaders once rfl
      | shader => exact orderly.reregister found tidy devices shaders once rfl

theorem startUp (orderly : world.Orderly) :
    world.Rearranges (EntryPoint.startUp world).2 0 0 := by
  cases found : world.registries with
  | some all =>
      have ran : (EntryPoint.startUp world).2 = world := by
        simp only [EntryPoint.startUp, Act.change, found, Option.getD_some]
        rw [← found]
      rw [ran]
      exact ⟨rfl, rfl, rfl, orderly, Multiset.nodup_zero, rfl⟩
  | none =>
      have ran : (EntryPoint.startUp world).2 = world.withRegistries .empty := by
        simp only [EntryPoint.startUp, Act.change, found, Option.getD_none, withRegistries]
      rw [ran]
      refine ⟨rfl, rfl, rfl, ⟨orderly.named, ?_, .nil, .nil⟩, Multiset.nodup_zero, ?_⟩
      · rintro all ⟨rfl⟩
        exact ⟨Registry.tidy_empty, Registry.tidy_empty⟩
      · have devices : world.registeredDevices = [] := by rw [registeredDevices, found]
        have shaders : world.registeredShaders = [] := by rw [registeredShaders, found]
        rw [references_eq, references_eq world, devices, shaders]
        rfl

theorem setLogger (orderly : world.Orderly) (logger : Log.Logger) :
    world.Rearranges (EntryPoint.setLogger logger world).2 0 0 where
  allocators := rfl
  trace := rfl
  serials := rfl
  orderly := ⟨orderly.named, orderly.tidy, orderly.devices, orderly.shaders⟩
  once := Multiset.nodup_zero
  same := rfl

end Orderly

end World

end ShaderDriver
