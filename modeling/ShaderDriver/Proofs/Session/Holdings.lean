import Mathlib.Algebra.BigOperators.Group.Finset.Basic
import Mathlib.Data.Finset.Dedup
import ShaderDriver.Proofs.Object.Making
import ShaderDriver.Session.Step

namespace ShaderDriver

open Memory

/-! What all references to objects keep alive together. Several references can lead to one device
or shader; everything else has one owner. -/

namespace Held

def device? : Held → Option Device
  | .device shared => some shared
  | _ => none

def shader? : Held → Option Shader
  | .shader shared => some shared
  | _ => none

/-- What tells shared objects apart. -/
def tag? : Held → Option (ObjectKind × Nat)
  | .device shared => some (.device, shared.id)
  | .shader shared => some (.shader, shared.id)
  | _ => none

def isShared (object : Held) : Bool :=
  object.tag?.isSome

/-- No object that was made before can have the tag. -/
def Fresh (object : Held) (bound : Nat) : Prop :=
  ∀ kind id, object.tag? = some (kind, id) → bound ≤ id

theorem fresh_of_plain {object : Held} (plain : object.tag? = none) (bound : Nat) :
    object.Fresh bound := by
  intro kind id tagged
  rw [plain] at tagged
  cases tagged

/-- What ends with its one owner. -/
def owned : Held → Multiset Asset
  | .buffer own => own.assets
  | .base own => own.assets
  | .ir own => own.assets
  | .program own => own.assets
  | _ => 0

def assets : Held → Multiset Asset
  | .device shared => shared.assets
  | .shader shared => shared.assets
  | object => object.owned

end Held

variable {counted : Multiset Held}

def devicesIn (counted : Multiset Held) : Finset Device :=
  (counted.filterMap Held.device?).toFinset

def shadersIn (counted : Multiset Held) : Finset Shader :=
  (counted.filterMap Held.shader?).toFinset

/-- A shared object counts once, however many references there are to it. -/
def assetsIn (counted : Multiset Held) : Multiset Asset :=
  ∑ device ∈ devicesIn counted, device.assets + ∑ shader ∈ shadersIn counted, shader.assets +
    (counted.map Held.owned).sum

@[simp] theorem mem_devicesIn {device : Device} :
    device ∈ devicesIn counted ↔ .device device ∈ counted := by
  rw [devicesIn, Multiset.mem_toFinset, Multiset.mem_filterMap]
  constructor
  · rintro ⟨object, member, found⟩
    cases object <;> cases found
    exact member
  · exact fun member => ⟨_, member, rfl⟩

@[simp] theorem mem_shadersIn {shader : Shader} :
    shader ∈ shadersIn counted ↔ .shader shader ∈ counted := by
  rw [shadersIn, Multiset.mem_toFinset, Multiset.mem_filterMap]
  constructor
  · rintro ⟨object, member, found⟩
    cases object <;> cases found
    exact member
  · exact fun member => ⟨_, member, rfl⟩

/-- One more reference to an object that there is a reference to already adds nothing. -/
theorem assetsIn_again {object : Held} (shared : object.isShared = true) (member : object ∈ counted) :
    assetsIn (object ::ₘ counted) = assetsIn counted := by
  have devices : devicesIn (object ::ₘ counted) = devicesIn counted := by
    ext device
    simp only [mem_devicesIn, Multiset.mem_cons, or_iff_right_iff_imp]
    exact fun same => same ▸ member
  have shaders : shadersIn (object ::ₘ counted) = shadersIn counted := by
    ext shader
    simp only [mem_shadersIn, Multiset.mem_cons, or_iff_right_iff_imp]
    exact fun same => same ▸ member
  have nothing : object.owned = 0 := by
    cases object <;> first | rfl | cases shared
  rw [assetsIn, devices, shaders, Multiset.map_cons, Multiset.sum_cons, nothing, zero_add]
  rfl

theorem devicesIn_cons_other {object : Held} (other : object.device? = none) :
    devicesIn (object ::ₘ counted) = devicesIn counted := by
  rw [devicesIn, Multiset.filterMap_cons_none _ _ other]
  rfl

theorem shadersIn_cons_other {object : Held} (other : object.shader? = none) :
    shadersIn (object ::ₘ counted) = shadersIn counted := by
  rw [shadersIn, Multiset.filterMap_cons_none _ _ other]
  rfl

theorem assetsIn_first {object : Held} (absent : object.isShared = true → object ∉ counted) :
    assetsIn (object ::ₘ counted) = object.assets + assetsIn counted := by
  have owner (single : object.isShared = false) :
      assetsIn (object ::ₘ counted) = object.owned + assetsIn counted := by
    have device : object.device? = none := by cases object <;> first | rfl | cases single
    have shader : object.shader? = none := by cases object <;> first | rfl | cases single
    rw [assetsIn, devicesIn_cons_other device, shadersIn_cons_other shader, Multiset.map_cons,
      Multiset.sum_cons, assetsIn]
    ac_rfl
  cases object with
  | device device =>
      have fresh : device ∉ devicesIn counted := by
        rw [mem_devicesIn]
        exact absent rfl
      have devices : devicesIn (.device device ::ₘ counted) = insert device (devicesIn counted) := by
        ext other
        simp
      rw [assetsIn, devices, shadersIn_cons_other rfl, Finset.sum_insert fresh, Multiset.map_cons,
        Multiset.sum_cons, assetsIn]
      change _ + _ + _ + (0 + _) = device.assets + _
      rw [zero_add]
      ac_rfl
  | shader shader =>
      have fresh : shader ∉ shadersIn counted := by
        rw [mem_shadersIn]
        exact absent rfl
      have shaders : shadersIn (.shader shader ::ₘ counted) = insert shader (shadersIn counted) := by
        ext other
        simp
      rw [assetsIn, shaders, devicesIn_cons_other rfl, Finset.sum_insert fresh, Multiset.map_cons,
        Multiset.sum_cons, assetsIn]
      change _ + (_ + _) + (0 + _) = shader.assets + _
      rw [zero_add]
      ac_rfl
  | allocator _ => exact owner rfl
  | compiler _ => exact owner rfl
  | buffer _ => exact owner rfl
  | base _ => exact owner rfl
  | ir _ => exact owner rfl
  | program _ => exact owner rfl

theorem assetsIn_owner {object : Held} (single : object.isShared = false) :
    assetsIn (object ::ₘ counted) = object.assets + assetsIn counted :=
  assetsIn_first fun shared => absurd shared (by simp [single])

/-- What the account of a device's allocator lists for it. -/
def Device.demands (_ : Device) : Multiset (Nat × AllocType) :=
  {(Device.footprint, .apiObject)}

namespace Shader

/-- The allocator that all of a shader's memory is from. -/
def allocator (shader : Shader) : AllocatorRef :=
  shader.base.allocation.allocator

/-- What the account of a shader's allocator lists for it. -/
def demands (shader : Shader) : Multiset (Nat × AllocType) :=
  {(footprint, .apiObject)} + {(Ir.footprint, .internalShader)} +
    (match shader.ir.kernel? with
      | some kernel => {(kernel.data.length, .internalShader)}
      | none => 0) +
    (match shader.base.recordedInfo with
      | some info => {(info.length, .debug)}
      | none => 0)

theorem MadeFrom.allocator {shader : Shader} {device : Device} {info : CreateInfo}
    (made : shader.MadeFrom device info) : shader.allocator = device.allocator := by
  rw [Shader.allocator, made.base]
  rfl

theorem MadeFrom.base_memory {shader : Shader} {device : Device} {info : CreateInfo}
    (made : shader.MadeFrom device info) (serial : Nat) :
    memoryAt serial shader.base.assets = if device.allocator.serial = serial then
      {(footprint, .apiObject)} + (match shader.base.recordedInfo with
        | some info => {(info.length, .debug)}
        | none => 0) else 0 := by
  rw [made.base, Base.assets, ← Multiset.singleton_add, memoryAt_add, memoryAt_memory]
  cases device.debug with
  | false => simp [Base.made, Base.recordedInfo]
  | true =>
      change _ + memoryAt serial {.memory { allocator := device.allocator, size := info.code.length, type := .debug }} = _
      rw [memoryAt_memory]
      by_cases own : device.allocator.serial = serial
      · simp [Base.made, Base.recordedInfo, Buffer.holding, own]
      · simp [Base.made, own]

theorem MadeFrom.form_memory {shader : Shader} {device : Device} {info : CreateInfo}
    (made : shader.MadeFrom device info) (serial : Nat) :
    memoryAt serial shader.ir.assets = if device.allocator.serial = serial then
      {(Ir.footprint, .internalShader)} + (match shader.ir.kernel? with
        | some kernel => {(kernel.data.length, .internalShader)}
        | none => 0) else 0 := by
  obtain ⟨source, _, formed⟩ := made.form
  rw [Ir.assets, Multiset.insert_eq_cons, ← Multiset.singleton_add, memoryAt_add]
  cases source with
  | bil container =>
      rw [show shader.ir = _ from formed]
      simp only [Payload.asset, memoryAt_memory, Ir.room, Buffer.holding, Ir.kernel?]
      split
      · rw [add_comm]
      · rfl
  | glsl request =>
      obtain ⟨program, form⟩ := formed
      rw [form]
      simp [Payload.asset, Ir.room, Ir.kernel?]

theorem MadeFrom.memory {shader : Shader} {device : Device} {info : CreateInfo}
    (made : shader.MadeFrom device info) (serial : Nat) :
    memoryAt serial shader.assets = if shader.allocator.serial = serial then shader.demands else 0 := by
  rw [made.allocator, assets, memoryAt_add, made.base_memory, made.form_memory, demands]
  split
  · ac_rfl
  · rfl

end Shader

/-- What the account of a device's allocator lists for the code of a shader. -/
def Source.demands : Source → Multiset (Nat × AllocType)
  | .bil container => {(container.payload.length, .internalShader)}
  | .glsl _ => 0

theorem Shader.MadeFrom.demands {shader : Shader} {device : Device} {info : CreateInfo}
    (made : shader.MadeFrom device info) :
    ∃ source, Source.Of device info source ∧ shader.demands =
      {(footprint, .apiObject)} + {(Ir.footprint, .internalShader)} + source.demands +
        (if device.debug then {(info.code.length, .debug)} else 0) := by
  obtain ⟨source, asked, formed⟩ := made.form
  refine ⟨source, asked, ?_⟩
  rw [Shader.demands]
  congr 1
  · congr 1
    cases source with
    | bil container =>
        rw [show shader.ir = _ from formed]
        rfl
    | glsl request =>
        obtain ⟨program, form⟩ := formed
        rw [form]
        rfl
  · rw [made.base]
    cases device.debug <;> rfl

theorem Device.MadeFrom.memory {device : Device} {config : DeviceConfig}
    (made : device.MadeFrom config) (serial : Nat) :
    memoryAt serial device.assets = if device.allocator.serial = serial then device.demands else 0 := by
  have record : (Base.made config.allocator config.debug .device footprint none).record = none := by
    simp [Base.made]
  rw [made.allocator, assets, made.base, Base.assets, record]
  exact memoryAt_memory serial _

theorem Base.memory_elsewhere {base : Base} {allocator : AllocatorRef} {serial : Nat}
    (within : base.In allocator) (other : allocator.serial ≠ serial) :
    memoryAt serial base.assets = 0 := by
  rw [Base.assets, ← Multiset.singleton_add, memoryAt_add, memoryAt_memory, within.1, if_neg other,
    zero_add]
  cases recorded : base.record with
  | none => rfl
  | some record =>
      have elsewhere := within.2 record recorded
      change memoryAt serial {.memory record.allocation} = 0
      rw [memoryAt_memory, elsewhere, if_neg other]

theorem Ir.memory_elsewhere {ir : Ir} {allocator : AllocatorRef} {serial : Nat}
    (within : ir.In allocator) (other : allocator.serial ≠ serial) :
    memoryAt serial ir.assets = 0 := by
  rw [Ir.assets, Multiset.insert_eq_cons, ← Multiset.singleton_add, memoryAt_add, memoryAt_memory,
    within.1, if_neg other, add_zero]
  have kernel := within.2
  unfold Ir.kernel? at kernel
  cases form : ir.payload with
  | program made => rfl
  | kernel owned =>
      rw [form] at kernel
      change memoryAt serial {.memory owned.allocation} = 0
      rw [memoryAt_memory, kernel owned rfl, if_neg other]

namespace Held

/-- Shared objects are as they were made, and no other object has memory of the allocator that is
watched. Serial numbers in use stay below a bound. -/
def Fits (serial bound : Nat) : Held → Prop
  | .allocator known => known.serial < bound
  | .compiler _ => True
  | .buffer own => own.allocation.allocator.serial ≠ serial
  | .base own => ∃ allocator, own.In allocator ∧ allocator.serial ≠ serial
  | .ir own => ∃ allocator, own.In allocator ∧ allocator.serial ≠ serial
  | .program _ => True
  | .device shared => (∃ config, shared.MadeFrom config) ∧ shared.allocator.serial < bound ∧
      shared.id < bound
  | .shader shared => (∃ device info, shared.MadeFrom device info) ∧
      shared.allocator.serial < bound ∧ shared.id < bound

variable {serial bound : Nat} {object : Held}

theorem Fits.later {beyond : Nat} (fits : object.Fits serial bound) (more : bound ≤ beyond) :
    object.Fits serial beyond := by
  cases object with
  | allocator known => exact Nat.lt_of_lt_of_le fits more
  | compiler _ => trivial
  | buffer _ => exact fits
  | base _ => exact fits
  | ir _ => exact fits
  | program _ => trivial
  | device shared =>
      exact ⟨fits.1, Nat.lt_of_lt_of_le fits.2.1 more, Nat.lt_of_lt_of_le fits.2.2 more⟩
  | shader shared =>
      exact ⟨fits.1, Nat.lt_of_lt_of_le fits.2.1 more, Nat.lt_of_lt_of_le fits.2.2 more⟩

theorem Fits.owned_memory (fits : object.Fits serial bound) : memoryAt serial object.owned = 0 := by
  cases object with
  | buffer own =>
      change memoryAt serial {.memory own.allocation} = 0
      rw [memoryAt_memory, if_neg fits]
  | base own =>
      obtain ⟨allocator, within, other⟩ := fits
      exact own.memory_elsewhere within other
  | ir own =>
      obtain ⟨allocator, within, other⟩ := fits
      exact own.memory_elsewhere within other
  | program _ => rfl
  | allocator _ => rfl
  | compiler _ => rfl
  | device _ => rfl
  | shader _ => rfl

end Held

theorem memoryAt_sum {ι : Type} (serial : Nat) (items : Finset ι) (assets : ι → Multiset Asset) :
    memoryAt serial (∑ item ∈ items, assets item) = ∑ item ∈ items, memoryAt serial (assets item) :=
  map_sum (⟨⟨memoryAt serial, rfl⟩, memoryAt_add serial⟩ :
    Multiset Asset →+ Multiset (Nat × AllocType)) assets items

theorem memoryAt_owned {serial bound : Nat} (fits : ∀ object ∈ counted, object.Fits serial bound) :
    memoryAt serial (counted.map Held.owned).sum = 0 := by
  induction counted using Multiset.induction_on with
  | empty => rfl
  | cons object rest ih =>
      rw [Multiset.map_cons, Multiset.sum_cons, memoryAt_add,
        (fits object (Multiset.mem_cons_self _ _)).owned_memory, zero_add]
      exact ih fun other member => fits other (Multiset.mem_cons_of_mem member)

/-- What the account of an allocator lists for devices and shaders. -/
def demandsAt (serial : Nat) (devices : Finset Device) (shaders : Finset Shader) :
    Multiset (Nat × AllocType) :=
  ∑ device ∈ devices with device.allocator.serial = serial, device.demands +
    ∑ shader ∈ shaders with shader.allocator.serial = serial, shader.demands

theorem memoryAt_assetsIn {serial bound : Nat} (fits : ∀ object ∈ counted, object.Fits serial bound) :
    memoryAt serial (assetsIn counted) =
      demandsAt serial (devicesIn counted) (shadersIn counted) := by
  rw [assetsIn, memoryAt_add, memoryAt_add, memoryAt_owned fits, add_zero, memoryAt_sum,
    memoryAt_sum, demandsAt, Finset.sum_filter, Finset.sum_filter]
  congr 1
  · refine Finset.sum_congr rfl fun device member => ?_
    obtain ⟨⟨config, made⟩, _⟩ := fits _ (mem_devicesIn.mp member)
    exact made.memory serial
  · refine Finset.sum_congr rfl fun shader member => ?_
    obtain ⟨⟨device, info, made⟩, _⟩ := fits _ (mem_shadersIn.mp member)
    exact made.memory serial

theorem memoryAt_unused {serial : Nat} (fits : ∀ object ∈ counted, object.Fits serial serial) :
    memoryAt serial (assetsIn counted) = 0 := by
  have devices : ∀ device ∈ devicesIn counted, ¬ device.allocator.serial = serial := by
    intro device member
    have bound := (fits _ (mem_devicesIn.mp member)).2.1
    omega
  have shaders : ∀ shader ∈ shadersIn counted, ¬ shader.allocator.serial = serial := by
    intro shader member
    have bound := (fits _ (mem_shadersIn.mp member)).2.1
    omega
  rw [memoryAt_assetsIn fits, demandsAt, Finset.filter_false_of_mem devices,
    Finset.filter_false_of_mem shaders, Finset.sum_empty, Finset.sum_empty, add_zero]

namespace World

variable {world : World}

/-- All references that are registered or held. -/
def references (world : World) : Multiset Held :=
  (world.registeredDevices.map .device ++ world.registeredShaders.map .shader ++
    world.held.map Prod.snd : List Held)

theorem mem_heldDevices {device : Device} :
    device ∈ world.heldDevices ↔ .device device ∈ world.held.map Prod.snd := by
  simp only [heldDevices, List.mem_filterMap, List.mem_map]
  constructor
  · rintro ⟨⟨name, object⟩, member, found⟩
    cases object <;> cases found
    exact ⟨_, member, rfl⟩
  · rintro ⟨⟨name, _⟩, member, rfl⟩
    exact ⟨_, member, rfl⟩

theorem mem_heldShaders {shader : Shader} :
    shader ∈ world.heldShaders ↔ .shader shader ∈ world.held.map Prod.snd := by
  simp only [heldShaders, List.mem_filterMap, List.mem_map]
  constructor
  · rintro ⟨⟨name, object⟩, member, found⟩
    cases object <;> cases found
    exact ⟨_, member, rfl⟩
  · rintro ⟨⟨name, _⟩, member, rfl⟩
    exact ⟨_, member, rfl⟩

theorem mem_devices {device : Device} :
    device ∈ world.registeredDevices ++ world.heldDevices ↔ .device device ∈ world.references := by
  rw [List.mem_append, mem_heldDevices, references]
  simp

theorem mem_shaders {shader : Shader} :
    shader ∈ world.registeredShaders ++ world.heldShaders ↔ .shader shader ∈ world.references := by
  rw [List.mem_append, mem_heldShaders, references]
  simp

/-- The devices that are alive. -/
def liveDevices (world : World) : Finset Device :=
  (world.registeredDevices ++ world.heldDevices).toFinset

def liveShaders (world : World) : Finset Shader :=
  (world.registeredShaders ++ world.heldShaders).toFinset

theorem devicesIn_references (world : World) : devicesIn world.references = world.liveDevices := by
  ext device
  rw [mem_devicesIn, liveDevices, List.mem_toFinset, mem_devices]

theorem shadersIn_references (world : World) : shadersIn world.references = world.liveShaders := by
  ext shader
  rw [mem_shadersIn, liveShaders, List.mem_toFinset, mem_shaders]

end World

end ShaderDriver
