import ShaderDriver.Proofs.Object.Ownership

namespace ShaderDriver

open Memory Container Act

/-! What the objects are that come out of a creation: their parts, and the memory in them. -/

variable {world after : World}

namespace Buffer

/-- A buffer that holds some bytes and no more. -/
def holding (allocator : AllocatorRef) (bytes : List UInt8) (type : AllocType) : Buffer :=
  { data := bytes, allocation := { allocator, size := bytes.length, type } }

theorem zeroed_eq_done {allocator : AllocatorRef} {size : Nat} {type : AllocType} {buffer : Buffer}
    (done : zeroed allocator size type world = (.done (some buffer), after)) :
    buffer = { data := List.replicate size 0, allocation := { allocator, size, type } } := by
  obtain ⟨answer, middle, answered, done⟩ := bind_eq_done.mp done
  cases answer with
  | none => cases done
  | some allocation =>
      obtain rfl := AllocatorRef.request_eq_done answered
      obtain ⟨heap, _, same, done⟩ := bind_eq_done.mp done
      cases same
      split at done
      · cases done
        rfl
      · obtain ⟨_, _, _, done⟩ := bind_eq_done.mp done
        cases done

theorem copyOf_eq_done {allocator : AllocatorRef} {bytes : List UInt8} {type : AllocType}
    {buffer : Buffer} (done : copyOf allocator bytes type world = (.done buffer, after)) :
    buffer = holding allocator bytes type := by
  obtain ⟨zeros, middle, found, done⟩ := bind_eq_done.mp done
  obtain rfl := zeroed_eq_done (orFail_eq_done.mp found)
  obtain ⟨_, _, rfl⟩ := write_eq_done.mp (orRelease_eq_done.mp done)
  simp [holding]

end Buffer

namespace Base

/-- All the memory of the base is that of one allocator. -/
def In (base : Base) (allocator : AllocatorRef) : Prop :=
  base.allocation.allocator = allocator ∧
    ∀ record, base.record = some record → record.allocation.allocator = allocator

/-- A base as it is when it is created. -/
def made (allocator : AllocatorRef) (debug : Bool) (kind : ObjectKind) (size : Nat)
    (info : Option (List UInt8)) : Base :=
  { kind
    allocation := { allocator, size, type := .apiObject }
    record := if debug then info.map fun bytes => .holding allocator bytes .debug else none }

theorem create_eq_done {allocator : AllocatorRef} {debug : Bool} {kind : ObjectKind} {size : Nat}
    {info : Option (List UInt8)} {base : Base}
    (done : create allocator debug kind size info world = (.done base, after)) :
    base = made allocator debug kind size info := by
  obtain ⟨allocation, middle, found, done⟩ := bind_eq_done.mp done
  obtain rfl := AllocatorRef.request_eq_done (orFail_eq_done.mp found)
  cases info with
  | none =>
      cases done
      simp [made]
  | some bytes =>
      cases debug with
      | false =>
          cases done
          rfl
      | true =>
          obtain ⟨record, last, copied, done⟩ := bind_eq_done.mp done
          obtain rfl := Buffer.copyOf_eq_done (orRelease_eq_done.mp copied)
          cases done
          rfl

theorem made_in (allocator : AllocatorRef) (debug : Bool) (kind : ObjectKind) (size : Nat)
    (info : Option (List UInt8)) : (made allocator debug kind size info).In allocator := by
  refine ⟨rfl, fun record found => ?_⟩
  cases debug with
  | false => cases found
  | true =>
      obtain ⟨bytes, _, rfl⟩ := Option.map_eq_some_iff.mp found
      rfl

end Base

namespace Ir

def In (ir : Ir) (allocator : AllocatorRef) : Prop :=
  ir.container.allocator = allocator ∧
    ∀ kernel, ir.kernel? = some kernel → kernel.allocation.allocator = allocator

/-- The container of a form, as it is when it is granted. -/
def room (allocator : AllocatorRef) : Allocation :=
  { allocator, size := footprint, type := .internalShader }

theorem translate_eq_done {allocator : AllocatorRef} {source : Bil.Module} {ir : Ir}
    (done : translate allocator source world = (.done ir, after)) :
    ir =
      { payload := .kernel (.holding allocator source.payload .internalShader)
        size := source.payload.length
        container := room allocator } := by
  obtain ⟨container, middle, found, done⟩ := bind_eq_done.mp done
  obtain rfl := AllocatorRef.request_eq_done (orFail_eq_done.mp found)
  obtain ⟨kernel, last, copied, done⟩ := bind_eq_done.mp done
  obtain rfl := Buffer.copyOf_eq_done (orRelease_eq_done.mp copied)
  cases done
  rfl

theorem compile_eq_done {device : Device} {base : Base} {request : Glsl.Request}
    {verdict : Verdict} {ir : Ir}
    (done : compile device base request verdict world = (.done ir, after)) :
    ∃ program, ir =
      { payload := .program program, size := request.codeSize, container := room device.allocator } := by
  unfold compile at done
  cases compiler : device.compiler with
  | none =>
      rw [compiler] at done
      cases done
  | some compiler =>
      rw [compiler] at done
      obtain ⟨container, middle, found, done⟩ := bind_eq_done.mp done
      obtain rfl := AllocatorRef.request_eq_done (orFail_eq_done.mp found)
      obtain ⟨program, last, required, done⟩ := bind_eq_done.mp done
      cases done
      exact ⟨program, rfl⟩

end Ir

namespace Source

/-- Where the form of a shader comes from, for the code of a create info. -/
def Of (device : Device) (info : CreateInfo) : Source → Prop
  | .glsl request => (device.has .compileGlsl = true ∧ info.type = .compileRequest) ∧
      Glsl.Request.decode info.code = .ok request
  | .bil container => ¬(device.has .compileGlsl = true ∧ info.type = .compileRequest) ∧
      Bil.Module.decode info.code = .ok container

theorem readBil_eq_done {code : List UInt8} {container : Bil.Module}
    (done : readBil code world = (.done container, after)) :
    Bil.Module.decode code = .ok container := by
  obtain ⟨found, middle, decoded, done⟩ := bind_eq_done.mp done
  have accepted := (ofExcept_eq_done.mp decoded).1
  split at done
  · cases done
    exact accepted
  · obtain ⟨_, _, _, done⟩ := bind_eq_done.mp done
    cases done
    exact accepted

theorem select_eq_done {device : Device} {info : CreateInfo} {source : Source}
    (done : select device info world = (.done source, after)) : Of device info source := by
  unfold select at done
  split at done
  · next asked =>
      obtain ⟨request, middle, decoded, done⟩ := bind_eq_done.mp done
      cases done
      exact ⟨asked, (ofExcept_eq_done.mp decoded).1⟩
  · next other =>
      obtain ⟨container, middle, read, done⟩ := bind_eq_done.mp done
      cases done
      exact ⟨other, readBil_eq_done read⟩

end Source

namespace Ir

/-- The form that a source leads to. -/
def FromSource (ir : Ir) (allocator : AllocatorRef) : Source → Prop
  | .bil container => ir =
      { payload := .kernel (.holding allocator container.payload .internalShader)
        size := container.payload.length
        container := room allocator }
  | .glsl request => ∃ program,
      ir = { payload := .program program, size := request.codeSize, container := room allocator }

theorem ofSource_eq_done {device : Device} {base : Base} {source : Source} {verdict : Verdict}
    {ir : Ir} (done : ofSource device base source verdict world = (.done ir, after)) :
    ir.FromSource device.allocator source := by
  cases source with
  | bil container => exact translate_eq_done done
  | glsl request => exact compile_eq_done done

theorem FromSource.in {ir : Ir} {allocator : AllocatorRef} {source : Source}
    (formed : ir.FromSource allocator source) : ir.In allocator := by
  cases source with
  | bil container =>
      obtain rfl := formed
      refine ⟨rfl, fun kernel found => ?_⟩
      cases found
      rfl
  | glsl request =>
      obtain ⟨program, rfl⟩ := formed
      exact ⟨rfl, fun _ impossible => nomatch impossible⟩

end Ir

namespace Shader

/-- A shader is what the device and the create info ask for. -/
structure MadeFrom (shader : Shader) (device : Device) (info : CreateInfo) : Prop where
  maker : shader.maker = device.id
  flags : shader.flags = info.flags
  base : shader.base = .made device.allocator device.debug .shader footprint (some info.code)
  form : ∃ source, Source.Of device info source ∧ shader.ir.FromSource device.allocator source

theorem complete_eq_done {device : Device} {base : Base} {info : CreateInfo} {verdict : Verdict}
    {shader : Shader} (done : complete device base info verdict world = (.done shader, after)) :
    (∃ source, Source.Of device info source ∧ shader.ir.FromSource device.allocator source) ∧
      shader.maker = device.id ∧ shader.flags = info.flags ∧
      world.nextSerial ≤ shader.id ∧ shader.id < after.nextSerial := by
  obtain ⟨source, afterSource, selected, done⟩ := bind_eq_done.mp done
  obtain ⟨ir, afterForm, formed, done⟩ := bind_eq_done.mp done
  obtain ⟨_, afterEntry, announced, done⟩ := bind_eq_done.mp done
  have first := (source_moves device info).retained selected
  have second := (Ir.ofSource_moves device base source verdict).retained formed
  have third := (announce_moves device ir info.flags).retained announced
  have serials := ((first.trans second).trans third).serials
  cases done
  refine ⟨⟨source, ?_, Ir.ofSource_eq_done formed⟩, rfl, rfl, serials, Nat.lt_succ_self _⟩
  exact Source.select_eq_done (onFailure_eq_done.mp selected)

theorem create_eq_done {device : Device} {info : CreateInfo} {verdict : Verdict} {shader : Shader}
    (done : create device info verdict world = (.done shader, after)) :
    shader.MadeFrom device info ∧ world.nextSerial ≤ shader.id ∧ shader.id < after.nextSerial := by
  obtain ⟨base, middle, based, done⟩ := bind_eq_done.mp done
  have finished := orRelease_eq_done.mp done
  obtain ⟨form, maker, flags, fresh, counted⟩ := complete_eq_done finished
  have earlier := ((Base.create_moves _ _ _ _ _).retained based).serials
  refine ⟨⟨maker, flags, ?_, form⟩, Nat.le_trans earlier fresh, counted⟩
  rw [complete_base finished]
  exact Base.create_eq_done based

end Shader

namespace Device

/-- A device is what its configuration asks for. -/
structure MadeFrom (device : Device) (config : DeviceConfig) : Prop where
  base : device.base = .made config.allocator config.debug .device footprint none
  gpuName : device.gpuName = config.gpuName
  extensions : device.extensions = config.extensions
  debug : device.debug = config.debug
  allocator : device.allocator = config.allocator
  compiler : device.compiler = config.compiler

theorem create_eq_done {config : DeviceConfig} {device : Device}
    (done : create config world = (.done device, after)) :
    device.MadeFrom config ∧ world.nextSerial ≤ device.id ∧ device.id < after.nextSerial := by
  unfold create at done
  split at done
  · cases done
  · obtain ⟨base, middle, based, done⟩ := bind_eq_done.mp done
    have earlier := ((Base.create_moves _ _ _ _ _).retained based).serials
    cases done
    exact ⟨⟨Base.create_eq_done based, rfl, rfl, rfl, rfl, rfl⟩, earlier, Nat.lt_succ_self _⟩

end Device

end ShaderDriver
