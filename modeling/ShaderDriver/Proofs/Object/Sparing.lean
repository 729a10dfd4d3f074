import ShaderDriver.EntryPoint.Calls
import ShaderDriver.Proofs.Act.Frame

namespace ShaderDriver

open Memory Container Act

/-! What can be seen of actions that leave everything where it is: on the way to an object, and at the
end of any object but a shader. -/

namespace Event

/-- The shader that ends. -/
def endedShader? : Event → Option Nat
  | .ending .shader id => some id
  | _ => none

/-- The memory that an allocator has granted. -/
def granted? : Event → Option Allocation
  | .requested allocator size _ type true => some { allocator, size, type }
  | _ => none

/-- The memory that is given back. -/
def released? : Event → Option Allocation
  | .released allocator size type => some { allocator, size, type }
  | _ => none

/-- No shader ends. -/
def Sparing (event : Event) : Prop :=
  event.endedShader? = none

/-- No shader ends, and no memory is granted or given back. -/
def Barren (event : Event) : Prop :=
  event.endedShader? = none ∧ event.granted? = none ∧ event.released? = none

theorem Barren.sparing {event : Event} (barren : event.Barren) : event.Sparing :=
  barren.1

end Event

namespace World

variable {plain : Event → Prop}

/-- What is registered and held stays, and all that is seen is plain. -/
structure Stays (plain : Event → Prop) (world after : World) : Prop where
  registries : after.registries = world.registries
  held : after.held = world.held
  serials : world.nextSerial ≤ after.nextSerial
  trace : ∃ events, after.trace = world.trace ++ events ∧ ∀ event ∈ events, plain event

theorem Stays.refl (world : World) : world.Stays plain world where
  registries := rfl
  held := rfl
  serials := Nat.le_refl _
  trace := ⟨[], (List.append_nil _).symm, fun _ member => absurd member List.not_mem_nil⟩

theorem Stays.trans {first second third : World} (earlier : first.Stays plain second)
    (later : second.Stays plain third) : first.Stays plain third where
  registries := later.registries.trans earlier.registries
  held := later.held.trans earlier.held
  serials := Nat.le_trans earlier.serials later.serials
  trace := by
    obtain ⟨events, start, none⟩ := earlier.trace
    obtain ⟨more, finish, further⟩ := later.trace
    refine ⟨events ++ more, by rw [finish, start, List.append_assoc], fun event member => ?_⟩
    rcases List.mem_append.mp member with listed | listed
    · exact none event listed
    · exact further event listed

theorem Stays.event {event : Event} (seen : plain event) (world : World)
    (allocators : Cells Allocator) (logger : Log.Logger) :
    world.Stays plain { world with allocators, logger, trace := world.trace ++ [event] } where
  registries := rfl
  held := rfl
  serials := Nat.le_refl _
  trace := ⟨[event], rfl, fun _ member => List.mem_singleton.mp member ▸ seen⟩

theorem Stays.spared {event : Event} (seen : event.endedShader? = none) (world : World)
    (allocators : Cells Allocator) (logger : Log.Logger) :
    world.Stays Event.Sparing
      { world with allocators, logger, trace := world.trace ++ [event] } :=
  .event seen world allocators logger

theorem Stays.cells (world : World) (allocators : Cells Allocator) (compilers : Cells Compiler) :
    world.Stays plain { world with allocators, compilers } where
  registries := rfl
  held := rfl
  serials := Nat.le_refl _
  trace := ⟨[], (List.append_nil _).symm, fun _ member => absurd member List.not_mem_nil⟩

theorem Stays.weaken {other : Event → Prop} {world after : World} (stays : world.Stays plain after)
    (weaker : ∀ {event}, plain event → other event) : world.Stays other after where
  registries := stays.registries
  held := stays.held
  serials := stays.serials
  trace := by
    obtain ⟨events, trace, seen⟩ := stays.trace
    exact ⟨events, trace, fun event member => weaker (seen event member)⟩

end World

namespace Act

/-- Nothing moves, and only such events are seen. -/
def showing (plain : Event → Prop) : Frame where
  related := World.Stays plain
  refl := World.Stays.refl
  trans := World.Stays.trans

abbrev sparing : Frame := showing Event.Sparing

abbrev barren : Frame := showing Event.Barren

variable {α : Type}

theorem sparing_of_barren {act : Act α} (holds : barren.Holds act) : sparing.Holds act :=
  fun world => (holds world).weaken Event.Barren.sparing

theorem emit_barren {event : Event} (plain : event.Barren) : barren.Holds (emit event) :=
  fun world => .event plain world world.allocators world.logger

theorem freshSerial_barren : barren.Holds freshSerial :=
  fun world => { World.Stays.refl world with serials := Nat.le_succ _ }

theorem log_barren (record : Log.Record) : barren.Holds (log record) := by
  intro world
  unfold log
  rcases world.logger.receive record.severity with ⟨panics, next⟩
  exact .event ⟨rfl, rfl, rfl⟩ world world.allocators next

theorem note_barren (severity : Log.Severity) (source message : String) :
    barren.Holds (note severity source message) :=
  log_barren _

theorem failLogged_barren (error : Error) : barren.Holds (failLogged error : Act α) :=
  .bind (log_barren _) fun _ => .fail error

end Act

theorem AllocatorRef.request_sparing (allocator : AllocatorRef) (size alignment : Nat)
    (type : AllocType) : sparing.Holds (allocator.request size alignment type) := by
  intro world
  unfold request
  rcases (world.allocators allocator.serial).alloc size type with ⟨reply, next⟩
  cases reply with
  | fault => exact .cells world _ world.compilers
  | refused => exact .spared rfl world _ world.logger
  | granted => exact .spared rfl world _ world.logger

theorem Allocation.release_sparing (allocation : Allocation) :
    sparing.Holds allocation.release := by
  intro world
  unfold release
  rcases (world.allocators allocation.allocator.serial).free allocation.size allocation.type
    with ⟨inOrder, next⟩
  exact .spared rfl world _ world.logger

namespace Buffer

theorem release_sparing (buffer : Buffer) : sparing.Holds buffer.release :=
  buffer.allocation.release_sparing

theorem zeroed_sparing (allocator : AllocatorRef) (size : Nat) (type : AllocType) :
    sparing.Holds (zeroed allocator size type) := by
  refine .bind (allocator.request_sparing _ _ _) fun answer => ?_
  cases answer with
  | none => exact .pure none
  | some allocation =>
      refine .bind (.read World.heap) fun heap => ?_
      split
      · exact .pure _
      · exact .bind allocation.release_sparing fun _ => .pure none

theorem write_sparing (buffer : Buffer) (start : Nat) (bytes : List UInt8) :
    sparing.Holds (buffer.write start bytes) := by
  unfold write
  split
  · exact .pure _
  · exact .unwind

theorem copyOf_sparing (allocator : AllocatorRef) (bytes : List UInt8) (type : AllocType) :
    sparing.Holds (copyOf allocator bytes type) :=
  .bind ((zeroed_sparing allocator bytes.length type).orFail _) fun buffer =>
    (buffer.write_sparing 0 bytes).orRelease buffer.release_sparing

end Buffer

namespace Base

theorem release_sparing (base : Base) : sparing.Holds base.release := by
  unfold release
  split
  · exact base.allocation.release_sparing
  · next record _ => exact base.allocation.release_sparing.thenRelease record.release_sparing

theorem create_sparing (allocator : AllocatorRef) (debug : Bool) (kind : ObjectKind) (size : Nat)
    (info : Option (List UInt8)) : sparing.Holds (create allocator debug kind size info) := by
  refine .bind ((allocator.request_sparing _ _ _).orFail _) fun allocation => ?_
  cases info with
  | none => exact .pure _
  | some bytes =>
      cases debug with
      | false => exact .pure _
      | true =>
          exact .bind ((Buffer.copyOf_sparing allocator bytes .debug).orRelease
            allocation.release_sparing) fun _ => .pure _

end Base

theorem Program.destroy_sparing (program : Program) : sparing.Holds program.destroy :=
  .bind (fun world => .cells world world.allocators _) fun _ => sparing_of_barren (emit_barren ⟨rfl, rfl, rfl⟩)

theorem Payload.release_sparing (payload : Payload) : sparing.Holds payload.release := by
  cases payload with
  | kernel owned => exact owned.release_sparing
  | program owned => exact owned.destroy_sparing

theorem Ir.release_sparing (ir : Ir) : sparing.Holds ir.release :=
  ir.payload.release_sparing.thenRelease ir.container.release_sparing

theorem Device.teardown_sparing (device : Device) : sparing.Holds device.teardown :=
  .bind (sparing_of_barren (emit_barren ⟨rfl, rfl, rfl⟩)) fun _ => device.base.release_sparing

theorem Device.letGo_sparing (device : Device) : sparing.Holds device.letGo := by
  intro world
  unfold letGo
  split
  · exact .refl world
  · exact device.teardown_sparing world

theorem ScriptedCompiler.compile_barren (compiler : ScriptedCompiler) (self : CompilerRef)
    (request : Glsl.Request) : barren.Holds (compiler.compile self request) := by
  refine .bind (fun world => .cells world world.allocators _) fun _ => ?_
  split
  · exact .unwind
  · split
    · exact .pure none
    · exact .bind (fun world => .cells world world.allocators _) fun _ =>
        .bind (emit_barren ⟨rfl, rfl, rfl⟩) fun _ => .pure _

namespace FrontEnd

theorem change_barren (self : CompilerRef) (update : FrontEnd → FrontEnd) :
    barren.Holds (change self update) := by
  intro world
  unfold change Act.change
  cases found : world.compilers self.serial with
  | frontEnd state =>
      simp only [found]
      exact .cells world world.allocators _
  | scripted state =>
      simp only [found]
      exact .refl world

theorem usingParser_barren {α : Type} {act : Act α} (self : CompilerRef)
    (spares : barren.Holds act) : barren.Holds (usingParser self act) := by
  intro world
  have start := spares world
  unfold usingParser
  generalize act world = ran at start ⊢
  obtain ⟨exit, after⟩ := ran
  cases exit with
  | done value => exact start
  | failed error => exact start
  | unwound => exact start.trans (change_barren self _ after)

theorem recover_barren (self : CompilerRef) : barren.Holds (recover self) := by
  refine .bind (.read _) fun poisoned => ?_
  split
  · exact .bind (change_barren self _) fun _ => .bind (note_barren .warn _ _) fun _ =>
      change_barren self _
  · exact .pure _

theorem parse_barren (self : CompilerRef) (verdict : Verdict) :
    barren.Holds (parse self verdict) := by
  refine usingParser_barren self (.bind (recover_barren self) fun _ => ?_)
  cases verdict with
  | panics => exact .unwind
  | unparsed reason => exact .bind (change_barren self _) fun _ => note_barren .warn _ _
  | invalid reason => exact .pure _
  | accepted parsed => exact .pure _

theorem remarkFlags_barren (request : Glsl.Request) : barren.Holds (remarkFlags request) := by
  unfold remarkFlags
  split
  · exact note_barren .debug _ _
  · exact .pure ()

theorem conclude_barren (self : CompilerRef) (base : Base) (request : Glsl.Request)
    (verdict : Verdict) : barren.Holds (conclude self base request verdict) := by
  cases verdict with
  | panics => exact .pure none
  | unparsed reason => exact .pure none
  | invalid reason =>
      exact .bind (change_barren self _) fun _ => .bind (note_barren .warn _ _) fun _ => .pure none
  | accepted parsed =>
      exact .bind (change_barren self _) fun _ => .bind (change_barren self _) fun _ =>
        .bind (note_barren .debug _ _) fun _ => .bind (emit_barren ⟨rfl, rfl, rfl⟩) fun _ => .pure _

theorem compile_barren (self : CompilerRef) (base : Base) (request : Glsl.Request)
    (verdict : Verdict) : barren.Holds (compile self base request verdict) := by
  unfold compile
  split
  · exact .bind (remarkFlags_barren request) fun _ => .bind (parse_barren self verdict) fun _ =>
      conclude_barren self base request verdict
  · exact .bind (change_barren self _) fun _ => .bind (note_barren .warn _ _) fun _ => .pure none

end FrontEnd

theorem CompilerRef.createProgram_barren (compiler : CompilerRef) (base : Base)
    (request : Glsl.Request) (verdict : Verdict) :
    barren.Holds (compiler.createProgram base request verdict) := by
  refine .bind (emit_barren ⟨rfl, rfl, rfl⟩) fun _ => .bind (.read _) fun found => ?_
  cases found with
  | scripted state => exact state.compile_barren compiler request
  | frontEnd state => exact FrontEnd.compile_barren compiler base request verdict

namespace Source

theorem readBil_barren (code : List UInt8) : barren.Holds (readBil code) := by
  refine .bind (.ofExcept _) fun container => ?_
  split
  · exact .pure _
  · exact .bind (note_barren .warn _ _) fun _ => .pure _

theorem select_barren (device : Device) (info : CreateInfo) :
    barren.Holds (select device info) := by
  unfold select
  split
  · exact .bind (.ofExcept _) fun _ => .pure _
  · exact .bind (readBil_barren info.code) fun _ => .pure _

end Source

namespace Ir

theorem requestContainer_sparing (allocator : AllocatorRef) :
    sparing.Holds (requestContainer allocator) :=
  (allocator.request_sparing _ _ _).orFail _

theorem translate_sparing (allocator : AllocatorRef) (source : Bil.Module) :
    sparing.Holds (translate allocator source) :=
  .bind (requestContainer_sparing allocator) fun container =>
    .bind ((Buffer.copyOf_sparing allocator source.payload .internalShader).orRelease
      container.release_sparing) fun _ => .pure _

theorem requireProgram_sparing (compiler : CompilerRef) (base : Base) (request : Glsl.Request)
    (verdict : Verdict) : sparing.Holds (requireProgram compiler base request verdict) := by
  refine .bind (sparing_of_barren (compiler.createProgram_barren base request verdict)) fun answer => ?_
  cases answer with
  | some program => exact .pure _
  | none => exact .bind (sparing_of_barren (note_barren .warn _ _)) fun _ => .fail _

theorem compile_sparing (device : Device) (base : Base) (request : Glsl.Request)
    (verdict : Verdict) : sparing.Holds (compile device base request verdict) := by
  unfold compile
  split
  · exact .fail _
  · next compiler _ =>
      exact .bind (requestContainer_sparing device.allocator) fun container =>
        .bind ((requireProgram_sparing compiler base request verdict).orRelease
          container.release_sparing) fun _ => .pure _

theorem ofSource_sparing (device : Device) (base : Base) (source : Source) (verdict : Verdict) :
    sparing.Holds (ofSource device base source verdict) := by
  cases source with
  | bil container => exact translate_sparing device.allocator container
  | glsl request => exact compile_sparing device base request verdict

end Ir

namespace Shader

theorem source_barren (device : Device) (info : CreateInfo) :
    barren.Holds ((Source.select device info).onFailure (rejection info.code)) :=
  (Source.select_barren device info).onFailure fun _ => note_barren .warn _ _

theorem announce_barren (device : Device) (ir : Ir) (flags : UInt32) :
    barren.Holds (announce device ir flags) :=
  note_barren .debug _ _

theorem complete_sparing (device : Device) (base : Base) (info : CreateInfo) (verdict : Verdict) :
    sparing.Holds (complete device base info verdict) :=
  .bind (sparing_of_barren (source_barren device info)) fun source =>
    .bind (Ir.ofSource_sparing device base source verdict) fun ir =>
      .bind ((sparing_of_barren (announce_barren device ir info.flags)).orRelease ir.release_sparing) fun _ =>
        .bind (sparing_of_barren freshSerial_barren) fun _ => .pure _

theorem create_sparing (device : Device) (info : CreateInfo) (verdict : Verdict) :
    sparing.Holds (create device info verdict) :=
  .bind (Base.create_sparing _ _ _ _ _) fun base =>
    (complete_sparing device base info verdict).orRelease base.release_sparing

end Shader

namespace EntryPoint

theorem registries_barren : barren.Holds registries := by
  intro world
  unfold registries
  split
  · exact .refl world
  · exact failLogged_barren _ world

theorem unlocked_barren {α : Type} (kind : ObjectKind) (guarded : Guarded α) :
    barren.Holds (unlocked kind guarded) := by
  unfold unlocked
  split
  · exact failLogged_barren _
  · exact .pure _

theorem device_barren (handle : Handle .device) : barren.Holds (device handle) := by
  refine .bind registries_barren fun all => .bind (unlocked_barren .device all.devices) fun _ => ?_
  split
  · exact .pure _
  · exact failLogged_barren _

end EntryPoint

theorem Device.create_sparing (config : DeviceConfig) : sparing.Holds (create config) := by
  unfold create
  split
  · exact .fail _
  · exact .bind (Base.create_sparing _ _ _ _ _) fun base =>
      .bind (sparing_of_barren freshSerial_barren) fun _ => .pure _

end ShaderDriver
