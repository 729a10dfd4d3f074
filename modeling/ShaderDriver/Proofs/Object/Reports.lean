import ShaderDriver.Object.Creation
import ShaderDriver.Proofs.Act.Reports

namespace ShaderDriver

open Memory Container Act

/-! Objects tell the log nothing as an error: neither when they end nor when one does not come about,
which is a matter of the memory and of the code that there is for it. -/

variable {told : Error → Bool}

/-! Objects at their end. -/

theorem Allocation.release_discreet (allocation : Allocation) :
    discreet.Holds allocation.release :=
  fun _ => ⟨[_], rfl, rfl⟩

theorem Buffer.release_discreet (buffer : Buffer) : discreet.Holds buffer.release :=
  buffer.allocation.release_discreet

theorem Base.release_discreet (base : Base) : discreet.Holds base.release := by
  unfold release
  split
  · exact base.allocation.release_discreet
  · next record _ => exact base.allocation.release_discreet.thenRelease record.release_discreet

theorem Program.destroy_discreet (program : Program) : discreet.Holds program.destroy :=
  .bind (change_discreet fun _ => rfl) fun _ => emit_discreet rfl

theorem Payload.release_discreet (payload : Payload) : discreet.Holds payload.release := by
  cases payload with
  | kernel owned => exact owned.release_discreet
  | program owned => exact owned.destroy_discreet

theorem Ir.release_discreet (ir : Ir) : discreet.Holds ir.release :=
  ir.payload.release_discreet.thenRelease ir.container.release_discreet

namespace Shader

theorem teardown_discreet (shader : Shader) : discreet.Holds shader.teardown := by
  have parting : discreet.Holds (Act.log shader.farewell) := log_discreet nofun
  exact .bind (emit_discreet rfl) fun _ => parting.thenRelease
    (shader.ir.release_discreet.thenRelease shader.base.release_discreet)

theorem letGo_discreet (shader : Shader) : discreet.Holds shader.letGo := by
  intro world
  unfold letGo
  split
  · exact discreet.refl world
  · exact shader.teardown_discreet world

end Shader

namespace Device

theorem teardown_discreet (device : Device) : discreet.Holds device.teardown :=
  .bind (emit_discreet rfl) fun _ => device.base.release_discreet

theorem letGo_discreet (device : Device) : discreet.Holds device.letGo := by
  intro world
  unfold letGo
  split
  · exact discreet.refl world
  · exact device.teardown_discreet world

end Device

/-! Memory and compilers, which fail with no error of their own. -/

theorem AllocatorRef.request_reports (allocator : AllocatorRef) (size alignment : Nat)
    (type : AllocType) : Reports told (allocator.request size alignment type) := by
  intro world
  unfold request
  rcases (world.allocators allocator.serial).alloc size type with ⟨reply, next⟩
  cases reply with
  | fault => exact ⟨[], (List.append_nil _).symm, trivial⟩
  | refused => exact ⟨[_], rfl, rfl⟩
  | granted => exact ⟨[_], rfl, rfl⟩

theorem Allocation.release_reports (allocation : Allocation) :
    Reports told allocation.release := by
  refine .of_discreet allocation.release_discreet fun world error => ?_
  unfold release
  rcases (world.allocators allocation.allocator.serial).free _ _ with ⟨inOrder, next⟩
  cases inOrder <;> nofun

theorem Buffer.zeroed_reports (allocator : AllocatorRef) (size : Nat) (type : AllocType) :
    Reports told (zeroed allocator size type) := by
  refine (allocator.request_reports _ _ _).bind fun answer => ?_
  cases answer with
  | none => exact .pure none
  | some allocation =>
      refine .bind (.read World.heap) fun heap => ?_
      split
      · exact .pure _
      · exact allocation.release_reports.bind fun _ => .pure none

theorem Buffer.write_reports (buffer : Buffer) (start : Nat) (bytes : List UInt8) :
    Reports told (buffer.write start bytes) := by
  unfold write
  split
  · exact .pure _
  · exact .unwind

namespace FrontEnd

theorem change_reports (self : CompilerRef) (update : FrontEnd → FrontEnd) :
    Reports told (change self update) := by
  refine .change fun world => ?_
  split <;> rfl

theorem usingParser_reports {α : Type} {act : Act α} (self : CompilerRef)
    (reports : Reports told act) : Reports told (usingParser self act) := by
  intro world
  obtain ⟨events, trace, entered⟩ := reports world
  unfold usingParser
  generalize act world = ran at trace entered ⊢
  obtain ⟨exit, after⟩ := ran
  cases exit with
  | done value => exact ⟨events, trace, entered⟩
  | failed error => exact ⟨events, trace, entered⟩
  | unwound =>
      refine ⟨events, Eq.trans ?_ trace, trivial⟩
      simp only [change, Act.change]
      split <;> rfl

theorem recover_reports (self : CompilerRef) : Reports told (recover self) := by
  refine .bind (.read _) fun poisoned => ?_
  split
  · exact .bind (change_reports self _) fun _ => .bind (.note .warn _ _) fun _ =>
      change_reports self _
  · exact .pure _

theorem parse_reports (self : CompilerRef) (verdict : Verdict) :
    Reports told (parse self verdict) := by
  refine usingParser_reports self (.bind (recover_reports self) fun _ => ?_)
  cases verdict with
  | panics => exact .unwind
  | unparsed reason => exact .bind (change_reports self _) fun _ => .note .warn _ _
  | invalid reason => exact .pure _
  | accepted parsed => exact .pure _

theorem remarkFlags_reports (request : Glsl.Request) : Reports told (remarkFlags request) := by
  unfold remarkFlags
  split
  · exact .note .debug _ _
  · exact .pure ()

theorem conclude_reports (self : CompilerRef) (base : Base) (request : Glsl.Request)
    (verdict : Verdict) : Reports told (conclude self base request verdict) := by
  cases verdict with
  | panics => exact .pure none
  | unparsed reason => exact .pure none
  | invalid reason =>
      exact .bind (change_reports self _) fun _ => .bind (.note .warn _ _) fun _ => .pure none
  | accepted parsed =>
      exact .bind (change_reports self _) fun _ => .bind (change_reports self _) fun _ =>
        .bind (.note .debug _ _) fun _ => .bind (.emit rfl) fun _ => .pure _

theorem compile_reports (self : CompilerRef) (base : Base) (request : Glsl.Request)
    (verdict : Verdict) : Reports told (compile self base request verdict) := by
  unfold compile
  split
  · exact .bind (remarkFlags_reports request) fun _ => .bind (parse_reports self verdict) fun _ =>
      conclude_reports self base request verdict
  · exact .bind (change_reports self _) fun _ => .bind (.note .warn _ _) fun _ => .pure none

end FrontEnd

theorem ScriptedCompiler.compile_reports (compiler : ScriptedCompiler) (self : CompilerRef)
    (request : Glsl.Request) : Reports told (compiler.compile self request) := by
  refine .bind (.change fun _ => rfl) fun _ => ?_
  split
  · exact .unwind
  · split
    · exact .pure none
    · exact .bind (.change fun _ => rfl) fun _ => .bind (.emit rfl) fun _ => .pure _

theorem CompilerRef.createProgram_reports (compiler : CompilerRef) (base : Base)
    (request : Glsl.Request) (verdict : Verdict) :
    Reports told (compiler.createProgram base request verdict) := by
  refine .bind (.emit rfl) fun _ => .bind (.read _) fun state => ?_
  cases state with
  | scripted state => exact state.compile_reports compiler request
  | frontEnd state => exact FrontEnd.compile_reports compiler base request verdict

/-! Objects that do not come about for want of memory or of good code. -/

/-- Code that is not accepted is the caller's concern, whichever of the two it ought to be. -/
theorem Container.Bil.Module.decode_error {code : List UInt8} {error : Error}
    (refused : Bil.Module.decode code = .error error) : error.isDriverError = false := by
  unfold Bil.Module.decode at refused
  split at refused
  · cases refused
    rfl
  · split at refused <;> cases refused
    rfl

theorem Container.Glsl.Request.decode_error {code : List UInt8} {error : Error}
    (refused : Glsl.Request.decode code = .error error) : error.isDriverError = false := by
  unfold Glsl.Request.decode at refused
  split at refused <;> cases refused
  rfl

section

variable (untold : ∀ error : Error, error.isDriverError = false → told error = false)

include untold

theorem Act.Reports.required {α : Type} {search : Act (Option α)} (first : Reports told search)
    {error : Error} (other : error.isDriverError = false) : Reports told (search.orFail error) := by
  refine first.bind fun found => ?_
  cases found with
  | none => exact .fail (untold error other)
  | some value => exact .pure value

theorem Buffer.copyOf_reports (allocator : AllocatorRef) (bytes : List UInt8) (type : AllocType) :
    Reports told (copyOf allocator bytes type) :=
  ((zeroed_reports allocator bytes.length type).required untold rfl).bind fun buffer =>
    (buffer.write_reports 0 bytes).orRelease buffer.release_discreet

theorem Base.create_reports (allocator : AllocatorRef) (debug : Bool) (kind : ObjectKind) (size : Nat)
    (info : Option (List UInt8)) : Reports told (create allocator debug kind size info) := by
  refine ((allocator.request_reports _ _ _).required untold rfl).bind fun allocation => ?_
  cases info with
  | none => exact .pure _
  | some bytes =>
      cases debug with
      | false => exact .pure _
      | true =>
          exact ((Buffer.copyOf_reports untold allocator bytes .debug).orRelease
            allocation.release_discreet).bind fun _ => .pure _

namespace Source

theorem readBil_reports (code : List UInt8) : Reports told (readBil code) := by
  refine .bind (.ofExcept fun error refused => untold error (Bil.Module.decode_error refused))
    fun container => ?_
  split
  · exact .pure _
  · exact .bind (.note .warn _ _) fun _ => .pure _

theorem select_reports (device : Device) (info : CreateInfo) :
    Reports told (select device info) := by
  unfold select
  split
  · exact .bind (.ofExcept fun error refused => untold error (Glsl.Request.decode_error refused))
      fun _ => .pure _
  · exact .bind (readBil_reports untold info.code) fun _ => .pure _

end Source

namespace Ir

theorem requestContainer_reports (allocator : AllocatorRef) :
    Reports told (requestContainer allocator) :=
  (allocator.request_reports _ _ _).required untold rfl

theorem translate_reports (allocator : AllocatorRef) (source : Bil.Module) :
    Reports told (translate allocator source) :=
  .bind (requestContainer_reports untold allocator) fun container =>
    .bind ((Buffer.copyOf_reports untold allocator source.payload .internalShader).orRelease
      container.release_discreet) fun _ => .pure _

theorem requireProgram_reports (compiler : CompilerRef) (base : Base) (request : Glsl.Request)
    (verdict : Verdict) : Reports told (requireProgram compiler base request verdict) := by
  refine .bind (compiler.createProgram_reports base request verdict) fun made => ?_
  cases made with
  | some program => exact .pure _
  | none => exact .bind (.note .warn _ _) fun _ => .fail (untold _ rfl)

theorem compile_reports (device : Device) (base : Base) (request : Glsl.Request)
    (verdict : Verdict) : Reports told (compile device base request verdict) := by
  unfold compile
  split
  · exact .fail (untold _ rfl)
  · next compiler _ =>
      exact .bind (requestContainer_reports untold device.allocator) fun container =>
        .bind ((requireProgram_reports untold compiler base request verdict).orRelease
          container.release_discreet) fun _ => .pure _

theorem ofSource_reports (device : Device) (base : Base) (source : Source) (verdict : Verdict) :
    Reports told (ofSource device base source verdict) := by
  cases source with
  | bil container => exact translate_reports untold device.allocator container
  | glsl request => exact compile_reports untold device base request verdict

end Ir

namespace Shader

theorem complete_reports (device : Device) (base : Base) (info : CreateInfo) (verdict : Verdict) :
    Reports told (complete device base info verdict) :=
  .bind ((Source.select_reports untold device info).onFailure
      (fun _ => note_discreet .warn _ _) fun _ => log_unfailing _) fun source =>
    .bind (Ir.ofSource_reports untold device base source verdict) fun ir =>
      .bind (Reports.orRelease (.note .debug _ _) ir.release_discreet) fun _ =>
        .bind .freshSerial fun _ => .pure _

theorem create_reports (device : Device) (info : CreateInfo) (verdict : Verdict) :
    Reports told (create device info verdict) :=
  .bind (Base.create_reports untold _ _ _ _ _) fun base =>
    (complete_reports untold device base info verdict).orRelease base.release_discreet

end Shader

end

/-- A device of its own is not the driver's: nothing that it fails with is entered. -/
theorem Device.create_reports (config : DeviceConfig) :
    Reports (fun _ => false) (create config) := by
  unfold create
  split
  · exact .fail rfl
  · exact .bind (Base.create_reports (fun _ _ => rfl) _ _ _ _ _) fun base =>
      .bind .freshSerial fun _ => .pure _

end ShaderDriver
