import ShaderDriver.Object.Creation
import ShaderDriver.Proofs.Act.Upsets
import ShaderDriver.Proofs.Object.Making

namespace ShaderDriver

open Memory Container Act

/-! Objects add no reason to panic: whatever is made, used or released, an unwinding is explained by
the logger, by a compiler, or by an account that is out of order. -/

variable {verdict : Option Verdict} {excuse : Prop} {world : World}

/-- A call of an allocator, and the events that tell of it. -/
theorem Act.Explains.called {serial : Nat} {next : Allocator} {events : List Event}
    {fault unwound : Prop} (called : (world.allocators serial).Called next
      (events.countP Event.grants) fault)
    (silent : ∀ logger : Log.Logger, logger.hear events = (false, logger))
    (faults : unwound → fault) :
    Explains verdict excuse world unwound { world with
      allocators := world.allocators.set serial next
      trace := world.trace ++ events } where
  reason := by
    refine ⟨events, ⟨rfl, by rw [silent], fun _ _ panics => panics, fun other => ?_⟩, fun ended => ?_⟩
    · by_cases own : other = serial
      · simpa [own] using called.granted
      · simp [own]
    · exact .inr (.inr ⟨serial, by simpa using called.fault (faults ended)⟩)
  lasting := by
    rintro ⟨other, poisoned⟩
    by_cases own : other = serial
    · subst own
      exact ⟨other, by simpa using called.lasting poisoned⟩
    · exact ⟨other, by simpa [own] using poisoned⟩
  sound _ sound := by
    refine ⟨sound.parsers, sound.registries, fun other => ?_⟩
    by_cases own : other = serial
    · subst own
      simpa using called.modest (sound.counters other)
    · simpa [own] using sound.counters other

theorem AllocatorRef.request_explained (allocator : AllocatorRef) (size alignment : Nat)
    (type : AllocType) : Explained verdict excuse (allocator.request size alignment type) := by
  intro world
  have called := (world.allocators allocator.serial).alloc_called size type
  unfold request
  generalize (world.allocators allocator.serial).alloc size type = answer at called
  obtain ⟨reply, next⟩ := answer
  cases reply with
  | fault =>
      have explains : Explains verdict excuse world True { world with
          allocators := world.allocators.set allocator.serial next
          trace := world.trace ++ [] } :=
        .called called (fun _ => rfl) fun _ => rfl
      simpa using explains
  | refused =>
      refine Explains.called (called.recast id) (Log.Logger.hear_silent rfl) ?_
      simp
  | granted =>
      refine Explains.called (called.recast id) (Log.Logger.hear_silent rfl) ?_
      simp

theorem Allocation.release_explained (allocation : Allocation) :
    Explained verdict excuse allocation.release := by
  intro world
  have called := (world.allocators allocation.allocator.serial).free_called allocation.size
    allocation.type
  unfold release
  refine Explains.called called (Log.Logger.hear_silent rfl) fun unwound => ?_
  generalize ((world.allocators allocation.allocator.serial).free _ _) = answer at unwound
  simpa using unwound

namespace Buffer

theorem release_explained (buffer : Buffer) : Explained verdict excuse buffer.release :=
  buffer.allocation.release_explained

theorem zeroed_explained (allocator : AllocatorRef) (size : Nat) (type : AllocType) :
    Explained verdict excuse (zeroed allocator size type) := by
  refine (allocator.request_explained _ _ _).bind fun answer => ?_
  cases answer with
  | none => exact .pure none
  | some allocation =>
      refine .bind (.read World.heap) fun heap => ?_
      split
      · exact .pure _
      · exact allocation.release_explained.bind fun _ => .pure none

theorem write_explained {buffer : Buffer} {start : Nat} {bytes : List UInt8}
    (within : start + bytes.length ≤ buffer.data.length) :
    Explained verdict excuse (buffer.write start bytes) := by
  rw [write, if_pos within]
  exact .pure _

/-- Bytes take the place of those in a buffer, of which there have to be as many. -/
def fill (buffer : Buffer) (bytes : List UInt8) : Act Buffer :=
  if bytes.length = buffer.data.length then pure { buffer with data := bytes } else Act.unwind

def filled (allocator : AllocatorRef) (bytes : List UInt8) (type : AllocType) : Act Buffer := do
  let buffer ← (zeroed allocator bytes.length type).orFail .outOfMemory
  (buffer.fill bytes).orRelease buffer.release

/-- A copy of bytes is made in a buffer of just their length. -/
theorem copyOf_eq_filled (allocator : AllocatorRef) (bytes : List UInt8) (type : AllocType) :
    copyOf allocator bytes type = filled allocator bytes type := by
  funext world
  rw [copyOf, filled, bind_apply, bind_apply]
  rcases ran : (zeroed allocator bytes.length type).orFail .outOfMemory world with ⟨exit, after⟩
  cases exit with
  | failed error => rfl
  | unwound => rfl
  | done buffer =>
      have same : buffer.write 0 bytes = buffer.fill bytes := by
        rw [zeroed_eq_done (orFail_eq_done.mp ran)]
        simp [write, fill]
      simp only [same]

/-- The copy fills a buffer that was made for it. -/
theorem copyOf_explained (allocator : AllocatorRef) (bytes : List UInt8) (type : AllocType) :
    Explained verdict excuse (copyOf allocator bytes type) := by
  refine ((zeroed_explained allocator bytes.length type).orFail _).bindDone fun {_ buffer _} done => ?_
  have within : 0 + bytes.length ≤ buffer.data.length := by
    rw [zeroed_eq_done (orFail_eq_done.mp done)]
    simp
  exact (write_explained within).orRelease buffer.release_explained

end Buffer

namespace Base

theorem release_explained (base : Base) : Explained verdict excuse base.release := by
  unfold release
  split
  · exact base.allocation.release_explained
  · next record _ => exact base.allocation.release_explained.thenRelease record.release_explained

theorem create_explained (allocator : AllocatorRef) (debug : Bool) (kind : ObjectKind) (size : Nat)
    (info : Option (List UInt8)) :
    Explained verdict excuse (create allocator debug kind size info) := by
  refine ((allocator.request_explained _ _ _).orFail _).bind fun allocation => ?_
  cases info with
  | none => exact .pure _
  | some bytes =>
      cases debug with
      | false => exact .pure _
      | true =>
          exact ((Buffer.copyOf_explained allocator bytes .debug).orRelease
            allocation.release_explained).bind fun _ => .pure _

end Base

/-- A compiler is in another state, in which it panics no more often. -/
theorem Act.Explains.compiler {serial : Nat} {next : Compiler}
    (panics : ∀ request, next.panicsAt verdict request = true →
      (world.compilers serial).panicsAt verdict request = true)
    (usable : world.Sound → ∀ state, next = .frontEnd state → state.poisoned = false) :
    Explains verdict excuse world False
      { world with compilers := world.compilers.set serial next } where
  reason := by
    refine ⟨[], .unseen rfl rfl rfl fun other request panicking => ?_, False.elim⟩
    by_cases own : other = serial
    · subst own
      exact panics request (by simpa using panicking)
    · simpa [own] using panicking
  lasting faulty := faulty
  sound _ sound := by
    refine ⟨fun other state found => ?_, sound.registries, sound.counters⟩
    by_cases own : other = serial
    · subst own
      exact usable sound state (by simpa using found)
    · exact sound.parsers other state (by simpa [own] using found)

theorem Program.destroy_explained (program : Program) :
    Explained verdict excuse program.destroy := by
  refine .bind (fun world => ?_) fun _ => .emit rfl
  refine (Explains.compiler (fun request panics => ?_) fun sound state found => ?_).recast
    (by simp [Act.change])
  · cases known : world.compilers program.compiler.serial with
    | scripted state => rwa [known] at panics
    | frontEnd state => rwa [known] at panics
  · cases known : world.compilers program.compiler.serial with
    | scripted before =>
        rw [known] at found
        cases found
    | frontEnd before =>
        rw [known] at found
        cases found
        exact sound.parsers _ before known

theorem Payload.release_explained (payload : Payload) : Explained verdict excuse payload.release := by
  cases payload with
  | kernel owned => exact owned.release_explained
  | program owned => exact owned.destroy_explained

theorem Ir.release_explained (ir : Ir) : Explained verdict excuse ir.release :=
  ir.payload.release_explained.thenRelease ir.container.release_explained

namespace Shader

theorem teardown_explained (shader : Shader) : Explained verdict excuse shader.teardown :=
  .bind (.emit rfl) fun _ => (Explained.log _).thenRelease
    (shader.ir.release_explained.thenRelease shader.base.release_explained)

theorem letGo_explained (shader : Shader) : Explained verdict excuse shader.letGo := by
  intro world
  unfold letGo
  split
  · exact Explained.pure () world
  · exact shader.teardown_explained world

end Shader

namespace Device

theorem teardown_explained (device : Device) : Explained verdict excuse device.teardown :=
  .bind (.emit rfl) fun _ => device.base.release_explained

theorem letGo_explained (device : Device) : Explained verdict excuse device.letGo := by
  intro world
  unfold letGo
  split
  · exact Explained.pure () world
  · exact device.teardown_explained world

end Device

theorem Held.letGo_explained (object : Held) : Explained verdict excuse object.letGo := by
  cases object with
  | allocator known => exact .pure ()
  | compiler known => exact .pure ()
  | buffer owned => exact owned.release_explained
  | base owned => exact owned.release_explained
  | device shared => exact shared.letGo_explained
  | shader shared => exact shared.letGo_explained
  | ir owned => exact owned.release_explained
  | program owned => exact owned.destroy_explained

theorem ScriptedCompiler.compile_explains {compiler : ScriptedCompiler} {self : CompilerRef}
    (found : world.compilers self.serial = .scripted compiler) (request : Glsl.Request) :
    Explains verdict (compiler.mode = .panics) world
      ((compiler.compile self request world).1 = .unwound)
      (compiler.compile self request world).2 := by
  refine .bind ((Explains.compiler (fun _ panics => ?_) fun _ _ scripted => ?_).recast
    (by simp [Act.change])) fun _ => ?_
  · rwa [found]
  · cases scripted
  · split
    · next panics => exact .unwind panics
    · next calm =>
        split
        · exact .pure none
        · refine .bind (fun world => ?_) fun _ => .bind (.emit rfl) fun _ => .pure _
          refine (Explains.compiler (fun _ panics => ?_) fun _ _ scripted => ?_).recast
            (by simp [Act.change])
          · exact absurd (by simpa [Compiler.panicsAt, made] using panics) calm
          · cases scripted

namespace FrontEnd

theorem change_explained (self : CompilerRef) {update : FrontEnd → FrontEnd}
    (usable : ∀ state, state.poisoned = false → (update state).poisoned = false) :
    Explained verdict excuse (change self update) := by
  intro world
  unfold change Act.change
  cases found : world.compilers self.serial with
  | scripted state =>
      simp only [found]
      exact Explained.pure () world
  | frontEnd state =>
      simp only [found]
      refine (Explains.compiler (fun _ panics => ?_) fun sound _ same => ?_).recast (by simp)
      · rwa [found]
      · cases same
        exact usable state (sound.parsers _ state found)

theorem count_explained (self : CompilerRef) (update : CompileCounts → CompileCounts) :
    Explained verdict excuse (count self update) :=
  change_explained self fun _ usable => usable

/-- The parser is poisoned only by an unwinding. -/
theorem usingParser_explained {α : Type} {act : Act α} (self : CompilerRef)
    (explained : Explained verdict excuse act) :
    Explained verdict excuse (usingParser self act) := by
  intro world
  have start := explained world
  unfold usingParser
  generalize act world = ran at start ⊢
  obtain ⟨exit, after⟩ := ran
  cases exit with
  | done value => exact start
  | failed error => exact start
  | unwound =>
      let poisoning (state : FrontEnd) : FrontEnd := { state with poisoned := true }
      have unseen : after.Passes (change self poisoning after).2 verdict [] ∧
          (change self poisoning after).2.allocators = after.allocators := by
        unfold change Act.change
        cases found : after.compilers self.serial with
        | scripted state =>
            simp only [found]
            exact ⟨.refl after, trivial⟩
        | frontEnd state =>
            simp only [found]
            refine ⟨.unseen rfl rfl rfl fun other request panics => ?_, trivial⟩
            by_cases own : other = self.serial
            · subst own
              rw [found]
              simpa [Compiler.panicsAt] using panics
            · simpa [own] using panics
      obtain ⟨events, passes, reason⟩ := start.reason
      refine ⟨⟨events, ?_, fun ended => ?_⟩, fun faulty => ?_, fun calm => absurd rfl calm⟩
      · simpa using passes.trans unseen.1
      · exact (reason ended).imp_right (Or.imp_right fun faulty => faulty.moved unseen.2)
      · exact (start.lasting faulty).moved unseen.2

theorem recover_explained (self : CompilerRef) : Explained verdict excuse (recover self) := by
  refine .bind (.read _) fun poisoned => ?_
  split
  · exact .bind (count_explained self _) fun _ => .bind (.note .warn _ _) fun _ =>
      change_explained self fun _ _ => rfl
  · exact .pure _

theorem parse_explained (self : CompilerRef) (answer : Verdict) (excused : answer = .panics → excuse) :
    Explained verdict excuse (parse self answer) := by
  refine usingParser_explained self (.bind (recover_explained self) fun _ => ?_)
  cases answer with
  | panics => exact .unwind (excused rfl)
  | unparsed reason => exact .bind (count_explained self _) fun _ => .note .warn _ _
  | invalid reason => exact .pure _
  | accepted parsed => exact .pure _

theorem remarkFlags_explained (request : Glsl.Request) :
    Explained verdict excuse (remarkFlags request) := by
  unfold remarkFlags
  split
  · exact .note .debug _ _
  · exact .pure ()

theorem conclude_explained (self : CompilerRef) (base : Base) (request : Glsl.Request)
    (answer : Verdict) : Explained verdict excuse (conclude self base request answer) := by
  cases answer with
  | panics => exact .pure none
  | unparsed reason => exact .pure none
  | invalid reason =>
      exact .bind (count_explained self _) fun _ => .bind (.note .warn _ _) fun _ => .pure none
  | accepted parsed =>
      exact .bind (count_explained self _) fun _ =>
        .bind (change_explained self fun _ usable => usable) fun _ =>
          .bind (.note .debug _ _) fun _ => .bind (.emit rfl) fun _ => .pure _

theorem compile_explained (self : CompilerRef) (base : Base) (request : Glsl.Request)
    (answer : Verdict) (excused : supports request.stage = true → answer = .panics → excuse) :
    Explained verdict excuse (compile self base request answer) := by
  unfold compile
  split
  · next supported =>
      exact .bind (remarkFlags_explained request) fun _ =>
        .bind (parse_explained self answer (excused supported)) fun _ =>
          conclude_explained self base request answer
  · exact .bind (count_explained self _) fun _ => .bind (.note .warn _ _) fun _ => .pure none

end FrontEnd

/-- A compiler that panics does so after it was asked. -/
theorem CompilerRef.createProgram_explained (compiler : CompilerRef) (base : Base)
    (request : Glsl.Request) (answer : Verdict) :
    Explained (some answer) excuse (compiler.createProgram base request answer) := by
  intro world
  let event : Event := .compiling compiler request base
  let asked : World := { world with trace := world.trace ++ [event] }
  have seen : (world.compilers compiler.serial).panicsAt (some answer) request = true →
      world.upset (some answer) [event] = true := by
    intro panics
    simp [World.upset, World.upsetBy, event, panics]
  refine Explains.seen (rfl : event.entry? = none) seen ?_
  cases found : world.compilers compiler.serial with
  | scripted state =>
      have ran : compiler.createProgram base request answer world =
          state.compile compiler request asked := by
        unfold createProgram
        rw [bind_apply]
        simp only [emit, change]
        rw [bind_apply]
        simp only [Act.read, found]
        rfl
      have known : asked.compilers compiler.serial = .scripted state := found
      rw [ran]
      simpa [Compiler.panicsAt] using ScriptedCompiler.compile_explains known request
  | frontEnd state =>
      have ran : compiler.createProgram base request answer world =
          FrontEnd.compile compiler base request answer asked := by
        unfold createProgram
        rw [bind_apply]
        simp only [emit, change]
        rw [bind_apply]
        simp only [Act.read, found]
        rfl
      rw [ran]
      refine FrontEnd.compile_explained compiler base request answer (fun supported panics => ?_) asked
      simp [Compiler.panicsAt, supported, panics]

namespace Source

theorem readBil_explained (code : List UInt8) : Explained verdict excuse (readBil code) := by
  refine .bind (.ofExcept _) fun container => ?_
  split
  · exact .pure _
  · exact .bind (.note .warn _ _) fun _ => .pure _

theorem select_explained (device : Device) (info : CreateInfo) :
    Explained verdict excuse (select device info) := by
  unfold select
  split
  · exact .bind (.ofExcept _) fun _ => .pure _
  · exact .bind (readBil_explained info.code) fun _ => .pure _

end Source

namespace Ir

theorem requestContainer_explained (allocator : AllocatorRef) :
    Explained verdict excuse (requestContainer allocator) :=
  (allocator.request_explained _ _ _).orFail _

theorem translate_explained (allocator : AllocatorRef) (source : Bil.Module) :
    Explained verdict excuse (translate allocator source) :=
  .bind (requestContainer_explained allocator) fun container =>
    .bind ((Buffer.copyOf_explained allocator source.payload .internalShader).orRelease
      container.release_explained) fun _ => .pure _

theorem requireProgram_explained (compiler : CompilerRef) (base : Base) (request : Glsl.Request)
    (answer : Verdict) :
    Explained (some answer) excuse (requireProgram compiler base request answer) := by
  refine .bind (compiler.createProgram_explained base request answer) fun program? => ?_
  cases program? with
  | some program => exact .pure _
  | none => exact .bind (.note .warn _ _) fun _ => .fail _

theorem compile_explained (device : Device) (base : Base) (request : Glsl.Request)
    (answer : Verdict) : Explained (some answer) excuse (compile device base request answer) := by
  unfold compile
  split
  · exact .fail _
  · next compiler _ =>
      exact .bind (requestContainer_explained device.allocator) fun container =>
        .bind ((requireProgram_explained compiler base request answer).orRelease
          container.release_explained) fun _ => .pure _

theorem ofSource_explained (device : Device) (base : Base) (source : Source) (answer : Verdict) :
    Explained (some answer) excuse (ofSource device base source answer) := by
  cases source with
  | bil container => exact translate_explained device.allocator container
  | glsl request => exact compile_explained device base request answer

end Ir

namespace Shader

theorem complete_explained (device : Device) (base : Base) (info : CreateInfo) (answer : Verdict) :
    Explained (some answer) excuse (complete device base info answer) :=
  .bind ((Source.select_explained device info).onFailure fun _ => .note .warn _ _) fun source =>
    .bind (Ir.ofSource_explained device base source answer) fun ir =>
      .bind ((Explained.note .debug _ _).orRelease ir.release_explained) fun _ =>
        .bind .freshSerial fun _ => .pure _

theorem create_explained (device : Device) (info : CreateInfo) (answer : Verdict) :
    Explained (some answer) excuse (create device info answer) :=
  .bind (Base.create_explained _ _ _ _ _) fun base =>
    (complete_explained device base info answer).orRelease base.release_explained

end Shader

theorem Device.create_explained (config : DeviceConfig) : Explained verdict excuse (create config) := by
  unfold create
  split
  · exact .fail _
  · exact .bind (Base.create_explained _ _ _ _ _) fun base => .bind .freshSerial fun _ => .pure _

end ShaderDriver
