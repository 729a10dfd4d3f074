import ShaderDriver.Proofs.Object.Sparing
import ShaderDriver.Proofs.Session.Custody

namespace ShaderDriver

open Memory Container Act

/-! Commands about what is neither registered nor shared. -/

namespace Session

theorem newAllocator_sparing (label : Option String) (allocator : Allocator) :
    sparing.Holds (newAllocator label allocator) :=
  .bind (sparing_of_barren freshSerial_barren) fun _ =>
    .bind (fun world => .cells world _ world.compilers) fun _ => .pure _

theorem newCompiler_sparing (label : Option String) (compiler : Compiler) :
    sparing.Holds (newCompiler label compiler) :=
  .bind (sparing_of_barren freshSerial_barren) fun _ =>
    .bind (fun world => .cells world world.allocators _) fun _ => .pure _

theorem config_sparing (settings : Settings) : sparing.Holds settings.config := by
  refine .bind (.bind (.read _) fun found => ?_) fun _ => .read _
  cases found with
  | none => exact newAllocator_sparing none _
  | some allocator => exact .pure allocator

theorem setMode_sparing (compiler : CompilerRef) (mode : Mode) :
    sparing.Holds (setMode compiler mode) := by
  intro world
  unfold setMode
  split
  · exact .cells world world.allocators _
  · exact .refl world

theorem silently_holds {frame : Frame} {act : Act Unit} (holds : frame.Holds act) :
    frame.Holds (silently act) :=
  .bind holds fun _ => .pure _

end Session

namespace Act.Frame

/-- The frame does not mind what becomes of anything but shaders. -/
structure Tolerates (frame : Frame) : Prop where
  sparing : ∀ {α : Type} {act : Act α}, sparing.Holds act → frame.Holds act
  keep : ∀ (into : Option String) {object : Held}, object.shader? = none →
    frame.Holds (Session.keep into object)

namespace Tolerates

open Session

variable {frame : Frame} (tolerates : frame.Tolerates)

include tolerates

theorem barren {α : Type} {act : Act α} (holds : barren.Holds act) : frame.Holds act :=
  tolerates.sparing (sparing_of_barren holds)

theorem keepAndShow (into : Option String) {object : Held} (other : object.shader? = none) :
    frame.Holds (Session.keepAndShow into object) :=
  .bind (tolerates.keep into other) fun _ => .pure _

theorem memory (command : MemoryCommand) (names : World)
    (plain : ∀ name start data, command ≠ .writeBuffer name start data) :
    frame.Holds (command.run names) := by
  cases command with
  | makeAllocator into budget =>
      exact silently_holds (.bind (tolerates.sparing (newAllocator_sparing _ _)) fun _ =>
        tolerates.keep _ rfl)
  | rawAlloc name size alignment type =>
      simp only [MemoryCommand.run]
      split
      · exact .pure _
      · next allocator _ =>
          exact .bind (tolerates.sparing (allocator.request_sparing size alignment type))
            fun _ => .pure _
  | rawFree name size type =>
      simp only [MemoryCommand.run]
      split
      · exact .pure _
      · exact silently_holds (tolerates.sparing (Allocation.release_sparing _))
  | failNth name n =>
      simp only [MemoryCommand.run]
      split
      · exact .pure _
      · exact silently_holds (tolerates.sparing fun world => .cells world _ world.compilers)
  | accounts name =>
      simp only [MemoryCommand.run]
      split
      · exact .pure _
      · exact .read _
  | makeBuffer into name size type =>
      simp only [MemoryCommand.run]
      split
      · exact .pure _
      · next allocator _ =>
          refine .bind (tolerates.sparing (Buffer.zeroed_sparing allocator size type)) fun made => ?_
          cases made with
          | none => exact .pure _
          | some buffer => exact tolerates.keepAndShow _ rfl
  | writeBuffer name start data => exact absurd rfl (plain name start data)
  | makeBase into name debug kind size info =>
      simp only [MemoryCommand.run]
      split
      · exact .pure _
      · exact .bind (tolerates.sparing (Base.create_sparing _ _ _ _ _)) fun _ =>
          tolerates.keepAndShow _ rfl

theorem compiler (command : CompilerCommand) (names : World) :
    frame.Holds (command.run names) := by
  cases command with
  | makeScripted into entryPoint =>
      exact silently_holds (.bind (tolerates.sparing (newCompiler_sparing _ _)) fun _ =>
        tolerates.keep _ rfl)
  | makeFrontEnd into =>
      exact silently_holds (.bind (tolerates.sparing (newCompiler_sparing _ _)) fun _ =>
        tolerates.keep _ rfl)
  | setMode name mode =>
      simp only [CompilerCommand.run]
      split
      · exact .pure _
      · exact tolerates.sparing (setMode_sparing _ _)
  | state name =>
      simp only [CompilerCommand.run]
      split
      · exact .pure _
      · exact .pure _
  | makeProgram into name baseName code verdict =>
      simp only [CompilerCommand.run]
      split
      · next compiler base _ _ =>
          refine .bind (.ofExcept _) fun request => ?_
          refine .bind (tolerates.barren (compiler.createProgram_barren base request verdict))
            fun made => ?_
          cases made with
          | none => exact .pure _
          | some program => exact tolerates.keepAndShow _ rfl
      · exact .pure _

theorem device (command : DeviceCommand) (names : World)
    (plain : ∀ into name info verdict, command ≠ .createShader into name info verdict) :
    frame.Holds (command.run names) := by
  cases command with
  | describe settings onLines =>
      exact .bind (tolerates.sparing (config_sparing settings)) fun _ => .pure _
  | create into settings =>
      exact .bind (tolerates.sparing (config_sparing settings)) fun config =>
        .bind (tolerates.sparing (Device.create_sparing config)) fun _ => tolerates.keepAndShow _ rfl
  | select name info =>
      simp only [DeviceCommand.run]
      split
      · exact .pure _
      · exact .bind (tolerates.barren (Source.select_barren _ info)) fun _ => .pure _
  | createShader into name info verdict => exact absurd rfl (plain into name info verdict)
  | translate into name code =>
      simp only [DeviceCommand.run]
      split
      · exact .pure _
      · exact .bind (tolerates.barren (Source.readBil_barren code)) fun container =>
          .bind (tolerates.sparing (Ir.translate_sparing _ container)) fun _ =>
            tolerates.keepAndShow _ rfl
  | compile into name baseName code verdict =>
      simp only [DeviceCommand.run]
      split
      · exact .bind (.ofExcept _) fun request =>
          .bind (tolerates.sparing (Ir.compile_sparing _ _ request verdict)) fun _ =>
            tolerates.keepAndShow _ rfl
      · exact .pure _

end Tolerates

end Act.Frame

end ShaderDriver
