import ShaderDriver.Proofs.EntryPoint.Outcomes
import ShaderDriver.Proofs.Session.Tolerance

namespace ShaderDriver.Session

open Memory Container Act

/-! Only calls of entry points change the registries. -/

theorem keep_untouched (into : Option String) (object : Held) :
    untouched.Holds (keep into object) := by
  cases into with
  | none => exact object.letGo_untouched
  | some name =>
      refine .bind (.read _) fun before => .bind (change_untouched fun _ => rfl) fun _ => ?_
      cases before with
      | none => exact .pure ()
      | some earlier => exact earlier.letGo_untouched

theorem keepAndShow_untouched (into : Option String) (object : Held) :
    untouched.Holds (keepAndShow into object) :=
  .bind (keep_untouched into object) fun _ => .pure _

theorem untouched_tolerates : untouched.Tolerates where
  sparing holds world := (holds world).registries
  keep into object _ := keep_untouched into object

theorem config_untouched (settings : Settings) : untouched.Holds settings.config :=
  untouched_tolerates.sparing (config_sparing settings)

theorem memory_untouched (command : MemoryCommand) (names : World) :
    untouched.Holds (command.run names) := by
  cases command with
  | writeBuffer name start data =>
      simp only [MemoryCommand.run]
      split
      · exact .pure _
      · next buffer _ =>
          exact .bind (buffer.write_moves start data).untouched fun _ =>
            .bind (change_untouched fun _ => rfl) fun _ => .pure _
  | _ => exact untouched_tolerates.memory _ names (by simp)

theorem compiler_untouched (command : CompilerCommand) (names : World) :
    untouched.Holds (command.run names) :=
  untouched_tolerates.compiler command names

theorem device_untouched (command : DeviceCommand) (names : World) :
    untouched.Holds (command.run names) := by
  cases command with
  | createShader into name info verdict =>
      simp only [DeviceCommand.run]
      split
      · exact .pure _
      · exact .bind (Shader.create_moves _ info verdict).untouched fun _ => keepAndShow_untouched _ _
  | _ => exact untouched_tolerates.device _ names (by simp)

theorem held_untouched (command : HeldCommand) (names : World) :
    untouched.Holds (command.run names) := by
  cases command with
  | inspect name => exact .pure _
  | describe name onLines => exact .pure _
  | letGo name =>
      simp only [HeldCommand.run]
      split
      · exact .pure _
      · next object _ =>
          exact silently_holds (.bind (change_untouched fun _ => rfl) fun _ =>
            object.letGo_untouched)

/-- The calls that only read the registries, if at all. -/
def CallCommand.reads : CallCommand → Bool
  | .shaderCount => true
  | .device _ _ => true
  | .shader _ _ => true
  | .log _ => true
  | .setLogger _ => true
  | .resetLogger _ => true
  | _ => false

theorem call_untouched (command : CallCommand) (reads : command.reads = true) :
    untouched.Holds command.run := by
  cases command with
  | shaderCount => exact .read _
  | device into handle =>
      exact .bind (EntryPoint.device_moves handle).untouched fun _ => keepAndShow_untouched _ _
  | shader into handle =>
      exact .bind (EntryPoint.shader_moves handle).untouched fun _ => keepAndShow_untouched _ _
  | log record => exact silently_holds (Moves.log record).untouched
  | setLogger faults => exact silently_holds (change_untouched fun _ => rfl)
  | resetLogger environment => exact silently_holds (change_untouched fun _ => rfl)
  | _ => cases reads

end ShaderDriver.Session
