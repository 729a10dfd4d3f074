import ShaderDriver.Proofs.EntryPoint.Lookup
import ShaderDriver.Proofs.Object.Ceremony
import ShaderDriver.Session.Step

namespace ShaderDriver

open Act

/-! The shaders that commands make, and the devices that they are made on. -/

def Exit.value? {α : Type} : Exit α → Option α
  | .done value => some value
  | .failed _ => none
  | .unwound => none

theorem Exit.value?_eq_some {α : Type} {exit : Exit α} {value : α} :
    exit.value? = some value ↔ exit = .done value := by
  cases exit <;> simp [value?]

namespace Session

/-- The part of a command that makes a shader: on a device that the application holds, or on the
device of a handle. -/
def Command.making (world : World) : Command → Act (Option (Shader × Device))
  | .device (.createShader _ name info verdict) =>
      match world.device? name with
      | none => pure none
      | some maker => do
          let shader ← Shader.create maker info verdict
          pure (some (shader, maker))
  | .call (.createShader _ owner info verdict) => do
      let maker ← EntryPoint.device owner
      let shader ← Shader.create maker info verdict
      pure (some (shader, maker))
  | _ => pure none

/-- The shader that a command makes, whatever becomes of it, and the device that it is made on. -/
def Command.product? (world : World) (command : Command) : Option (Shader × Device) :=
  (command.making world { world with trace := [] }).1.value?.join

/-- What a command says about the shader that is to be made. -/
def Command.info? : Command → Option CreateInfo
  | .device (.createShader _ _ info _) => some info
  | .call (.createShader _ _ info _) => some info
  | _ => none

/-- The shaders that are made in a run, and the devices that they are made on. -/
def products : World → List Command → List (Shader × Device)
  | _, [] => []
  | world, command :: rest =>
      (command.product? world).toList ++ products (step world command).2 rest

variable {world : World} {command : Command} {shader : Shader} {maker : Device}

theorem product_eq_some (made : command.product? world = some (shader, maker)) :
    ∃ info verdict after, command.info? = some info ∧
      Shader.create maker info verdict { world with trace := [] } = (.done shader, after) := by
  obtain ⟨after, done⟩ : ∃ after, command.making world { world with trace := [] } =
      (.done (some (shader, maker)), after) := by
    have value := Option.join_eq_some_iff.mp made
    exact ⟨_, Prod.ext (Exit.value?_eq_some.mp value) rfl⟩
  unfold Command.making at done
  split at done
  · next name _ _ =>
      cases found : world.device? name with
      | none =>
          rw [found] at done
          cases done
      | some device =>
          rw [found] at done
          obtain ⟨_, middle, created, done⟩ := bind_eq_done.mp done
          cases done
          exact ⟨_, _, _, rfl, created⟩
  · obtain ⟨_, _, found, done⟩ := bind_eq_done.mp done
    obtain ⟨_, _, _, _, rfl⟩ := EntryPoint.device_eq_done found
    obtain ⟨_, middle, created, done⟩ := bind_eq_done.mp done
    cases done
    exact ⟨_, _, _, rfl, created⟩
  · cases done

theorem product_made (made : command.product? world = some (shader, maker)) :
    (∃ info, shader.MadeFrom maker info) ∧ world.nextSerial ≤ shader.id := by
  obtain ⟨info, verdict, after, _, created⟩ := product_eq_some made
  obtain ⟨formed, least, _⟩ := Shader.create_eq_done created
  exact ⟨⟨info, formed⟩, least⟩

theorem exists_product {commands : List Command} {made : Shader × Device}
    (member : made ∈ products world commands) :
    ∃ before command, Command.product? before command = some made := by
  induction commands generalizing world with
  | nil => exact absurd member List.not_mem_nil
  | cons command rest ih =>
      rcases List.mem_append.mp member with first | later
      · exact ⟨world, command, Option.mem_toList.mp first⟩
      · exact ih later

end Session

end ShaderDriver
