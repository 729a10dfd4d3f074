import ShaderDriver.Proofs.EntryPoint.Upsets
import ShaderDriver.Proofs.Session.Commands

namespace ShaderDriver.Session

open Memory Container Act World

/-! Commands add no reason to panic to those that the logger, the compilers and the accounts give. -/

variable {verdict : Option Verdict} {excuse : Prop} {world : World}

/-- The verdict of the parser on the source that a command asks a compiler to compile. -/
def Command.verdict? : Command → Option Verdict
  | .compiler (.makeProgram _ _ _ _ verdict) => some verdict
  | .device (.createShader _ _ _ verdict) => some verdict
  | .device (.compile _ _ _ _ verdict) => some verdict
  | .call (.createShader _ _ _ verdict) => some verdict
  | _ => none

/-- The command replaces the logger, or tells a compiler what to do. -/
def Command.configures : Command → Bool
  | .compiler (.setMode _ _) => true
  | .call (.setLogger _) => true
  | .call (.resetLogger _) => true
  | _ => false

theorem keep_explained (into : Option String) (object : Held) :
    Explained verdict excuse (keep into object) := by
  cases into with
  | none => exact object.letGo_explained
  | some name =>
      refine .bind (.read _) fun before => .bind ?_ fun _ => ?_
      · exact .change (fun _ => rfl) (fun _ => rfl) (fun _ => rfl) (fun _ _ _ panics => panics)
          fun _ sound => ⟨sound.parsers, sound.registries, sound.counters⟩
      · cases before with
        | none => exact .pure ()
        | some earlier => exact earlier.letGo_explained

theorem keepAndShow_explained (into : Option String) (object : Held) :
    Explained verdict excuse (keepAndShow into object) :=
  .bind (keep_explained into object) fun _ => .pure _

theorem silently_explained {act : Act Unit} (explained : Explained verdict excuse act) :
    Explained verdict excuse (silently act) :=
  .bind explained fun _ => .pure _

theorem noObject_explained : Explained verdict excuse noObject :=
  .pure none

/-- No account that is out of order is replaced by a new one, if there is none. -/
theorem newAllocator_explains (sane : ¬ world.Faulty) (label : Option String) (budget : Option Nat) :
    Explains verdict excuse world
      ((newAllocator label (.tracking (.withBudget budget)) world).1 = .unwound)
      (newAllocator label (.tracking (.withBudget budget)) world).2 := by
  refine ⟨⟨[], ⟨(List.append_nil _).symm, rfl, fun _ _ panics => panics, fun serial => ?_⟩, ?_⟩,
    fun faulty => absurd faulty sane, fun _ sound => ⟨sound.parsers, sound.registries, ?_⟩⟩
  · change ((world.allocators.set world.nextSerial _) serial).granted ≤ _
    by_cases own : serial = world.nextSerial
    · rw [own, Cells.set_self]
      exact Nat.zero_le _
    · rw [Cells.set_other _ _ own]
      exact Nat.le_add_right _ _
  · intro unwound
    cases unwound
  · intro serial
    change ((world.allocators.set world.nextSerial _) serial).Modest
    by_cases own : serial = world.nextSerial
    · rw [own, Cells.set_self]
      exact fun _ => Tracker.withBudget_ranged budget
    · rw [Cells.set_other _ _ own]
      exact sound.counters serial

theorem config_explains (sane : ¬ world.Faulty) (settings : Settings) :
    Explains verdict excuse world ((settings.config world).1 = .unwound) (settings.config world).2 := by
  refine .bind ?_ fun _ => .read _
  unfold Settings.allocatorRef
  rw [bind_apply]
  simp only [Act.read]
  cases settings.allocator.bind world.allocator? with
  | none => exact newAllocator_explains sane none none
  | some found => exact Explained.pure found world

theorem newCompiler_explained {compiler : Compiler} (label : Option String)
    (calm : ∀ request, compiler.panicsAt verdict request = false)
    (usable : ∀ state, compiler = .frontEnd state → state.poisoned = false) :
    Explained verdict excuse (newCompiler label compiler) :=
  .bind .freshSerial fun serial => .bind (fun _ => (Explains.compiler
    (fun request panics => by rw [calm] at panics; cases panics) fun _ => usable).recast
      (by simp [Act.change])) fun _ => .pure _

theorem MemoryCommand.run_explains {command : MemoryCommand}
    (operation : (Command.memory command).isOperation = true) (sane : ¬ world.Faulty) :
    Explains verdict excuse world ((command.run world world).1 = .unwound)
      (command.run world world).2 := by
  cases command with
  | rawAlloc name size alignment type => cases operation
  | rawFree name size type => cases operation
  | writeBuffer name start data => cases operation
  | makeAllocator into budget =>
      refine .bind (.bind (newAllocator_explains sane (some into) budget) fun _ => ?_) fun _ => .pure _
      exact keep_explained (some into) _
  | failNth name n =>
      suffices explained : Explained verdict excuse (run (.failNth name n) world) from explained world
      simp only [run]
      split
      · exact noObject_explained
      · next allocator _ =>
          refine silently_explained fun world => ?_
          have called := (world.allocators allocator.serial).failNth_called n
          have explains : Explains verdict excuse world False { world with
              allocators := world.allocators.set allocator.serial
                ((world.allocators allocator.serial).failNth n)
              trace := world.trace ++ [] } :=
            .called called (fun _ => rfl) id
          simpa [Session.failNth, Act.change] using explains
  | accounts name =>
      suffices explained : Explained verdict excuse (run (.accounts name) world) from explained world
      simp only [run]
      split
      · exact noObject_explained
      · exact .read _
  | makeBuffer into name size type =>
      suffices explained : Explained verdict excuse (run (.makeBuffer into name size type) world) from
        explained world
      simp only [run]
      split
      · exact noObject_explained
      · next allocator _ =>
          refine .bind (Buffer.zeroed_explained allocator size type) fun made => ?_
          cases made with
          | none => exact .pure _
          | some buffer => exact keepAndShow_explained into _
  | makeBase into name debug kind size info =>
      suffices explained : Explained verdict excuse
          (run (.makeBase into name debug kind size info) world) from explained world
      simp only [run]
      split
      · exact noObject_explained
      · next allocator _ =>
          exact .bind (Base.create_explained allocator debug kind size info) fun base =>
            keepAndShow_explained into (.base base)

theorem CompilerCommand.run_explained {command : CompilerCommand}
    (settled : (Command.compiler command).configures = false) :
    Explained (Command.compiler command).verdict? excuse (command.run world) := by
  cases command with
  | setMode name mode => cases settled
  | makeScripted into entryPoint =>
      refine silently_explained (.bind (newCompiler_explained _ (fun _ => rfl) ?_) fun _ =>
        keep_explained _ _)
      intro _ impossible
      cases impossible
  | makeFrontEnd into =>
      refine silently_explained (.bind (newCompiler_explained _ (fun request => ?_) ?_) fun _ =>
        keep_explained _ _)
      · exact Bool.and_false _
      · rintro _ ⟨rfl⟩
        rfl
  | state name =>
      simp only [run]
      split
      · exact noObject_explained
      · exact .pure _
  | makeProgram into name baseName code answer =>
      simp only [run]
      split
      · next compiler base _ _ =>
          refine .bind (.ofExcept _) fun request =>
            .bind (compiler.createProgram_explained base request answer) fun made => ?_
          cases made with
          | none => exact .pure _
          | some program => exact keepAndShow_explained into _
      · exact noObject_explained

theorem DeviceCommand.run_explains (command : DeviceCommand) (sane : ¬ world.Faulty) :
    Explains (Command.device command).verdict? excuse world ((command.run world world).1 = .unwound)
      (command.run world world).2 := by
  cases command with
  | describe settings onLines => exact .bind (config_explains sane settings) fun _ => .pure _
  | create into settings =>
      exact .bind (config_explains sane settings) fun _ =>
        .bind (Device.create_explained _) fun _ => keepAndShow_explained into _
  | select name info =>
      suffices explained : Explained none excuse (run (.select name info) world) from explained world
      simp only [run]
      split
      · exact noObject_explained
      · next device _ => exact .bind (Source.select_explained device info) fun _ => .pure _
  | createShader into name info answer =>
      suffices explained : Explained (some answer) excuse
          (run (.createShader into name info answer) world) from explained world
      simp only [run]
      split
      · exact noObject_explained
      · next device _ =>
          exact .bind (Shader.create_explained device info answer) fun _ => keepAndShow_explained into _
  | translate into name code =>
      suffices explained : Explained none excuse (run (.translate into name code) world) from
        explained world
      simp only [run]
      split
      · exact noObject_explained
      · next device _ =>
          exact .bind (Source.readBil_explained code) fun container =>
            .bind (Ir.translate_explained device.allocator container) fun _ =>
              keepAndShow_explained into _
  | compile into name baseName code answer =>
      suffices explained : Explained (some answer) excuse
          (run (.compile into name baseName code answer) world) from explained world
      simp only [run]
      split
      · next device base _ _ =>
          exact .bind (.ofExcept _) fun request =>
            .bind (Ir.compile_explained device base request answer) fun _ =>
              keepAndShow_explained into _
      · exact noObject_explained

theorem createShader_explained (call : CreationCall) (owner : Handle .device) (info : CreateInfo)
    (answer : Verdict) : Explained (some answer) excuse (createShader call owner info answer) := by
  have created : Explained (some answer) excuse _ :=
    EntryPoint.createShader_explained owner info answer
  cases call with
  | core => exact .bind created fun _ => .pure _
  | glsl => exact .bind created fun _ => .pure _
  | rawCore => exact .bind (EntryPoint.raw_explained created) fun _ => .pure _
  | rawGlsl => exact .bind (EntryPoint.raw_explained created) fun _ => .pure _

theorem CallCommand.run_explains {command : CallCommand}
    (settled : (Command.call command).configures = false) (sane : ¬ world.Faulty) :
    Explains (Command.call command).verdict? excuse world ((command.run world).1 = .unwound)
      (command.run world).2 := by
  cases command with
  | setLogger faults => cases settled
  | resetLogger environment => cases settled
  | startUp => exact silently_explained EntryPoint.startUp_explained world
  | shutdown => exact silently_explained EntryPoint.shutdown_explained world
  | shaderCount => exact Explained.read _ world
  | createDevice settings =>
      exact .bind (config_explains sane settings) fun config =>
        .bind (EntryPoint.createDevice_explained _) fun _ => .pure _
  | device into handle =>
      exact Explained.bind (EntryPoint.device_explained handle)
        (fun _ => keepAndShow_explained into _) world
  | destroyDevice handle => exact silently_explained (EntryPoint.destroyDevice_explained handle) world
  | createShader call owner info answer =>
      exact Explained.bind (createShader_explained call owner info answer) (fun _ => .pure _) world
  | shader into handle =>
      exact Explained.bind (EntryPoint.shader_explained handle)
        (fun _ => keepAndShow_explained into _) world
  | destroyObject handle => exact silently_explained (EntryPoint.destroyObject_explained handle) world
  | log record => exact silently_explained (.log record) world

theorem HeldCommand.run_explained (command : HeldCommand) :
    Explained verdict excuse (command.run world) := by
  cases command with
  | inspect name => exact .pure _
  | describe name onLines => exact .pure _
  | letGo name =>
      simp only [run]
      split
      · exact noObject_explained
      · next object _ =>
          refine silently_explained (.bind ?_ fun _ => object.letGo_explained)
          exact .change (fun _ => rfl) (fun _ => rfl) (fun _ => rfl) (fun _ _ _ panics => panics)
            fun _ sound => ⟨sound.parsers, sound.registries, sound.counters⟩

theorem Command.run_explains {command : Command} (operation : command.isOperation = true)
    (settled : command.configures = false) (sane : ¬ world.Faulty) :
    Explains command.verdict? excuse world ((command.run world).1 = .unwound)
      (command.run world).2 := by
  cases command with
  | memory command => exact command.run_explains operation sane
  | compiler command => exact CompilerCommand.run_explained settled world
  | device command => exact command.run_explains sane
  | call command => exact CallCommand.run_explains settled sane
  | held command => exact command.run_explained world

/-- Replacing the logger or the mode of a compiler cannot panic, and no lock or counter has a part in
it. -/
theorem Command.configures_run {command : Command} (configures : command.configures = true)
    (world : World) : (command.run world).1 ≠ .unwound ∧
      (command.run world).2.allocators = world.allocators ∧
      (world.Sound → (command.run world).2.Sound) := by
  cases command with
  | memory command => cases configures
  | device command => cases configures
  | held command => cases configures
  | call command =>
      cases command with
      | setLogger faults =>
          refine ⟨fun unwound => ?_, rfl, fun sound => ?_⟩
          · cases unwound
          · exact ⟨sound.parsers, sound.registries, sound.counters⟩
      | resetLogger environment =>
          refine ⟨fun unwound => ?_, rfl, fun sound => ?_⟩
          · cases unwound
          · exact ⟨sound.parsers, sound.registries, sound.counters⟩
      | _ => cases configures
  | compiler command =>
      cases command with
      | setMode name mode =>
          cases found : world.compiler? name with
          | none =>
              simp only [Command.run, CompilerCommand.run, found]
              exact ⟨(fun unwound => by cases unwound), rfl, id⟩
          | some compiler =>
              simp only [Command.run, CompilerCommand.run, found, Session.setMode]
              cases known : world.compilers compiler.serial with
              | frontEnd state => exact ⟨(fun unwound => by cases unwound), rfl, id⟩
              | scripted state =>
                  refine ⟨(fun unwound => by cases unwound), rfl, fun sound =>
                    ⟨fun serial parser same => ?_, sound.registries, sound.counters⟩⟩
                  by_cases own : serial = compiler.serial
                  · simp [own] at same
                  · exact sound.parsers serial parser (by simpa [own] using same)
      | _ => cases configures

end ShaderDriver.Session
