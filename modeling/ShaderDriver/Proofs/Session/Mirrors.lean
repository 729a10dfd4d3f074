import ShaderDriver.Proofs.EntryPoint.Mirrors
import ShaderDriver.Proofs.Session.Upsets

namespace ShaderDriver

open Memory Container Act

/-! Commands go on alike, as far as they look alike themselves. -/

variable {leeway : Leeway} {heap : Heap} {world image : World}

namespace World.Alike

variable (alike : world.Alike leeway heap image)

include alike

theorem watched : Alike leeway heap { world with trace := [] } { image with trace := [] } :=
  { alike with trace := rfl }

/-! What names in commands stand for. -/

theorem allocator? (name : String) : world.allocator? name = image.allocator? name := by
  unfold World.allocator?
  obtain ⟨here, there⟩ | ⟨object, other, here, there, same⟩ := option_alike (alike.held? name) <;>
    rw [here, there]
  cases Held.alike_of_seen same <;> rfl

theorem compiler? (name : String) : world.compiler? name = image.compiler? name := by
  unfold World.compiler?
  obtain ⟨here, there⟩ | ⟨object, other, here, there, same⟩ := option_alike (alike.held? name) <;>
    rw [here, there]
  cases Held.alike_of_seen same <;> rfl

theorem buffer? (name : String) : world.buffer? name = image.buffer? name := by
  unfold World.buffer?
  obtain ⟨here, there⟩ | ⟨object, other, here, there, same⟩ := option_alike (alike.held? name) <;>
    rw [here, there]
  cases Held.alike_of_seen same <;> rfl

theorem base? (name : String) :
    (world.base? name).map (Base.seen leeway) = (image.base? name).map (Base.seen leeway) := by
  unfold World.base?
  obtain ⟨here, there⟩ | ⟨object, other, here, there, same⟩ := option_alike (alike.held? name) <;>
    rw [here, there]
  cases Held.alike_of_seen same with
  | base like => exact congrArg some like
  | _ => rfl

theorem device? (name : String) :
    (world.device? name).map (Device.seen leeway) =
      (image.device? name).map (Device.seen leeway) := by
  unfold World.device?
  obtain ⟨here, there⟩ | ⟨object, other, here, there, same⟩ := option_alike (alike.held? name) <;>
    rw [here, there]
  cases Held.alike_of_seen same with
  | device like => exact congrArg some like
  | _ => rfl

theorem withoutName (name : String) :
    (world.withoutName name).Alike leeway heap (image.withoutName name) := by
  refine { alike with held := ?_ }
  have others (held : List (String × Held)) : (held.filter fun entry => entry.1 != name).map
      (Prod.map id (Held.seen leeway)) =
        (held.map (Prod.map id (Held.seen leeway))).filter fun entry => entry.1 != name := by
    rw [List.filter_map]
    rfl
  change (world.held.filter _).map _ = (image.held.filter _).map _
  rw [others, others, alike.held]

theorem hold (name : String) {object other : Held} (same : object.Alike leeway other) :
    (world.hold name object).Alike leeway heap (image.hold name other) := by
  refine { alike with held := ?_ }
  exact congrArg₂ List.cons (congrArg (name, ·) same.seen) (alike.withoutName name).held

end World.Alike

namespace Session

/-! What is looked at in commands and in what they answer. -/

def Settings.seen : Leeway → Settings → Settings
  | .loggers, settings => settings
  | .records, settings => { settings with debug := none }

def Command.seen (leeway : Leeway) : Command → Command
  | .device (.describe settings onLines) => .device (.describe (settings.seen leeway) onLines)
  | .device (.create into settings) => .device (.create into (settings.seen leeway))
  | .call (.createDevice settings) => .call (.createDevice (settings.seen leeway))
  | command => command

/-- The create info of which a command may keep a record. -/
def Command.record? : Command → Option (List UInt8)
  | .memory (.makeBase _ _ _ _ _ info) => info
  | .device (.createShader _ _ info _) => some info.code
  | .call (.createShader _ _ info _) => some info.code
  | _ => none

/-- The record fits where it is not looked at, and the logger has no faults if it is not. -/
structure Command.Suits (leeway : Leeway) (heap : Heap) (command : Command) : Prop where
  record : ∀ bytes, command.record? = some bytes → leeway.Fits heap bytes
  logger : ∀ faults, command = .call (.setLogger faults) →
    leeway.Loggers (.capturing faults) (.capturing faults)

/-- A text may show whether there are records. -/
def Value.seen (leeway : Leeway) : Value → Value
  | .text shown => .text (match leeway with | .loggers => shown | .records => "")
  | .accounts tracker => .accounts (tracker.seen leeway)
  | .object shown => .object (shown.seen leeway)
  | value => value

structure Answer.Alike (leeway : Leeway) (answer other : Answer) : Prop where
  exit : answer.exit.Matches (Option.map (Value.seen leeway)) other.exit
  events : answer.events.filterMap (Event.seen? leeway) = other.events.filterMap (Event.seen? leeway)

/-! Holding objects. -/

section

variable {object other : Held} (alike : object.Alike leeway other)

include alike

theorem keep_mirrors (into : Option String) :
    Echoes leeway heap (keep into object) (keep into other) := by
  cases into with
  | none => exact Held.letGo_mirrors alike
  | some name =>
      refine Mirrors.bind (.read fun world image same => same.held? name) fun before earlier known =>
        Mirrors.andThen (.change (fun _ => eased_of_same rfl rfl) (fun _ => eased_of_same rfl rfl)
          fun world image same => same.hold name alike) fun _ => ?_
      obtain ⟨rfl, rfl⟩ | ⟨first, second, rfl, rfl, like⟩ := option_alike known
      · exact .pure rfl
      · exact Held.letGo_mirrors (Held.alike_of_seen like)

theorem keepAndShow_mirrors (into : Option String) :
    Mirrors leeway heap (Option.map (Value.seen leeway)) (keepAndShow into object)
      (keepAndShow into other) :=
  (keep_mirrors alike into).andThen fun _ =>
    .pure (congrArg (fun seen => some (Value.object seen)) alike.seen)

end

/-! New allocators and compilers, and settings. A new allocator may take the place of an account that
was out of order, and so it comes first in a command. -/

theorem newAllocator_mimics (label : Option String) (allocator : Allocator) :
    Mimics leeway heap id (newAllocator label allocator) (newAllocator label allocator) := by
  intro world image alike _ _
  refine ⟨.done (congrArg (fun serial => AllocatorRef.mk serial label) alike.nextSerial), ?_⟩
  refine { alike with nextSerial := congrArg (· + 1) alike.nextSerial, allocators := fun other => ?_ }
  change (world.allocators.set world.nextSerial allocator other).seen leeway =
    (image.allocators.set image.nextSerial allocator other).seen leeway
  rw [alike.nextSerial]
  by_cases own : other = image.nextSerial
  · rw [own, Cells.set_self, Cells.set_self]
  · rw [Cells.set_other _ _ own, Cells.set_other _ _ own]
    exact alike.allocators other

theorem newCompiler_mirrors (label : Option String) (compiler : Compiler) :
    Echoes leeway heap (newCompiler label compiler) (newCompiler label compiler) :=
  Mirrors.freshSerial.andThen fun serial =>
    Mirrors.andThen (.compilers fun compilers => compilers.set serial compiler) fun _ => .pure rfl

section

variable {settings other : Settings} (same : settings.seen leeway = other.seen leeway)

include same

theorem Settings.allocatorRef_mimics :
    Mimics leeway heap id settings.allocatorRef other.allocatorRef := by
  have name : settings.allocator = other.allocator := by
    cases leeway
    · exact congrArg Settings.allocator same
    · exact congrArg (fun seen => seen.allocator) same
  intro world image alike easy fine
  have found : settings.allocator.bind world.allocator? = other.allocator.bind image.allocator? := by
    rw [name]
    exact congrArg other.allocator.bind (funext alike.allocator?)
  have ran (settings : Settings) (world : World) : settings.allocatorRef world =
      (settings.allocator.bind world.allocator?).elim
        (newAllocator none (.tracking (.withBudget none))) pure world := by
    unfold Settings.allocatorRef
    rw [bind_apply]
    simp only [Act.read]
    cases settings.allocator.bind world.allocator? <;> rfl
  rw [ran, found] at easy ⊢
  rw [ran] at fine ⊢
  cases chosen : other.allocator.bind image.allocator? with
  | none =>
      rw [chosen] at easy fine
      exact newAllocator_mimics none _ world image alike easy fine
  | some allocator => exact ⟨.done rfl, alike⟩

theorem Settings.config_mimics :
    Mimics leeway heap (DeviceConfig.seen leeway) settings.config other.config := by
  refine (Settings.allocatorRef_mimics same).bind fun allocator echo known => .read
    fun world image alike => ?_
  obtain rfl : allocator = echo := known
  have compilers : world.compiler? = image.compiler? := funext alike.compiler?
  cases leeway with
  | loggers =>
      obtain rfl : settings = other := same
      rw [compilers]
  | records =>
      have extensions : settings.extensions = other.extensions :=
        congrArg (fun seen => seen.extensions) same
      have name : settings.gpuName = other.gpuName := congrArg (fun seen => seen.gpuName) same
      have compiler : settings.compiler = other.compiler := congrArg (fun seen => seen.compiler) same
      simp only [DeviceConfig.seen, Leeway.flag, extensions, name, compiler, compilers]

end

/-! Commands, with the names in them those of worlds that look alike. -/

/-- What a command answers looks the same. -/
abbrev Replies (leeway : Leeway) (heap : Heap) (act other : Act (Option Value)) : Prop :=
  Mimics leeway heap (Option.map (Value.seen leeway)) act other

theorem silently_replies {act other : Act Unit} (alike : Mimics leeway heap id act other) :
    Replies leeway heap (silently act) (silently other) :=
  alike.bind fun _ _ _ => .pure rfl

theorem noObject_replies : Replies leeway heap noObject noObject :=
  (Mirrors.pure rfl).mimics

theorem setMode_mirrors (self : CompilerRef) (mode : Mode) :
    Echoes leeway heap (setMode self mode) (setMode self mode) := by
  have same (world : World) : (setMode self mode world).2.allocators = world.allocators ∧
      (setMode self mode world).2.trace = world.trace := by
    unfold setMode
    split <;> exact ⟨rfl, rfl⟩
  refine ⟨fun world => eased_of_same (same world).1 (same world).2,
    fun world => eased_of_same (same world).1 (same world).2, fun world image alike _ _ => ?_⟩
  unfold setMode
  rw [alike.compilers]
  split
  · exact ⟨.done rfl, { alike with compilers := rfl }⟩
  · exact ⟨.done rfl, alike⟩

theorem failNth_mimics (allocator : AllocatorRef) (n : Nat) :
    Mimics leeway heap id (failNth allocator n) (failNth allocator n) := by
  intro world image alike _ _
  refine ⟨.done rfl, { alike with allocators := fun serial => ?_ }⟩
  change (world.allocators.set allocator.serial _ serial).seen leeway =
    (image.allocators.set allocator.serial _ serial).seen leeway
  by_cases own : serial = allocator.serial
  · have same := alike.allocators allocator.serial
    rw [own, Cells.set_self, Cells.set_self]
    cases leeway with
    | loggers => exact congrArg (Allocator.failNth · n) same
    | records =>
        exact (Allocator.failNth_withoutRecords n).trans
          (same.trans (Allocator.failNth_withoutRecords n).symm)
  · rw [Cells.set_other _ _ own, Cells.set_other _ _ own]
    exact alike.allocators serial

section

variable (alike : world.Alike leeway heap image)

include alike

theorem accounts_alike (allocator : AllocatorRef) :
    (accounts allocator world).map (Value.seen leeway) =
      (accounts allocator image).map (Value.seen leeway) := by
  have same := alike.allocators allocator.serial
  unfold accounts
  cases leeway with
  | loggers =>
      have known : world.allocators allocator.serial = image.allocators allocator.serial := same
      rw [known]
  | records =>
      cases here : world.allocators allocator.serial <;>
        cases there : image.allocators allocator.serial <;>
        simp only [here, there, Allocator.seen, Allocator.withoutRecords, reduceCtorEq,
          Allocator.tracking.injEq] at same
      · exact congrArg (fun seen => some (Value.accounts seen)) same
      · rfl

theorem MemoryCommand.run_replies (command : MemoryCommand)
    (suits : (Command.memory command).Suits leeway heap) :
    Replies leeway heap (command.run world) (command.run image) := by
  cases command with
  | makeAllocator into budget =>
      refine silently_replies ((newAllocator_mimics _ _).bind fun made echo same => ?_)
      cases same
      exact keep_mirrors (.same _) _
  | rawAlloc name size alignment type =>
      simp only [MemoryCommand.run, alike.allocator?]
      split
      · exact noObject_replies
      · next allocator _ =>
          exact ((allocator.request_mirrors _ _ _).andThen fun granted => .pure rfl).mimics
  | rawFree name size type =>
      simp only [MemoryCommand.run, alike.allocator?]
      split
      · exact noObject_replies
      · exact silently_replies (Allocation.release_mirrors _).mimics
  | failNth name n =>
      simp only [MemoryCommand.run, alike.allocator?]
      split
      · exact noObject_replies
      · exact silently_replies (failNth_mimics _ n)
  | accounts name =>
      simp only [MemoryCommand.run, alike.allocator?]
      split
      · exact noObject_replies
      · exact (Mirrors.read fun world image same => accounts_alike same _).mimics
  | makeBuffer into name size type =>
      simp only [MemoryCommand.run, alike.allocator?]
      split
      · exact noObject_replies
      · refine ((Buffer.zeroed_mirrors _ size type).andThen fun made => ?_).mimics
        cases made with
        | none => exact .pure rfl
        | some buffer => exact keepAndShow_mirrors (.same _) _
  | writeBuffer name start data =>
      simp only [MemoryCommand.run, alike.buffer?]
      split
      · exact noObject_replies
      · next buffer _ =>
          refine ((buffer.write_mirrors start data).andThen fun written => Mirrors.andThen ?_
            fun _ => .pure rfl).mimics
          exact .change (fun _ => eased_of_same rfl rfl) (fun _ => eased_of_same rfl rfl)
            fun world image same => same.hold name (.same _)
  | makeBase into name debug kind size info =>
      simp only [MemoryCommand.run, alike.allocator?]
      split
      · exact noObject_replies
      · exact ((Base.create_mirrors rfl size suits.record).bind fun base echo same =>
          keepAndShow_mirrors (.base same) _).mimics

theorem CompilerCommand.run_replies (command : CompilerCommand) :
    Replies leeway heap (command.run world) (command.run image) := by
  cases command with
  | makeScripted into entryPoint =>
      exact silently_replies ((newCompiler_mirrors _ _).andThen fun made =>
        keep_mirrors (.same _) _).mimics
  | makeFrontEnd into =>
      exact silently_replies ((newCompiler_mirrors _ _).andThen fun made =>
        keep_mirrors (.same _) _).mimics
  | setMode name mode =>
      simp only [CompilerCommand.run, alike.compiler?]
      split
      · exact noObject_replies
      · exact ((setMode_mirrors _ mode).recast fun _ _ same => congrArg _ same).mimics
  | state name =>
      simp only [CompilerCommand.run, alike.compiler?, alike.compilers]
      split
      · exact noObject_replies
      · exact (Mirrors.pure rfl).mimics
  | makeProgram into name baseName code verdict =>
      simp only [CompilerCommand.run, alike.compiler?]
      obtain ⟨here, there⟩ | ⟨base, echo, here, there, same⟩ := option_alike (alike.base? baseName)
      · rw [here, there]
        cases image.compiler? name <;> exact noObject_replies
      · rw [here, there]
        cases image.compiler? name with
        | none => exact noObject_replies
        | some compiler =>
            refine (Mirrors.andThen (.ofExcept _) fun request =>
              (compiler.createProgram_mirrors same request verdict).andThen fun made => ?_).mimics
            cases made with
            | none => exact .pure rfl
            | some program => exact keepAndShow_mirrors (.same _) _

/-! Commands for devices, with settings that look alike. -/

omit alike in
theorem describe_replies {settings other : Settings} (same : settings.seen leeway = other.seen leeway)
    (onLines : Bool) :
    Replies leeway heap (Command.device (.describe settings onLines)).run
      (Command.device (.describe other onLines)).run := by
  refine (Settings.config_mimics same).bind fun config echo known => .pure ?_
  cases leeway with
  | loggers =>
      obtain rfl : config = echo := known
      rfl
  | records => simp only [Option.map_some, Value.seen]

omit alike in
theorem create_replies {settings other : Settings} (same : settings.seen leeway = other.seen leeway)
    (into : Option String) :
    Replies leeway heap (Command.device (.create into settings)).run
      (Command.device (.create into other)).run :=
  (Settings.config_mimics same).bind fun _ _ known =>
    (Device.create_mirrors known).bind fun _ _ like => keepAndShow_mirrors (.device like) _

omit alike in
theorem createDevice_replies {settings other : Settings}
    (same : settings.seen leeway = other.seen leeway) :
    Replies leeway heap (CallCommand.createDevice settings).run (CallCommand.createDevice other).run :=
  (Settings.config_mimics same).bind fun _ _ known =>
    (EntryPoint.createDevice_mirrors known).andThen fun _ => .pure rfl

theorem DeviceCommand.run_replies (command : DeviceCommand)
    (suits : (Command.device command).Suits leeway heap) :
    Replies leeway heap (command.run world) (command.run image) := by
  cases command with
  | describe settings onLines => exact describe_replies rfl onLines
  | create into settings => exact create_replies rfl into
  | select name info =>
      simp only [DeviceCommand.run]
      obtain ⟨here, there⟩ | ⟨device, echo, here, there, same⟩ := option_alike (alike.device? name) <;>
        rw [here, there]
      · exact noObject_replies
      · exact ((Source.select_mirrors same info).andThen fun source => .pure rfl).mimics
  | createShader into name info verdict =>
      simp only [DeviceCommand.run]
      obtain ⟨here, there⟩ | ⟨device, echo, here, there, same⟩ := option_alike (alike.device? name) <;>
        rw [here, there]
      · exact noObject_replies
      · exact ((Shader.create_mirrors same (suits.record _ rfl) verdict).bind
          fun shader other like => keepAndShow_mirrors (.shader like) _).mimics
  | translate into name code =>
      simp only [DeviceCommand.run]
      obtain ⟨here, there⟩ | ⟨device, echo, here, there, same⟩ := option_alike (alike.device? name) <;>
        rw [here, there]
      · exact noObject_replies
      · have allocator : device.allocator = echo.allocator :=
          congrArg (fun seen => seen.allocator) same
        simp only [allocator]
        exact ((Source.readBil_mirrors code).andThen fun container =>
          (Ir.translate_mirrors _ container).andThen fun ir => keepAndShow_mirrors (.same _) _).mimics
  | compile into name baseName code verdict =>
      simp only [DeviceCommand.run]
      obtain ⟨here, there⟩ | ⟨device, echo, here, there, same⟩ :=
        option_alike (alike.device? name) <;> rw [here, there]
      · exact noObject_replies
      · obtain ⟨left, right⟩ | ⟨base, other, left, right, based⟩ :=
          option_alike (alike.base? baseName) <;> rw [left, right]
        · exact noObject_replies
        · exact (Mirrors.andThen (.ofExcept _) fun request =>
            (Ir.compile_mirrors based request verdict same).andThen fun ir =>
              keepAndShow_mirrors (.same _) _).mimics

omit alike in
theorem createShader_mirrors (call : CreationCall) (owner : Handle .device) {info : CreateInfo}
    (fits : leeway.Fits heap info.code) (verdict : Verdict) :
    Echoes leeway heap (createShader call owner info verdict)
      (createShader call owner info verdict) := by
  have made := EntryPoint.createShader_mirrors owner fits verdict
  cases call with
  | core => exact made.andThen fun _ => .pure rfl
  | glsl => exact made.andThen fun _ => .pure rfl
  | rawCore => exact (EntryPoint.raw_mirrors made).andThen fun _ => .pure rfl
  | rawGlsl => exact (EntryPoint.raw_mirrors made).andThen fun _ => .pure rfl

omit alike in
theorem CallCommand.run_replies (command : CallCommand)
    (suits : (Command.call command).Suits leeway heap) :
    Replies leeway heap command.run command.run := by
  cases command with
  | startUp => exact silently_replies EntryPoint.startUp_mirrors.mimics
  | shutdown => exact silently_replies EntryPoint.shutdown_mirrors.mimics
  | shaderCount =>
      refine (Mirrors.read fun world image alike => ?_).mimics
      rw [EntryPoint.shaderCount_alike alike]
  | createDevice settings => exact createDevice_replies rfl
  | device into handle =>
      exact ((EntryPoint.device_mirrors handle).bind fun device other same =>
        keepAndShow_mirrors (.device same) _).mimics
  | destroyDevice handle => exact silently_replies (EntryPoint.destroyDevice_mirrors handle).mimics
  | createShader call owner info verdict =>
      exact ((createShader_mirrors call owner (suits.record _ rfl) verdict).andThen
        fun value => .pure rfl).mimics
  | shader into handle =>
      exact ((EntryPoint.shader_mirrors handle).bind fun shader other same =>
        keepAndShow_mirrors (.shader same) _).mimics
  | destroyObject handle => exact silently_replies (EntryPoint.destroyObject_mirrors handle).mimics
  | log record => exact silently_replies (Mirrors.log record).mimics
  | setLogger faults =>
      exact silently_replies (EntryPoint.setLogger_mirrors (suits.logger faults rfl)).mimics
  | resetLogger environment =>
      exact silently_replies (EntryPoint.setLogger_mirrors (leeway.loggers_console _)).mimics

/-- The text about an object tells of all that is looked at, or not even that there are records. -/
theorem outline_alike {object other : Held} (same : object.seen leeway = other.seen leeway)
    (onLines : Bool) :
    ((outline? world object).map fun outline => Value.text (layOut onLines outline)).map
        (Value.seen leeway) =
      ((outline? image other).map fun outline => Value.text (layOut onLines outline)).map
        (Value.seen leeway) := by
  have compilers : outline? world = outline? image := by
    funext object
    cases object <;> simp only [outline?, alike.compilers]
  rw [compilers]
  cases leeway with
  | loggers =>
      rw [Held.seen_loggers, Held.seen_loggers] at same
      rw [same]
  | records =>
      cases Held.alike_of_seen same with
      | same _ => rfl
      | _ => simp only [outline?, Option.map_some, Value.seen]

theorem HeldCommand.run_replies (command : HeldCommand) :
    Replies leeway heap (command.run world) (command.run image) := by
  cases command with
  | inspect name =>
      refine (Mirrors.pure ?_).mimics
      obtain ⟨here, there⟩ | ⟨object, other, here, there, same⟩ := option_alike (alike.held? name) <;>
        rw [here, there]
      cases Held.alike_of_seen same with
      | same _ => rfl
      | _ => exact congrArg (fun seen => some (Value.object seen)) same
  | describe name onLines =>
      refine (Mirrors.pure ?_).mimics
      obtain ⟨here, there⟩ | ⟨object, other, here, there, same⟩ := option_alike (alike.held? name) <;>
        rw [here, there]
      · rfl
      · exact outline_alike alike same onLines
  | letGo name =>
      simp only [HeldCommand.run]
      obtain ⟨here, there⟩ | ⟨object, other, here, there, same⟩ := option_alike (alike.held? name) <;>
        rw [here, there]
      · exact noObject_replies
      · refine silently_replies (Mirrors.andThen ?_ fun _ =>
          Held.letGo_mirrors (Held.alike_of_seen same)).mimics
        exact .change (fun _ => eased_of_same rfl rfl) (fun _ => eased_of_same rfl rfl)
          fun world image alike => alike.withoutName name

end

/-- Commands that look alike are the same, or differ in settings. -/
inductive Command.Alike (leeway : Leeway) : Command → Command → Prop where
  | same (command : Command) : Alike leeway command command
  | describe {settings other : Settings} (alike : settings.seen leeway = other.seen leeway)
      (onLines : Bool) :
      Alike leeway (.device (.describe settings onLines)) (.device (.describe other onLines))
  | create {settings other : Settings} (alike : settings.seen leeway = other.seen leeway)
      (into : Option String) :
      Alike leeway (.device (.create into settings)) (.device (.create into other))
  | createDevice {settings other : Settings} (alike : settings.seen leeway = other.seen leeway) :
      Alike leeway (.call (.createDevice settings)) (.call (.createDevice other))

namespace Command

variable {command other third : Command}

theorem Alike.symm (alike : command.Alike leeway other) : other.Alike leeway command := by
  cases alike with
  | same => exact .same _
  | describe alike onLines => exact .describe alike.symm onLines
  | create alike into => exact .create alike.symm into
  | createDevice alike => exact .createDevice alike.symm

theorem Alike.trans (first : command.Alike leeway other) (second : other.Alike leeway third) :
    command.Alike leeway third := by
  cases first with
  | same => exact second
  | describe first onLines =>
      cases second with
      | same => exact .describe first onLines
      | describe second => exact .describe (first.trans second) onLines
  | create first into =>
      cases second with
      | same => exact .create first into
      | create second => exact .create (first.trans second) into
  | createDevice first =>
      cases second with
      | same => exact .createDevice first
      | createDevice second => exact .createDevice (first.trans second)

theorem alike_seen (command : Command) : command.Alike leeway (command.seen leeway) := by
  have again (settings : Settings) : settings.seen leeway = (settings.seen leeway).seen leeway := by
    cases leeway <;> rfl
  unfold seen
  split
  · exact .describe (again _) _
  · exact .create (again _) _
  · exact .createDevice (again _)
  · exact .same _

theorem alike_of_seen (same : command.seen leeway = other.seen leeway) :
    command.Alike leeway other :=
  command.alike_seen.trans (same ▸ other.alike_seen.symm)

end Command

theorem Command.run_replies {command other : Command} (same : command.seen leeway = other.seen leeway)
    (suits : command.Suits leeway heap) :
    Replies leeway heap command.run other.run := by
  intro world image alike easy fine
  cases Command.alike_of_seen same with
  | describe settled onLines => exact describe_replies settled onLines world image alike easy fine
  | create settled into => exact create_replies settled into world image alike easy fine
  | createDevice settled => exact createDevice_replies settled world image alike easy fine
  | same =>
      cases command with
      | memory command => exact command.run_replies alike suits world image alike easy fine
      | compiler command => exact command.run_replies alike world image alike easy fine
      | device command => exact command.run_replies alike suits world image alike easy fine
      | call command => exact command.run_replies suits world image alike easy fine
      | held command => exact command.run_replies alike world image alike easy fine

/-- Commands that look alike have answers that do, and leave worlds that do. -/
theorem step_alike {command other : Command}
    (alike : World.Alike leeway heap { world with trace := [] } { image with trace := [] })
    (same : command.seen leeway = other.seen leeway)
    (suits : command.Suits leeway heap)
    (easy : (step world command).2.Eased leeway) (fine : (step image other).2.Eased leeway) :
    (step world command).1.Alike leeway (step image other).1 ∧
      (step world command).2.Alike leeway heap (step image other).2 := by
  obtain ⟨exit, left⟩ := Command.run_replies same suits _ _ alike easy fine
  exact ⟨⟨exit, left.trace⟩, left⟩

end Session

end ShaderDriver
