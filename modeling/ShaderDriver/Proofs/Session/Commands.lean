import ShaderDriver.Proofs.Session.Registered

namespace ShaderDriver

open Memory Container Act

/-! Every command keeps the balance between references and the account of an allocator, unless it
asks that allocator for memory on its own. -/

namespace Session

/-- The allocator that a command turns to on its own, and not through a device or a shader. -/
def Command.touches? (world : World) : Command → Option Nat
  | .memory (.rawAlloc name _ _ _) => (world.allocator? name).map AllocatorRef.serial
  | .memory (.rawFree name _ _) => (world.allocator? name).map AllocatorRef.serial
  | .memory (.makeBuffer _ name _ _) => (world.allocator? name).map AllocatorRef.serial
  | .memory (.makeBase _ name _ _ _ _) => (world.allocator? name).map AllocatorRef.serial
  | .device (.translate _ name _) => (world.device? name).map fun device => device.allocator.serial
  | .device (.compile _ name _ _ _) => (world.device? name).map fun device => device.allocator.serial
  | _ => none

/-- The command is carried out by the driver: it neither turns to an allocator as an application can,
nor writes into a buffer. -/
def Command.isOperation : Command → Bool
  | .memory (.rawAlloc _ _ _ _) => false
  | .memory (.rawFree _ _ _) => false
  | .memory (.writeBuffer _ _ _) => false
  | _ => true

/-- An allocator is touched only through devices and shaders while the commands are carried out. -/
def spares (serial : Nat) : World → List Command → Bool
  | _, [] => true
  | world, command :: rest =>
      command.touches? world != some serial && spares serial (step world command).2 rest

/-- No run touches more than finitely many allocators. -/
theorem exists_spared (world : World) (commands : List Command) :
    ∃ bound, ∀ serial, bound ≤ serial → spares serial world commands = true := by
  induction commands generalizing world with
  | nil => exact ⟨0, fun _ _ => rfl⟩
  | cons command rest ih =>
      obtain ⟨bound, later⟩ := ih (step world command).2
      cases touched : command.touches? world with
      | none =>
          refine ⟨bound, fun serial large => ?_⟩
          rw [spares, touched, later serial large]
          rfl
      | some allocator =>
          refine ⟨max bound (allocator + 1), fun serial large => ?_⟩
          have beyond : (some allocator != some serial) = true := by
            rw [bne_iff_ne, ne_eq, Option.some.injEq]
            omega
          rw [spares, touched, later serial (by omega), beyond]
          rfl

end Session

namespace World

variable {world after : World} {serial : Nat} {object : Held} {name : String}

theorem mem_of_held (found : world.held? name = some object) : object ∈ world.references := by
  obtain ⟨front, back, held, _⟩ := List.lookup_eq_some_iff.mp found
  rw [references, held]
  simp

theorem held_of_allocator {allocator : AllocatorRef} (found : world.allocator? name = some allocator) :
    world.held? name = some (.allocator allocator) := by
  unfold allocator? at found
  split at found
  · next held =>
      cases found
      exact held
  · cases found

theorem held_of_buffer {buffer : Buffer} (found : world.buffer? name = some buffer) :
    world.held? name = some (.buffer buffer) := by
  unfold buffer? at found
  split at found
  · next held =>
      cases found
      exact held
  · cases found

theorem held_of_device {device : Device} (found : world.device? name = some device) :
    world.held? name = some (.device device) := by
  unfold device? at found
  split at found
  · next held =>
      cases found
      exact held
  · cases found

theorem Keeps.fits (keeps : world.Keeps serial 0) (member : object ∈ world.references) :
    object.Fits serial world.nextSerial :=
  keeps.consistent.fits object (Multiset.mem_add.mpr (.inr member))

theorem other_of_spared {α : Type} {found : Option α} {value : α} {view : α → Nat}
    (present : found = some value) (spared : found.map view ≠ some serial) : view value ≠ serial := by
  rw [present] at spared
  exact fun same => spared (congrArg some same)

end World

theorem Session.newCompiler_moves (label : Option String) (compiler : Compiler) :
    (Session.newCompiler label compiler).Idle :=
  Moves.freshSerial.bind fun _ => .afterChange (fun _ => ⟨_, rfl⟩) (.idle _)

namespace Upkeep

open World

variable {spare : Nat} {kept : World → Multiset Held → Prop} (upkeep : Upkeep spare kept)
  {world : World}

include upkeep

theorem allocatorRef (start : kept world 0)
    (renewed : ∀ label budget,
      kept (Session.newAllocator label (.tracking (.withBudget budget)) world).2 0)
    (settings : Session.Settings) :
    ∃ allocator after, settings.allocatorRef world = (.done allocator, after) ∧ kept after 0 ∧
      allocator.serial < after.nextSerial := by
  cases found : settings.allocator.bind world.allocator? with
  | none =>
      have ran : settings.allocatorRef world =
          Session.newAllocator none (.tracking (.withBudget none)) world := by
        unfold Session.Settings.allocatorRef
        rw [bind_apply]
        simp only [Act.read, found]
      exact ⟨_, _, ran, renewed none none, Nat.lt_succ_self _⟩
  | some allocator =>
      have ran : settings.allocatorRef world = (.done allocator, world) := by
        unfold Session.Settings.allocatorRef
        rw [bind_apply]
        simp only [Act.read, found]
        rfl
      obtain ⟨name, _, held⟩ := Option.bind_eq_some_iff.mp found
      exact ⟨allocator, world, ran, start,
        (upkeep.keeps start).fits (mem_of_held (held_of_allocator held))⟩

theorem config (start : kept world 0)
    (renewed : ∀ label budget,
      kept (Session.newAllocator label (.tracking (.withBudget budget)) world).2 0)
    (settings : Session.Settings) :
    ∃ config after, settings.config world = (.done config, after) ∧ kept after 0 ∧
      config.allocator.serial < after.nextSerial := by
  obtain ⟨allocator, after, ran, settled, known⟩ := upkeep.allocatorRef start renewed settings
  let standard := DeviceConfig.standard allocator
  refine ⟨{ standard with
    extensions := settings.extensions.getD standard.extensions
    debug := settings.debug.getD standard.debug
    gpuName := settings.gpuName.getD standard.gpuName
    compiler := settings.compiler.bind after.compiler? }, after, ?_, settled, known⟩
  unfold Session.Settings.config
  rw [bind_done ran]
  rfl

theorem makeBuffer (start : kept world 0) {allocator : AllocatorRef}
    (other : allocator.serial ≠ spare) (into : Option String) (size : Nat) (type : AllocType) :
    kept ((do
      match ← Buffer.zeroed allocator size type with
      | none => pure (some .nothing)
      | some buffer => Session.keepAndShow into (.buffer buffer) : Act (Option Session.Value))
        world).2 0 := by
  have moves := Buffer.zeroed_moves allocator size type
  refine upkeep.proceed start moves.reverts fun {answer after} ran => ?_
  cases answer with
  | none => exact upkeep.gainNothing start moves ran rfl
  | some buffer =>
      have pending : kept after {.buffer buffer} := by
        refine upkeep.gain start moves ran rfl ?_ (Held.fresh_of_plain rfl _)
        rw [Buffer.zeroed_eq_done ran]
        exact other
      exact upkeep.keepAndShow pending into

theorem makeProgram (start : kept world 0) (compiler : CompilerRef) (base : Base)
    (request : Glsl.Request) (verdict : Verdict) (into : Option String) :
    kept ((do
      match ← compiler.createProgram base request verdict with
      | none => pure (some .nothing)
      | some program => Session.keepAndShow into (.program program) : Act (Option Session.Value))
        world).2 0 := by
  have moves := compiler.createProgram_moves base request verdict
  refine upkeep.proceed start moves.reverts fun {answer after} ran => ?_
  cases answer with
  | none => exact upkeep.gainNothing start moves ran rfl
  | some program =>
      have pending : kept after {.program program} :=
        upkeep.gain start moves ran rfl trivial (Held.fresh_of_plain rfl _)
      exact upkeep.keepAndShow pending into

/-- The operations that turn to an allocator by its name. -/
theorem memory (start : kept world 0)
    (renewed : ∀ label budget,
      kept (Session.newAllocator label (.tracking (.withBudget budget)) world).2 0)
    {command : Session.MemoryCommand}
    (untouched : Session.Command.touches? world (.memory command) ≠ some spare)
    (operation : (Session.Command.memory command).isOperation = true) :
    kept (command.run world world).2 0 := by
  cases command with
  | rawAlloc name size alignment type => cases operation
  | rawFree name size type => cases operation
  | writeBuffer name start data => cases operation
  | makeAllocator into budget =>
      simp only [Session.MemoryCommand.run, Session.silently_world]
      refine bind_keeps (fun after => kept after 0) (renewed (some into) budget)
        fun made after ran settled => ?_
      cases ran
      exact upkeep.keep (upkeep.know settled (Nat.lt_succ_self _) rfl rfl) (some into)
  | failNth name n =>
      cases found : world.allocator? name with
      | none =>
          simp only [Session.MemoryCommand.run, found]
          exact start
      | some allocator =>
          simp only [Session.MemoryCommand.run, found, Session.silently_world]
          exact upkeep.failNth start allocator n
  | accounts name =>
      cases found : world.allocator? name with
      | none =>
          simp only [Session.MemoryCommand.run, found]
          exact start
      | some allocator =>
          simp only [Session.MemoryCommand.run, found]
          exact start
  | makeBuffer into name size type =>
      cases found : world.allocator? name with
      | none =>
          simp only [Session.MemoryCommand.run, found]
          exact start
      | some allocator =>
          simp only [Session.MemoryCommand.run, found]
          exact upkeep.makeBuffer start (other_of_spared found untouched) into size type
  | makeBase into name debug kind size info =>
      cases found : world.allocator? name with
      | none =>
          simp only [Session.MemoryCommand.run, found]
          exact start
      | some allocator =>
          simp only [Session.MemoryCommand.run, found]
          have other := other_of_spared found untouched
          refine upkeep.deliver start (Base.create_moves allocator debug kind size info) into Held.base
            (fun _ => rfl) fun ran => ?_
          refine ⟨⟨allocator, ?_, other⟩, Held.fresh_of_plain rfl _⟩
          rw [Base.create_eq_done ran]
          exact Base.made_in allocator debug kind size info

theorem makeCompiler (start : kept world 0) (label : Option String) (compiler : Compiler)
    (into : String) :
    kept (Session.silently (do
      let made ← Session.newCompiler label compiler
      Session.keep (some into) (.compiler made)) world).2 0 := by
  rw [Session.silently_world]
  refine bind_keeps (fun after => kept after 0)
    (upkeep.idle start (Session.newCompiler_moves label compiler)) fun made after _ settled => ?_
  have pending : kept after {.compiler made} := upkeep.know settled trivial rfl rfl
  exact upkeep.keep pending (some into)

theorem compiler (start : kept world 0) (command : Session.CompilerCommand) :
    kept (command.run world world).2 0 := by
  cases command with
  | makeScripted into entryPoint => exact upkeep.makeCompiler start (some into) _ into
  | makeFrontEnd into => exact upkeep.makeCompiler start none _ into
  | setMode name mode =>
      cases found : world.compiler? name with
      | none =>
          simp only [Session.CompilerCommand.run, found]
          exact start
      | some compiler =>
          simp only [Session.CompilerCommand.run, found, Session.setMode]
          cases state : world.compilers compiler.serial with
          | frontEnd _ => exact start
          | scripted scripted =>
              let changed (earlier : World) : World :=
                { earlier with
                  compilers := earlier.compilers.set compiler.serial
                    (.scripted { scripted with mode }) }
              have idle : (Act.change changed).Idle := .change fun _ => ⟨_, rfl⟩
              have settled : kept (Act.change changed world).2 0 := upkeep.idle start idle
              exact settled
  | state name =>
      cases found : world.compiler? name with
      | none =>
          simp only [Session.CompilerCommand.run, found]
          exact start
      | some compiler =>
          simp only [Session.CompilerCommand.run, found]
          exact start
  | makeProgram into name baseName code verdict =>
      cases found : world.compiler? name with
      | none =>
          simp only [Session.CompilerCommand.run, found]
          exact start
      | some compiler =>
          cases based : world.base? baseName with
          | none =>
              simp only [Session.CompilerCommand.run, found, based]
              exact start
          | some base =>
              simp only [Session.CompilerCommand.run, found, based]
              refine bind_keeps (fun after => kept after 0) (upkeep.idle start (.ofExcept _))
                fun request after _ settled => ?_
              exact upkeep.makeProgram settled compiler base request verdict into

theorem makeShader (start : kept world 0) {device : Device}
    (known : device.allocator.serial < world.nextSerial) (info : CreateInfo) (verdict : Verdict)
    (into : Option String) :
    kept ((Shader.create device info verdict >>= fun shader =>
      Session.keepAndShow into (.shader shader)) world).2 0 := by
  have moves := Shader.create_moves device info verdict
  refine upkeep.deliver start moves into Held.shader (fun _ => rfl) fun ran => ?_
  obtain ⟨made, least, most⟩ := Shader.create_eq_done ran
  refine ⟨⟨⟨device, info, made⟩, ?_, most⟩, ?_⟩
  · rw [made.allocator]
    exact Nat.lt_of_lt_of_le known (moves.retained ran).serials
  · rintro kind id ⟨rfl⟩
    exact least

theorem makeDevice (start : kept world 0) {config : DeviceConfig}
    (known : config.allocator.serial < world.nextSerial) (into : Option String) :
    kept ((Device.create config >>= fun device =>
      Session.keepAndShow into (.device device)) world).2 0 := by
  have moves := Device.create_moves config
  refine upkeep.deliver start moves into Held.device (fun _ => rfl) fun ran => ?_
  obtain ⟨made, least, most⟩ := Device.create_eq_done ran
  refine ⟨⟨⟨config, made⟩, ?_, most⟩, ?_⟩
  · rw [made.allocator]
    exact Nat.lt_of_lt_of_le known (moves.retained ran).serials
  · rintro kind id ⟨rfl⟩
    exact least

theorem makeIr {act : Act Ir} {allocator : AllocatorRef} (start : kept world 0)
    (moves : act.Moves 0 Ir.assets) (other : allocator.serial ≠ spare)
    (made : ∀ {ir after}, act world = (.done ir, after) → ir.In allocator) (into : Option String) :
    kept ((act >>= fun ir => Session.keepAndShow into (.ir ir)) world).2 0 :=
  upkeep.deliver start moves into Held.ir (fun _ => rfl) fun ran =>
    ⟨⟨allocator, made ran, other⟩, Held.fresh_of_plain rfl _⟩

theorem device (start : kept world 0)
    (renewed : ∀ label budget,
      kept (Session.newAllocator label (.tracking (.withBudget budget)) world).2 0)
    (command : Session.DeviceCommand)
    (untouched : Session.Command.touches? world (.device command) ≠ some spare) :
    kept (command.run world world).2 0 := by
  cases command with
  | describe settings onLines =>
      obtain ⟨config, after, ran, settled, _⟩ := upkeep.config start renewed settings
      simp only [Session.DeviceCommand.run]
      rw [bind_done ran]
      exact settled
  | create into settings =>
      obtain ⟨config, after, ran, settled, known⟩ := upkeep.config start renewed settings
      simp only [Session.DeviceCommand.run]
      rw [bind_done ran]
      exact upkeep.makeDevice settled known into
  | select name info =>
      cases found : world.device? name with
      | none =>
          simp only [Session.DeviceCommand.run, found]
          exact start
      | some device =>
          simp only [Session.DeviceCommand.run, found]
          exact upkeep.idle start ((Source.select_moves device info).bind fun _ => .idle _)
  | createShader into name info verdict =>
      cases found : world.device? name with
      | none =>
          simp only [Session.DeviceCommand.run, found]
          exact start
      | some device =>
          have member := mem_of_held (held_of_device found)
          simp only [Session.DeviceCommand.run, found]
          exact upkeep.makeShader start ((upkeep.keeps start).device_known member) info verdict into
  | translate into name code =>
      cases found : world.device? name with
      | none =>
          simp only [Session.DeviceCommand.run, found]
          exact start
      | some device =>
          have other := other_of_spared found untouched
          simp only [Session.DeviceCommand.run, found]
          refine bind_keeps (fun after => kept after 0) (upkeep.idle start (Source.readBil_moves code))
            fun container after _ settled => ?_
          refine upkeep.makeIr settled (Ir.translate_moves device.allocator container) other
            (fun ran => ?_) into
          have formed : Ir.FromSource _ device.allocator (.bil container) := Ir.translate_eq_done ran
          exact formed.in
  | compile into name baseName code verdict =>
      cases found : world.device? name with
      | none =>
          simp only [Session.DeviceCommand.run, found]
          exact start
      | some device =>
          have other := other_of_spared found untouched
          cases based : world.base? baseName with
          | none =>
              simp only [Session.DeviceCommand.run, found, based]
              exact start
          | some base =>
              simp only [Session.DeviceCommand.run, found, based]
              refine bind_keeps (fun after => kept after 0) (upkeep.idle start (.ofExcept _))
                fun request after _ settled => ?_
              refine upkeep.makeIr settled (Ir.compile_moves device base request verdict) other
                (fun ran => ?_) into
              have formed : Ir.FromSource _ device.allocator (.glsl request) :=
                Ir.compile_eq_done ran
              exact formed.in

theorem shaderCall (start : kept world 0) (call : Session.CreationCall)
    (owner : Handle .device) (info : CreateInfo) (verdict : Verdict) :
    kept (Session.createShader call owner info verdict world).2 0 := by
  rw [Session.shaderCall_world]
  exact upkeep.admitShader start owner info verdict

theorem callCommand (start : kept world 0)
    (renewed : ∀ label budget,
      kept (Session.newAllocator label (.tracking (.withBudget budget)) world).2 0)
    (command : Session.CallCommand) : kept (command.run world).2 0 := by
  cases command with
  | createDevice settings =>
      obtain ⟨config, after, ran, settled, known⟩ := upkeep.config start renewed settings
      simp only [Session.CallCommand.run]
      rw [bind_done ran]
      exact bind_keeps (fun after => kept after 0) (upkeep.createDevice settled config known)
        fun _ _ _ settled => settled
  | createShader call owner info verdict =>
      exact bind_keeps (fun after => kept after 0)
        (upkeep.shaderCall start call owner info verdict) fun _ _ _ settled => settled
  | _ => exact upkeep.call start _ (by simp) (by simp)

/-- All operations of the driver, begun in a world with an empty trace. -/
theorem operation (start : kept { world with trace := [] } 0)
    (renewed : ∀ label budget, kept (Session.newAllocator label (.tracking (.withBudget budget))
      { world with trace := [] }).2 0) {command : Session.Command}
    (untouched : command.touches? world ≠ some spare) (operation : command.isOperation = true) :
    kept (Session.step world command).2 0 := by
  cases command with
  | memory command => exact upkeep.memory start renewed untouched operation
  | compiler command => exact upkeep.compiler start command
  | device command => exact upkeep.device start renewed command untouched
  | call command => exact upkeep.callCommand start renewed command
  | held command => exact upkeep.held start command

end Upkeep

namespace World.Keeps

variable {α : Type} {world after : World} {serial : Nat} {name : String}

/-- A new allocator is the first with its serial number. -/
theorem newAllocator (keeps : world.Keeps serial 0) (label : Option String) (budget : Option Nat) :
    (Session.newAllocator label (.tracking (.withBudget budget)) world).2.Keeps serial 0 := by
  obtain ⟨earlier, balances⟩ := keeps.balances
  have consistent := keeps.consistent
  rw [zero_add] at balances consistent
  have later := consistent.later (Nat.le_succ world.nextSerial)
  refine ⟨⟨keeps.orderly.named, keeps.orderly.tidy, keeps.orderly.devices, keeps.orderly.shaders⟩,
    Multiset.nodup_zero, by rw [zero_add]; exact later, earlier, ?_⟩
  rw [zero_add]
  change World.Balances _ serial earlier (assetsIn world.references)
  -- A new allocator can be the one that is watched; then nothing has memory of it yet.
  by_cases own : serial = world.nextSerial
  · have nothing : memoryAt serial (assetsIn world.references) = 0 := by
      refine memoryAt_unused fun object member => ?_
      have fits := consistent.fits object member
      rwa [← own] at fits
    refine ⟨?_, balances.programs⟩
    rw [nothing]
    change ((world.allocators.set world.nextSerial _) serial).Accounts 0
    rw [own, Cells.set_self]
    exact Allocator.tracking_accounts.mpr (Tracker.withBudget_accounts budget)
  · exact balances.transfer (Cells.set_other _ _ own) rfl

theorem config (keeps : world.Keeps serial 0) (settings : Session.Settings) :
    ∃ config after, settings.config world = (.done config, after) ∧ after.Keeps serial 0 ∧
      config.allocator.serial < after.nextSerial :=
  (upkeep serial).config keeps keeps.newAllocator settings

theorem elsewhere {act : Act α} (keeps : world.Keeps serial 0) (kept : world.Retains (act world).2)
    (balances : ∀ {earlier assets}, world.Balances serial earlier assets →
      (act world).2.Balances serial earlier assets) : (act world).2.Keeps serial 0 := by
  obtain ⟨earlier, start⟩ := keeps.balances
  refine ⟨keeps.orderly.retained kept, Multiset.nodup_zero, ?_, earlier, ?_⟩
  · rw [kept.references]
    exact keeps.consistent.later kept.serials
  · rw [kept.references]
    exact balances start

theorem rewrite (keeps : world.Keeps serial 0) {buffer written : Buffer}
    (found : world.held? name = some (.buffer buffer))
    (same : written.allocation = buffer.allocation) :
    (world.hold name (.buffer written)).Keeps serial 0 := by
  have unnamed : (world.withoutName name).Keeps serial {.buffer buffer} :=
    keeps.rearrange (keeps.orderly.withoutName found)
  have fits : (Held.buffer written).Fits serial (world.withoutName name).nextSerial := by
    have fits := keeps.fits (mem_of_held found)
    change written.allocation.allocator.serial ≠ serial
    rw [same]
    exact fits
  obtain ⟨earlier, balances⟩ := unnamed.balances
  have assets : assetsIn ({.buffer written} + (world.withoutName name).references) =
      assetsIn ({.buffer buffer} + (world.withoutName name).references) := by
    have ours : Held.assets (.buffer written) = Held.assets (.buffer buffer) := by
      simp only [Held.assets, Held.owned, Buffer.assets, same]
    rw [Multiset.singleton_add, Multiset.singleton_add, assetsIn_owner rfl, ours, assetsIn_owner rfl]
  have others : Consistent serial (world.withoutName name).nextSerial
      (world.withoutName name).references :=
    unnamed.consistent.subset (Multiset.subset_of_le (Multiset.le_add_left _ _))
  have pending : (world.withoutName name).Keeps serial {.buffer written} := by
    refine ⟨unnamed.orderly, Multiset.nodup_singleton _, ?_, earlier, by rw [assets]; exact balances⟩
    rw [Multiset.singleton_add]
    exact others.cons (Nat.le_refl _) fits (Held.fresh_of_plain rfl _)
  have free : (world.withoutName name).held? name = none := by
    refine List.lookup_eq_none_iff.mpr fun entry member => ?_
    have differs := (List.mem_filter.mp member).2
    rwa [bne_comm] at differs
  have held := pending.rearrange (pending.orderly.hold free (.buffer written))
  have again : (world.withoutName name).hold name (.buffer written) =
      world.hold name (.buffer written) := by
    simp [World.hold, World.withoutName]
  rwa [again] at held

theorem rawAlloc (keeps : world.Keeps serial 0) {size alignment : Nat} {type : AllocType}
    (spared : Session.Command.touches? world (.memory (.rawAlloc name size alignment type)) ≠
      some serial) :
    (Session.MemoryCommand.run (.rawAlloc name size alignment type) world world).2.Keeps
      serial 0 := by
  cases found : world.allocator? name with
  | none =>
      simp only [Session.MemoryCommand.run, found]
      exact keeps
  | some allocator =>
      simp only [Session.MemoryCommand.run, found]
      have other := other_of_spared found spared
      refine bind_keeps (fun after => after.Keeps serial 0) ?_ fun _ _ _ kept => kept
      exact keeps.elsewhere (allocator.request_retains size alignment type world)
        fun start => AllocatorRef.request_elsewhere start other size alignment type

theorem rawFree (keeps : world.Keeps serial 0) {size : Nat} {type : AllocType}
    (spared : Session.Command.touches? world (.memory (.rawFree name size type)) ≠ some serial) :
    (Session.MemoryCommand.run (.rawFree name size type) world world).2.Keeps serial 0 := by
  cases found : world.allocator? name with
  | none =>
      simp only [Session.MemoryCommand.run, found]
      exact keeps
  | some allocator =>
      simp only [Session.MemoryCommand.run, found, Session.silently_world]
      have other := other_of_spared found spared
      refine keeps.elsewhere (Allocation.release_retains _ world) fun start => ?_
      exact start.remark ⟨rfl, rfl⟩ rfl (Cells.set_other _ _ other.symm)

theorem writeBuffer (keeps : world.Keeps serial 0) (name : String) (start : Nat)
    (data : List UInt8) :
    (Session.MemoryCommand.run (.writeBuffer name start data) world world).2.Keeps serial 0 := by
  cases found : world.buffer? name with
  | none =>
      simp only [Session.MemoryCommand.run, found]
      exact keeps
  | some buffer =>
      simp only [Session.MemoryCommand.run, found]
      refine (upkeep serial).proceed keeps (buffer.write_moves start data).reverts
        fun {written after} ran => ?_
      obtain ⟨_, rfl, form⟩ := Buffer.write_eq_done.mp ran
      exact keeps.rewrite (held_of_buffer found) (by rw [form])

theorem watched (keeps : world.Keeps serial 0) :
    Keeps { world with trace := [] } serial 0 := by
  have orderly := keeps.orderly
  obtain ⟨_, balances⟩ := keeps.balances
  -- The trace is empty again, so the programs there are count as made before it.
  refine ⟨⟨orderly.named, orderly.tidy, orderly.devices, orderly.shaders⟩, Multiset.nodup_zero,
    keeps.consistent, programsIn (assetsIn (0 + world.references)), ⟨balances.memory, ?_⟩⟩
  exact add_comm _ _

/-- An application may also turn to other allocators on its own. -/
theorem step (keeps : world.Keeps serial 0) (command : Session.Command)
    (spared : command.touches? world ≠ some serial) :
    (Session.step world command).2.Keeps serial 0 := by
  have start := keeps.watched
  cases operation : command.isOperation with
  | true => exact (upkeep serial).operation start start.newAllocator spared operation
  | false =>
      cases command with
      | memory command =>
          cases command with
          | rawAlloc name size alignment type => exact start.rawAlloc spared
          | rawFree name size type => exact start.rawFree spared
          | writeBuffer name place data => exact start.writeBuffer name place data
          | _ => cases operation
      | _ => cases operation

end World.Keeps

end ShaderDriver
