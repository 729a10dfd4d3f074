import ShaderDriver.Proofs.Object.Moves

namespace ShaderDriver

open Memory Container Act

/-! What the objects of the driver take over when they are made, and give back when they end. -/

/-- The assets of what was found, if anything was. -/
def assetsOf {α : Type} (assets : α → Multiset Asset) : Option α → Multiset Asset
  | none => 0
  | some value => assets value

def Buffer.assets (buffer : Buffer) : Multiset Asset :=
  {.memory buffer.allocation}

def Program.assets (program : Program) : Multiset Asset :=
  {.program program.compiler}

namespace AllocatorRef

theorem request_retains (allocator : AllocatorRef) (size alignment : Nat) (type : AllocType)
    (world : World) : world.Retains (allocator.request size alignment type world).2 := by
  have kind : ∀ tracker, world.allocators allocator.serial = .tracking tracker →
      ∃ next, ((world.allocators allocator.serial).alloc size type).2 = .tracking next := by
    intro tracker found
    rw [found]
    exact ⟨_, rfl⟩
  unfold request
  generalize (world.allocators allocator.serial).alloc size type = answer at kind
  obtain ⟨reply, next⟩ := answer
  cases reply with
  | fault => simpa using World.Retains.cell world [] kind
  | refused => exact .cell world _ kind
  | granted => exact .cell world _ kind

theorem request_elsewhere {allocator : AllocatorRef} {serial : Nat} {earlier : Multiset CompilerRef}
    {rest : Multiset Asset} {world : World} (balances : world.Balances serial earlier rest)
    (other : allocator.serial ≠ serial) (size alignment : Nat) (type : AllocType) :
    (allocator.request size alignment type world).2.Balances serial earlier rest := by
  have unchanged : ∀ cell, (world.allocators.set allocator.serial cell) serial =
      world.allocators serial := fun cell => Cells.set_other _ _ other.symm
  unfold request
  generalize (world.allocators allocator.serial).alloc size type = answer
  obtain ⟨reply, next⟩ := answer
  cases reply with
  | fault => exact balances.transfer (unchanged next) rfl
  | refused => exact balances.remark ⟨rfl, rfl⟩ rfl (unchanged next)
  | granted => exact balances.remark ⟨rfl, rfl⟩ rfl (unchanged next)

theorem request_eq_done {allocator : AllocatorRef} {size alignment : Nat} {type : AllocType}
    {allocation : Allocation} {world after : World}
    (done : allocator.request size alignment type world = (.done (some allocation), after)) :
    allocation = { allocator, size, type } := by
  unfold request at done
  split at done
  split at done <;> cases done
  rfl

theorem request_moves (allocator : AllocatorRef) (size alignment : Nat) (type : AllocType) :
    (allocator.request size alignment type).Moves 0
      (assetsOf fun allocation => {.memory allocation}) where
  retains := allocator.request_retains size alignment type
  balances {serial earlier rest world} balances := by
    rw [add_zero] at balances
    by_cases own : allocator.serial = serial
    · subst serial
      obtain ⟨next, ⟨answered, listed⟩ | ⟨answered, listed⟩⟩ :=
        Allocator.alloc_listed balances.memory size type
      · simp only [request, answered, Exit.carried_done, assetsOf, add_zero]
        exact balances.append ⟨rfl, rfl⟩ rfl rfl (by simpa using listed)
      · simp only [request, answered, Exit.carried_done, assetsOf]
        refine balances.append ⟨rfl, rfl⟩ rfl (by simp) ?_
        simpa [add_comm _ {(size, type)}, Multiset.singleton_add] using listed
    · have elsewhere := request_elsewhere balances own size alignment type
      rcases ran : allocator.request size alignment type world with ⟨exit, after⟩
      rw [ran] at elsewhere
      cases exit with
      | failed error => simpa using elsewhere
      | unwound => simpa using elsewhere
      | done answer =>
          cases answer with
          | none => simpa [assetsOf] using elsewhere
          | some allocation =>
              rw [request_eq_done ran]
              exact elsewhere.exchange (by simp [assetsOf, own]) (by simp [assetsOf])

end AllocatorRef

namespace Allocation

theorem release_retains (allocation : Allocation) (world : World) :
    world.Retains (allocation.release world).2 := by
  refine .cell world _ fun tracker found => ?_
  rw [found]
  exact ⟨_, rfl⟩

theorem release_moves (allocation : Allocation) :
    allocation.release.Releases {.memory allocation} where
  retains := allocation.release_retains
  balances {serial earlier rest world} balances := by
    rw [Exit.carried_nothing, add_zero]
    by_cases own : allocation.allocator.serial = serial
    · subst serial
      have listed : (world.allocators allocation.allocator.serial).Accounts
          ((allocation.size, allocation.type) ::ₘ
            memoryAt allocation.allocator.serial rest) := by
        have memory := balances.memory
        rwa [memoryAt_add, memoryAt_memory, if_pos rfl, add_comm, Multiset.singleton_add] at memory
      obtain ⟨next, freed, left⟩ := Allocator.free_listed listed
      unfold release
      rw [freed]
      exact balances.append ⟨rfl, rfl⟩ rfl (by simp) (by simpa using left)
    · have elsewhere : world.Balances serial earlier rest :=
        balances.exchange (by simp [own]) (by simp)
      exact elsewhere.remark ⟨rfl, rfl⟩ rfl (Cells.set_other _ _ fun same => own same.symm)

end Allocation

namespace Buffer

theorem release_moves (buffer : Buffer) : buffer.release.Releases buffer.assets :=
  buffer.allocation.release_moves

theorem zeroed_moves (allocator : AllocatorRef) (size : Nat) (type : AllocType) :
    (zeroed allocator size type).Moves 0 (assetsOf assets) := by
  refine (allocator.request_moves size bufferAlignment type).bind fun answer => ?_
  cases answer with
  | none => exact .pure none rfl
  | some allocation =>
      refine (Moves.read World.heap).after (fun world => ⟨world.heap, world, rfl⟩) fun heap => ?_
      split
      · exact .pure _ rfl
      · exact allocation.release_moves.bind fun _ => .pure none rfl

theorem write_moves (buffer : Buffer) (start : Nat) (bytes : List UInt8) :
    (buffer.write start bytes).Idle := by
  unfold write
  split
  · exact .idle _
  · exact .unwind

theorem write_eq_done {buffer written : Buffer} {start : Nat} {bytes : List UInt8}
    {world after : World} :
    buffer.write start bytes world = (.done written, after) ↔
      start + bytes.length ≤ buffer.data.length ∧ world = after ∧
        written = { buffer with
          data := buffer.data.take start ++ bytes ++ buffer.data.drop (start + bytes.length) } := by
  unfold write
  split <;> simp_all [unwind, and_comm, eq_comm]

theorem copyOf_moves (allocator : AllocatorRef) (bytes : List UInt8) (type : AllocType) :
    (copyOf allocator bytes type).Moves 0 assets := by
  refine ((zeroed_moves allocator bytes.length type).orFail rfl _).bind fun buffer => ?_
  refine ((buffer.write_moves 0 bytes).orRelease buffer.release_moves).recast rfl fun ran => ?_
  obtain ⟨_, _, rfl⟩ := write_eq_done.mp (orRelease_eq_done.mp ran)
  exact (zero_add _).symm

end Buffer

namespace Base

theorem release_moves (base : Base) : base.release.Releases base.assets := by
  unfold release
  cases recorded : base.record with
  | none => exact base.allocation.release_moves.recast (by simp [assets, recorded]) fun _ => rfl
  | some record =>
      refine (base.allocation.release_moves.thenRelease record.release_moves).recast ?_ fun _ => rfl
      simp [assets, recorded, Buffer.assets, Multiset.singleton_add]

theorem create_moves (allocator : AllocatorRef) (debug : Bool) (kind : ObjectKind) (size : Nat)
    (info : Option (List UInt8)) : (create allocator debug kind size info).Moves 0 assets := by
  refine ((allocator.request_moves size objectAlignment .apiObject).orFail rfl _).bind
    fun allocation => ?_
  cases info with
  | none => exact .pure _ rfl
  | some bytes =>
      cases debug with
      | false => exact .pure _ rfl
      | true =>
          refine ((Buffer.copyOf_moves allocator bytes .debug).orRelease
            allocation.release_moves).bind fun record => .pure _ ?_
          simp [assets, Buffer.assets, add_comm, Multiset.singleton_add]

end Base

theorem Program.destroy_moves (program : Program) : program.destroy.Releases program.assets :=
  .afterChange (fun _ => ⟨_, rfl⟩) (.programDestroyed program.compiler)

theorem Payload.release_moves (payload : Payload) : payload.release.Releases {payload.asset} := by
  cases payload with
  | kernel owned => exact owned.release_moves
  | program owned => exact owned.destroy_moves

theorem Ir.release_moves (ir : Ir) : ir.release.Releases ir.assets :=
  (ir.payload.release_moves.thenRelease ir.container.release_moves).recast rfl fun _ => rfl

theorem Shader.teardown_moves (shader : Shader) : shader.teardown.Releases shader.assets := by
  have parts := shader.ir.release_moves.thenRelease shader.base.release_moves
  refine .afterEmit ⟨rfl, rfl⟩ ?_
  exact ((Moves.log shader.farewell).thenRelease parts).recast (zero_add _).symm fun _ => rfl

theorem Device.teardown_moves (device : Device) : device.teardown.Releases device.assets :=
  .afterEmit ⟨rfl, rfl⟩ device.base.release_moves

namespace ScriptedCompiler

theorem compile_moves (compiler : ScriptedCompiler) (self : CompilerRef)
    (request : Glsl.Request) :
    (compiler.compile self request).Moves 0 (assetsOf Program.assets) := by
  refine .afterChange (fun _ => ⟨_, rfl⟩) ?_
  split
  · exact .unwind
  · split
    · exact .pure none rfl
    · refine .afterChange (fun _ => ⟨_, rfl⟩) ?_
      exact (Moves.programMade self).bind fun _ => .pure _ rfl

end ScriptedCompiler

namespace FrontEnd

theorem change_compilers (self : CompilerRef) (update : FrontEnd → FrontEnd) (world : World) :
    ∃ compilers, (change self update world).2 = { world with compilers } := by
  unfold change Act.change
  cases found : world.compilers self.serial with
  | frontEnd state =>
      simp only [found]
      exact ⟨_, rfl⟩
  | scripted state =>
      simp only [found]
      exact ⟨world.compilers, rfl⟩

theorem change_moves (self : CompilerRef) (update : FrontEnd → FrontEnd) :
    (change self update).Idle :=
  .change (change_compilers self update)

theorem usingParser_moves {α : Type} {act : Act α} {spent : Multiset Asset}
    {gained : α → Multiset Asset} (self : CompilerRef) (moves : act.Moves spent gained) :
    (usingParser self act).Moves spent gained where
  retains world := by
    have kept := moves.retains world
    unfold usingParser
    generalize act world = ran at kept ⊢
    obtain ⟨exit, after⟩ := ran
    cases exit with
    | done value => exact kept
    | failed error => exact kept
    | unwound => exact kept.trans ((change_moves self _).retains after)
  balances {serial earlier rest world} balances := by
    have finished := moves.balances balances
    unfold usingParser
    generalize act world = ran at finished ⊢
    obtain ⟨exit, after⟩ := ran
    cases exit with
    | done value => exact finished
    | failed error => exact finished
    | unwound =>
        rw [Exit.carried_unwound, ← add_zero rest, add_assoc] at finished
        exact (change_moves self _).balances finished

theorem recover_moves (self : CompilerRef) : (recover self).Idle := by
  refine (Moves.read _).bind fun poisoned => ?_
  split
  · refine (change_moves self _).bind fun _ => ?_
    exact (Moves.note .warn _ _).bind fun _ => change_moves self _
  · exact .idle _

theorem parse_moves (self : CompilerRef) (verdict : Verdict) : (parse self verdict).Idle := by
  refine usingParser_moves self ((recover_moves self).bind fun _ => ?_)
  cases verdict with
  | panics => exact .unwind
  | unparsed reason => exact (change_moves self _).bind fun _ => .note .warn _ _
  | invalid reason => exact .idle _
  | accepted parsed => exact .idle _

theorem remarkFlags_moves (request : Glsl.Request) : (remarkFlags request).Idle := by
  unfold remarkFlags
  split
  · exact .note .debug _ _
  · exact .idle ()

theorem conclude_moves (self : CompilerRef) (base : Base) (request : Glsl.Request)
    (verdict : Verdict) :
    (conclude self base request verdict).Moves 0 (assetsOf Program.assets) := by
  cases verdict with
  | panics => exact .pure none rfl
  | unparsed reason => exact .pure none rfl
  | invalid reason =>
      refine (change_moves self _).bind fun _ => ?_
      exact (Moves.note .warn _ _).bind fun _ => .pure none rfl
  | accepted parsed =>
      refine (change_moves self _).bind fun _ => (change_moves self _).bind fun _ => ?_
      refine (Moves.note .debug _ _).bind fun _ => ?_
      exact (Moves.programMade self).bind fun _ => .pure _ rfl

theorem compile_moves (self : CompilerRef) (base : Base) (request : Glsl.Request)
    (verdict : Verdict) : (compile self base request verdict).Moves 0 (assetsOf Program.assets) := by
  unfold compile
  split
  · refine (remarkFlags_moves request).bind fun _ => (parse_moves self verdict).bind fun _ => ?_
    exact conclude_moves self base request verdict
  · refine (change_moves self _).bind fun _ => ?_
    exact (Moves.note .warn _ _).bind fun _ => .pure none rfl

end FrontEnd

theorem CompilerRef.createProgram_moves (compiler : CompilerRef) (base : Base)
    (request : Glsl.Request) (verdict : Verdict) :
    (compiler.createProgram base request verdict).Moves 0 (assetsOf Program.assets) := by
  refine (Moves.emit ⟨rfl, rfl⟩).bind fun _ => (Moves.read _).bind fun found => ?_
  cases found with
  | scripted state => exact state.compile_moves compiler request
  | frontEnd state => exact FrontEnd.compile_moves compiler base request verdict

namespace Source

theorem readBil_moves (code : List UInt8) : (readBil code).Idle := by
  refine (Moves.ofExcept _).bind fun container => ?_
  split
  · exact .idle _
  · exact (Moves.note .warn _ _).bind fun _ => .idle _

theorem select_moves (device : Device) (info : CreateInfo) : (select device info).Idle := by
  unfold select
  split
  · exact (Moves.ofExcept _).bind fun _ => .idle _
  · exact (readBil_moves info.code).bind fun _ => .idle _

end Source

namespace Ir

theorem requestContainer_moves (allocator : AllocatorRef) :
    (requestContainer allocator).Moves 0 fun container => {.memory container} :=
  (allocator.request_moves footprint objectAlignment .internalShader).orFail rfl _

theorem translate_moves (allocator : AllocatorRef) (source : Bil.Module) :
    (translate allocator source).Moves 0 assets := by
  refine (requestContainer_moves allocator).bind fun container => ?_
  refine ((Buffer.copyOf_moves allocator source.payload .internalShader).orRelease
    container.release_moves).bind fun kernel => .pure _ ?_
  rfl

theorem requireProgram_moves (compiler : CompilerRef) (base : Base) (request : Glsl.Request)
    (verdict : Verdict) :
    (requireProgram compiler base request verdict).Moves 0 Program.assets := by
  refine (compiler.createProgram_moves base request verdict).bind fun answer => ?_
  cases answer with
  | some program => exact .pure _ rfl
  | none => exact (Moves.note .warn _ _).bind fun _ => .fail _

theorem compile_moves (device : Device) (base : Base) (request : Glsl.Request)
    (verdict : Verdict) : (compile device base request verdict).Moves 0 assets := by
  unfold compile
  split
  · exact .fail _
  · next compiler _ =>
      refine (requestContainer_moves device.allocator).bind fun container => ?_
      refine ((requireProgram_moves compiler base request verdict).orRelease
        container.release_moves).bind fun program => .pure _ ?_
      rfl

theorem ofSource_moves (device : Device) (base : Base) (source : Source) (verdict : Verdict) :
    (ofSource device base source verdict).Moves 0 assets := by
  cases source with
  | bil container => exact translate_moves device.allocator container
  | glsl request => exact compile_moves device base request verdict

end Ir

namespace Shader

theorem source_moves (device : Device) (info : CreateInfo) :
    ((Source.select device info).onFailure (rejection info.code)).Idle :=
  (Source.select_moves device info).onFailure fun _ => .note .warn _ _

theorem announce_moves (device : Device) (ir : Ir) (flags : UInt32) :
    ((announce device ir flags).orRelease ir.release).Moves ir.assets fun _ => 0 + ir.assets :=
  (Moves.note .debug _ _).orRelease ir.release_moves

theorem complete_moves (device : Device) (base : Base) (info : CreateInfo) (verdict : Verdict) :
    (complete device base info verdict).Moves 0 fun shader => shader.ir.assets := by
  refine (source_moves device info).bind fun source => ?_
  refine (Ir.ofSource_moves device base source verdict).bind fun ir => ?_
  refine (announce_moves device ir info.flags).bind fun _ => ?_
  rw [zero_add]
  exact Moves.freshSerial.after (fun _ => ⟨_, _, rfl⟩) fun id => .pure _ rfl

theorem complete_base {device : Device} {base : Base} {info : CreateInfo} {verdict : Verdict}
    {shader : Shader} {world after : World}
    (done : complete device base info verdict world = (.done shader, after)) :
    shader.base = base := by
  obtain ⟨source, selected, _, done⟩ := bind_eq_done.mp done
  obtain ⟨ir, formed, _, done⟩ := bind_eq_done.mp done
  obtain ⟨_, announced, _, done⟩ := bind_eq_done.mp done
  cases done
  rfl

theorem create_moves (device : Device) (info : CreateInfo) (verdict : Verdict) :
    (create device info verdict).Moves 0 assets := by
  refine (Base.create_moves device.allocator device.debug .shader footprint (some info.code)).bind
    fun base => ?_
  refine ((complete_moves device base info verdict).orRelease base.release_moves).recast rfl
    fun ran => ?_
  rw [assets, complete_base (orRelease_eq_done.mp ran)]

end Shader

theorem Device.create_moves (config : DeviceConfig) : (create config).Moves 0 assets := by
  unfold create
  split
  · exact .fail _
  · refine (Base.create_moves config.allocator config.debug .device footprint none).bind
      fun base => ?_
    exact Moves.freshSerial.after (fun _ => ⟨_, _, rfl⟩) fun id => .pure _ rfl

end ShaderDriver
