import ShaderDriver.Proofs.EntryPoint.Lookup

namespace ShaderDriver

open Memory

/-! A shader that is not delivered leaves nothing behind: no memory, no program and no change in the
registries. -/

/-- Memory of one allocator that its account would list in this way. -/
def listing (serial : Nat) (live : Multiset (Nat × AllocType)) : Multiset Asset :=
  live.map fun listed =>
    .memory { allocator := { serial, label := none }, size := listed.1, type := listed.2 }

theorem memoryAt_listing (serial : Nat) (live : Multiset (Nat × AllocType)) :
    memoryAt serial (listing serial live) = live := by
  induction live using Multiset.induction_on with
  | empty => rfl
  | cons listed rest ih =>
      unfold listing at ih ⊢
      rw [Multiset.map_cons, ← Multiset.singleton_add, memoryAt_add, ih, memoryAt_memory, if_pos rfl,
        Multiset.singleton_add]

theorem programsIn_listing (serial : Nat) (live : Multiset (Nat × AllocType)) :
    programsIn (listing serial live) = 0 := by
  induction live using Multiset.induction_on with
  | empty => rfl
  | cons listed rest ih =>
      unfold listing at ih ⊢
      rw [Multiset.map_cons, ← Multiset.singleton_add, programsIn_add, ih, programsIn_memory,
        add_zero]

theorem memoryAt_programs (serial : Nat) (compilers : Multiset CompilerRef) :
    memoryAt serial (compilers.map .program) = 0 := by
  induction compilers using Multiset.induction_on with
  | empty => rfl
  | cons compiler rest ih =>
      rw [Multiset.map_cons, ← Multiset.singleton_add, memoryAt_add, ih, memoryAt_program, add_zero]

theorem programsIn_programs (compilers : Multiset CompilerRef) :
    programsIn (compilers.map .program) = compilers := by
  induction compilers using Multiset.induction_on with
  | empty => rfl
  | cons compiler rest ih =>
      rw [Multiset.map_cons, ← Multiset.singleton_add, programsIn_add, ih, programsIn_program,
        Multiset.singleton_add]

namespace World

variable {world after : World} {serial : Nat} {tracker : Tracker} {live : Multiset (Nat × AllocType)}

/-- Registries and the account of an allocator are as before, and programs that were made have been
destroyed. -/
structure Unmarked (world : World) (serial : Nat) (tracker : Tracker) (after : World) : Prop where
  registries : after.registries = world.registries
  account : ∃ next, after.allocators serial = .tracking next ∧
    (∀ type, next.liveUsage type = tracker.liveUsage type) ∧ next.totalBytes = tracker.totalBytes
  programs : ∃ events, after.trace = world.trace ++ events ∧
    programsMade events = programsDestroyed events

/-- Whatever an account lists and whatever programs there were, there are assets that explain it. -/
theorem balances_of_accounts (found : world.allocators serial = .tracking tracker)
    (accounts : tracker.Accounts live) :
    world.Balances serial (programsDestroyed world.trace)
      (listing serial live + (programsMade world.trace).map .program) where
  memory := by
    rw [memoryAt_add, memoryAt_listing, memoryAt_programs, add_zero, found]
    exact Allocator.tracking_accounts.mpr accounts
  programs := by
    rw [programsIn_add, programsIn_listing, programsIn_programs, zero_add]

end World

/-- What reverts cannot be told from what never happened. -/
theorem Act.Reverts.unmarked_of_accounts {α : Type} {act : Act α} {world : World} {serial : Nat}
    {tracker : Tracker} {live : Multiset (Nat × AllocType)} (reverts : act.Reverts 0)
    (undone : (act world).1.isDone = false) (found : world.allocators serial = .tracking tracker)
    (accounts : tracker.Accounts live) : world.Unmarked serial tracker (act world).2 := by
  have kept := reverts.retains undone
  have before := World.balances_of_accounts found accounts
  have after := reverts.balances undone (by rwa [add_zero])
  refine ⟨kept.registries, ?_, ?_⟩
  · obtain ⟨next, same⟩ := kept.accounts serial tracker found
    have listed : next.Accounts live := by
      have memory := after.memory
      rw [memoryAt_add, memoryAt_listing, memoryAt_programs, add_zero, same] at memory
      exact Allocator.tracking_accounts.mp memory
    refine ⟨next, same, fun type => ?_, ?_⟩
    · rw [listed.liveUsage, accounts.liveUsage]
    · rw [listed.totalBytes, accounts.totalBytes]
  · obtain ⟨events, trace⟩ := kept.trace
    refine ⟨events, trace, ?_⟩
    have programs := after.programs
    rw [trace, programsMade_append, programsDestroyed_append, programsIn_add, programsIn_listing,
      programsIn_programs, zero_add, add_assoc, add_right_inj, add_comm (programsMade world.trace),
      add_left_inj] at programs
    exact programs

theorem Act.Reverts.unmarked {α : Type} {act : Act α} {world : World} {serial : Nat}
    {tracker : Tracker} {live : Multiset (Nat × AllocType)} (reverts : act.Reverts 0)
    (undone : (act world).1.isDone = false) (found : world.allocators serial = .tracking tracker)
    (matched : tracker.Matched live) : world.Unmarked serial tracker (act world).2 :=
  reverts.unmarked_of_accounts undone found matched.accounts

namespace EntryPoint

theorem raw_without_handle {α : Type} {act : Act α} {world : World}
    (missing : ∀ value, (raw act world).1 ≠ .done (some value, .success)) :
    (act world).1.isDone = false := by
  unfold raw at missing
  generalize act world = ran at missing ⊢
  obtain ⟨exit, after⟩ := ran
  cases exit with
  | done value => exact absurd rfl (missing value)
  | failed error => rfl
  | unwound => rfl

/-- Whether it fails or unwinds, and wherever, a creation that does not deliver a shader leaves the
registries and the account of any allocator as they were, and no program. -/
theorem undelivered_shader_leaves_no_mark {world : World} {serial : Nat} {tracker : Tracker}
    {live : Multiset (Nat × AllocType)} (found : world.allocators serial = .tracking tracker)
    (matched : tracker.Matched live) (maker : Device) (owner : Handle .device) (info : CreateInfo)
    (verdict : Verdict) :
    ((Shader.create maker info verdict world).1.isDone = false →
      world.Unmarked serial tracker (Shader.create maker info verdict world).2) ∧
    ∀ entry ∈ [createShader owner info verdict, createShaderFromGlsl owner info verdict],
      ((entry world).1.isDone = false → world.Unmarked serial tracker (entry world).2) ∧
      ((∀ handle, (raw entry world).1 ≠ .done (some handle, .success)) →
        world.Unmarked serial tracker (raw entry world).2) := by
  have reverts : ∀ entry ∈ [createShader owner info verdict, createShaderFromGlsl owner info verdict],
      entry.Reverts 0 := by
    intro entry member
    have same : entry = createShader owner info verdict := by
      simpa [createShaderFromGlsl] using member
    rw [same]
    exact createShader_reverts owner info verdict
  refine ⟨fun undone => ?_, fun entry member => ⟨fun undone => ?_, fun missing => ?_⟩⟩
  · exact (Shader.create_moves maker info verdict).reverts.unmarked undone found matched
  · exact (reverts entry member).unmarked undone found matched
  · rw [raw_world]
    exact (reverts entry member).unmarked (raw_without_handle missing) found matched

/-- A device that compiles, with its own 160 bytes on the account. -/
def compilingDevice : Device :=
  { id := 0
    base := { kind := .device, allocation := { allocator, size := 160, type := .apiObject }, record := none }
    gpuName := "Intel GPU"
    extensions := .compileGlsl
    debug := true
    allocator
    compiler := some { serial := 0, label := none } }
where
  allocator : AllocatorRef := { serial := 0, label := none }

/-- The program is made, and then the logger panics at the entry about the new shader. -/
theorem panic_after_compilation_leaves_no_mark :
    let tracker := ((Tracker.withBudget (some 500)).alloc 160 .apiObject).2
    let logger := Log.Logger.capturing [{ severity := some .debug, skip := 0 }]
    let compiler := { ScriptedCompiler.fresh "main" with mode := .delivers .vertex "main" }
    let world := { World.initial with
      allocators := fun _ => .tracking tracker, logger, compilers := fun _ => .scripted compiler }
    let info := CreateInfo.glsl [0, 0, 0, 0, 0, 0, 0, 0]
    let ran := Shader.create compilingDevice info (.accepted { entryPoints := [], functions := 0 }) world
    ran.1 = .unwound ∧ programsMade ran.2.trace = {{ serial := 0, label := none }} ∧
      world.Unmarked 0 tracker ran.2 := by
  intro tracker logger compiler world info ran
  have found : world.allocators 0 = .tracking tracker := rfl
  have matched : tracker.Matched ((160, .apiObject) ::ₘ 0) := .granted (.new (some 500)) rfl
  have unwound : ran.1 = .unwound := by decide +kernel
  refine ⟨unwound, by decide +kernel, ?_⟩
  apply (undelivered_shader_leaves_no_mark found matched compilingDevice ⟨0, 1⟩ info _).1
  exact congrArg Exit.isDone unwound

end EntryPoint

end ShaderDriver
