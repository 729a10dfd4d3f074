import ShaderDriver.Proofs.Container.Slices
import ShaderDriver.Proofs.EntryPoint.Refusals
import ShaderDriver.Proofs.Session.Solvency
import ShaderDriver.Proofs.Session.Upsets

namespace ShaderDriver

open Memory Container Act

/-! Over whole runs, the driver does not panic by itself: as long as neither the logger nor a compiler
does, no command unwinds, no lock is poisoned and no counter leaves its range. -/

namespace World

variable {heap : Heap} {world : World}

theorem Settled.lists (settled : world.Settled) : world.Lists 0 := by
  intro serial
  obtain ⟨earlier, balances⟩ := settled.balances serial
  exact ⟨earlier, _, by rwa [add_zero]⟩

/-- No account is out of order that lists what is kept alive. -/
theorem Settled.sane (settled : world.Settled) : ¬ world.Faulty :=
  settled.lists.sane

/-- What commands keep up as long as nothing panics, after so many allocations were granted. -/
structure Sturdy (world : World) (granted : Nat) : Prop where
  settled : world.Settled
  sound : world.Sound
  granted : ∀ serial, (world.allocators serial).granted ≤ granted

theorem initial_sturdy : (initial heap).Sturdy 0 where
  settled := initial_settled
  sound :=
    { parsers := by
        rintro serial _ ⟨rfl⟩
        rfl
      registries := fun _ impossible => by cases impossible
      counters := fun _ _ => Tracker.withBudget_ranged none }
  granted _ := Nat.le_refl 0

/-- A command during which neither the logger nor a compiler panics does not unwind. -/
theorem Sturdy.step {granted : Nat} (sturdy : world.Sturdy granted) {command : Session.Command}
    (operation : command.isOperation = true)
    (calm : world.upset command.verdict? (Session.step world command).1.events = false) :
    (Session.step world command).1.exit ≠ .unwound ∧
      (Session.step world command).2.Sturdy
        (granted + (Session.step world command).1.events.countP Event.grants) := by
  have settled := sturdy.settled.step operation
  let watched : World := { world with trace := [] }
  have start : watched.Sound :=
    ⟨sturdy.sound.parsers, sturdy.sound.registries, sturdy.sound.counters⟩
  have sane : ¬ watched.Faulty := sturdy.settled.sane
  cases configures : command.configures with
  | true =>
      obtain ⟨finished, allocators, sound⟩ := Session.Command.configures_run configures watched
      refine ⟨finished, settled, sound start, fun serial => ?_⟩
      have same : (Session.step world command).2.allocators = world.allocators := allocators
      rw [same]
      exact Nat.le_add_right_of_le (sturdy.granted serial)
  | false =>
      have explains : Explains command.verdict? False watched _ _ :=
        Session.Command.run_explains operation configures sane
      obtain ⟨events, passes, reason⟩ := explains.reason
      have seen : (Session.step world command).1.events = events := passes.trace.trans (List.nil_append _)
      rw [seen] at calm ⊢
      have finished : (command.run watched).1 ≠ .unwound := by
        intro unwound
        rcases reason unwound with impossible | upset | faulty
        · exact impossible
        · have panicked : world.upset command.verdict? events = true := upset
          rw [calm] at panicked
          cases panicked
        · exact settled.sane faulty
      refine ⟨finished, settled, explains.sound finished start, fun serial => ?_⟩
      exact Nat.le_trans (passes.granted serial)
        (Nat.add_le_add_right (sturdy.granted serial) _)

end World

namespace Session

open World

/-- Neither the logger nor a compiler panics in the course of the commands. -/
def calm : World → List Command → Bool
  | _, [] => true
  | world, command :: rest =>
      !world.upset command.verdict? (step world command).1.events &&
        calm (step world command).2 rest

/-- How many allocations are granted in the course of commands. -/
def grants (world : World) (commands : List Command) : Nat :=
  ((run world commands).1.flatMap Answer.events).countP Event.grants

theorem grants_cons (world : World) (command : Command) (rest : List Command) :
    grants world (command :: rest) =
      (step world command).1.events.countP Event.grants + grants (step world command).2 rest :=
  List.countP_append

theorem run_sturdy {world : World} {granted : Nat} {commands : List Command}
    (sturdy : world.Sturdy granted)
    (operations : ∀ command ∈ commands, command.isOperation = true)
    (undisturbed : calm world commands = true) :
    (∀ answer ∈ (run world commands).1, answer.exit ≠ .unwound) ∧
      (run world commands).2.Sturdy (granted + grants world commands) := by
  induction commands generalizing world granted with
  | nil =>
      have none : grants world [] = 0 := rfl
      rw [none, Nat.add_zero]
      exact ⟨fun answer member => absurd member List.not_mem_nil, sturdy⟩
  | cons command rest ih =>
      obtain ⟨first, later⟩ := Bool.and_eq_true_iff.mp undisturbed
      obtain ⟨finished, next⟩ := sturdy.step (operations command (by simp))
        (by simpa using first)
      obtain ⟨others, last⟩ := ih next (fun other member => operations other (by simp [member])) later
      refine ⟨?_, ?_⟩
      · intro answer member
        rcases List.mem_cons.mp member with rfl | listed
        · exact finished
        · exact others answer listed
      · rw [grants_cons, ← Nat.add_assoc]
        exact last

/-- The account was never found out of order, no counter of it has overflowed, and no sum does at the
next request. -/
structure InRange (tracker : Tracker) : Prop where
  usable : tracker.poisoned = false
  granted : tracker.granted < addressSpace
  liveCount : tracker.liveCount < addressSpace
  liveBytes : tracker.liveBytes < addressSpace
  counts : ∀ type, (tracker.usageOf type).count < addressSpace
  bytes : ∀ type, (tracker.usageOf type).bytes < addressSpace
  sums : tracker.granted + 1 < addressSpace → ∀ size type,
    tracker.allocChecked? size type = some (tracker.alloc size type)

/-- No lock is poisoned, and no counter has left its range. -/
structure Unharmed (world : World) : Prop where
  registries : ∀ all, world.registries = some all →
    all.devices.poisoned = false ∧ all.shaders.poisoned = false
  parsers : ∀ serial state, world.compilers serial = .frontEnd state → state.poisoned = false
  accounts : ∀ serial tracker, world.allocators serial = .tracking tracker → InRange tracker

/-- Code is read without a split, a place or a range past its end, and bytes are copied only into
buffers of their length. -/
structure WithinBounds : Prop where
  requests : ∀ code, Glsl.Request.parse? code = some (Glsl.Request.decode code)
  modules : ∀ code, Bil.Module.parse? code = some (Bil.Module.decode code)
  copies : ∀ allocator bytes type,
    Buffer.copyOf allocator bytes type = Buffer.filled allocator bytes type

theorem within_bounds : WithinBounds where
  requests := Glsl.Request.parse?_eq_decode
  modules := Bil.Module.parse?_eq_decode
  copies := Buffer.copyOf_eq_filled

theorem inRange_of_sturdy {world : World} {granted serial : Nat} {tracker : Tracker}
    (sturdy : world.Sturdy granted) (few : granted < addressSpace)
    (watched : world.allocators serial = .tracking tracker) : InRange tracker := by
  obtain ⟨_, balances⟩ := sturdy.settled.balances serial
  have accounts := balances.memory tracker watched
  have usable := accounts.usable
  have modest := sturdy.sound.counters serial
  have most := sturdy.granted serial
  rw [watched] at modest most
  have ranged : tracker.Ranged := modest usable
  have total : tracker.totalGranted = tracker.granted := by simp [Tracker.totalGranted, usable]
  have within : tracker.granted < addressSpace := by
    rw [← total]
    exact Nat.lt_of_le_of_lt most few
  refine ⟨usable, within, ?_, ranged.bytes, fun type => ?_, fun type => ?_,
    accounts.allocChecked?_eq ranged⟩
  · have counted := ranged.liveCount usable
    omega
  · have counted := ranged.count
    have part := le_overTypes (fun type => (tracker.usageOf type).count) type
    omega
  · have part := Usage.total_bytes_le (memoryAt serial (assetsIn (0 + world.references))) type
    rw [← accounts.usage, ← accounts.bytes] at part
    exact Nat.lt_of_le_of_lt part ranged.bytes

variable {heap : Heap}

/-- As long as neither the logger nor a compiler panics, and fewer allocations are granted than there
are addresses, no operation of the driver panics. Registries have room for any number of entries. -/
theorem operations_do_not_panic (commands : List Command)
    (operations : ∀ command ∈ commands, command.isOperation = true)
    (undisturbed : calm (.initial heap) commands = true)
    (few : grants (.initial heap) commands < addressSpace) :
    (∀ answer ∈ (run (.initial heap) commands).1, answer.exit ≠ .unwound) ∧
      Unharmed (run (.initial heap) commands).2 ∧ WithinBounds := by
  obtain ⟨finished, sturdy⟩ := run_sturdy initial_sturdy operations undisturbed
  rw [Nat.zero_add] at sturdy
  refine ⟨finished, ⟨sturdy.sound.registries, sturdy.sound.parsers, ?_⟩, within_bounds⟩
  exact fun serial tracker watched => inRange_of_sturdy sturdy few watched

/-- On a device with little memory shaders are made, compiled and refused, one of them for want of
memory, and the device ends before a shader that is still held. -/
def crampedSession : List Command :=
  [.memory (.makeAllocator "heap" (some 1000)),
    .compiler (.makeFrontEnd "front end"),
    .call .startUp,
    .call (.createDevice
      { extensions := some .compileGlsl, debug := some true, gpuName := none,
        allocator := some "heap", compiler := some "front end" }),
    .call (.createShader .core ⟨1, 1⟩ (.bil ((Bil.Header.current 7).toBytes ++ [1, 2, 3, 4])) .panics),
    .call (.shader (some "kept") ⟨1, 1⟩),
    .call (.createShader .glsl ⟨1, 1⟩ (.glsl [4, 0, 0, 0, 0, 0, 0, 0, 65, 0])
      (.accepted { entryPoints := [], functions := 1 })),
    .call (.createShader .rawGlsl ⟨1, 1⟩ (.glsl [4, 0, 0]) .panics),
    .memory (.failNth "heap" 1),
    .call (.createShader .core ⟨1, 1⟩ (.bil []) .panics),
    .memory (.makeBuffer (some "buffer") "heap" 100 .internal),
    .memory (.makeBuffer (some "more") "heap" 1000 .internal),
    .call (.destroyDevice ⟨1, 1⟩),
    .call (.destroyObject ⟨9, 1⟩),
    .call .shutdown,
    .held (.letGo "kept")]

theorem cramped_session_does_not_panic :
    (∀ command ∈ crampedSession, command.isOperation = true) ∧ calm .initial crampedSession = true ∧
      grants .initial crampedSession = 12 ∧
      (∀ answer ∈ (run .initial crampedSession).1, answer.exit ≠ .unwound) ∧
      Unharmed (run .initial crampedSession).2 ∧ WithinBounds := by
  have operations : ∀ command ∈ crampedSession, command.isOperation = true := by decide
  have undisturbed : calm .initial crampedSession = true := by decide +kernel
  have granted : grants .initial crampedSession = 12 := by decide +kernel
  have few : grants .initial crampedSession < addressSpace := by
    rw [granted]
    simp [addressSpace]
  exact ⟨operations, undisturbed, granted,
    operations_do_not_panic crampedSession operations undisturbed few⟩

end Session

end ShaderDriver
