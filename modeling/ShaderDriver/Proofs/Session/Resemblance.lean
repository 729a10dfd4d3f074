import ShaderDriver.Proofs.Session.Calm
import ShaderDriver.Proofs.Session.Mirrors
import ShaderDriver.Proofs.Session.Records

namespace ShaderDriver

open Memory

/-! Over whole runs, it makes no difference whether devices keep records, as long as no memory is
refused: runs that differ in the debug flags of their devices resemble each other. -/

/-- What the account of an allocator says about a type, if the allocator keeps one. -/
def World.usage? (world : World) (serial : Nat) (type : AllocType) : Option Usage :=
  match world.allocators serial with
  | .tracking tracker => some (tracker.liveUsage type)
  | .answering _ => none

theorem World.Alike.usage? {world image : World} {heap : Heap}
    (alike : world.Alike .records heap image) (serial : Nat) {type : AllocType}
    (other : type ≠ .debug) :
    world.usage? serial type = image.usage? serial type := by
  have same := alike.allocators serial
  unfold World.usage?
  cases here : world.allocators serial <;> cases there : image.allocators serial <;>
    simp only [here, there, Allocator.seen, Allocator.withoutRecords, reduceCtorEq,
      Allocator.tracking.injEq] at same
  · exact congrArg some (Tracker.liveUsage_eq_of_withoutRecords same other)
  · rfl

namespace Session

open World

variable {heap : Heap} {world image : World} {commands others : List Command}

theorem Command.Alike.isOperation {command other : Command} {leeway : Leeway}
    (alike : command.Alike leeway other) : command.isOperation = other.isOperation := by
  cases alike <;> rfl

/-- No request for memory is refused in the course of the commands. -/
def granted (world : World) (commands : List Command) : Bool :=
  (run world commands).1.all fun answer => answer.events.all fun event => !event.refused

theorem granted_cons {command : Command} {rest : List Command} :
    granted world (command :: rest) = true ↔
      (∀ event ∈ (step world command).2.trace, event.refused = false) ∧
        granted (step world command).2 rest = true := by
  have split : granted world (command :: rest) =
      ((step world command).2.trace.all (fun event => !event.refused) &&
        granted (step world command).2 rest) := rfl
  rw [split, Bool.and_eq_true, List.all_eq_true]
  simp only [Bool.not_eq_true']

theorem granted_take (asked : granted world commands = true) (n : Nat) :
    granted world (commands.take n) = true := by
  induction commands generalizing world n with
  | nil => rwa [List.take_nil]
  | cons command rest ih =>
      cases n with
      | zero => rfl
      | succ n =>
          obtain ⟨first, later⟩ := granted_cons.mp asked
          exact granted_cons.mpr ⟨first, ih later n⟩

theorem run_alike (alike : world.Alike .records heap image) (settled : world.Settled)
    (mirrored : image.Settled)
    (same : commands.map (Command.seen .records) = others.map (Command.seen .records))
    (operations : ∀ command ∈ commands, command.isOperation = true)
    (fits : ∀ command ∈ commands, ∀ bytes ∈ command.record?, heap.hasRoom bytes.length = true)
    (first : granted world commands = true) (second : granted image others = true) :
    List.Forall₂ (Answer.Alike .records) (run world commands).1 (run image others).1 ∧
      (run world commands).2.Alike .records heap (run image others).2 := by
  induction commands generalizing world image others with
  | nil =>
      obtain rfl : others = [] := List.map_eq_nil_iff.mp same.symm
      exact ⟨.nil, alike⟩
  | cons command rest ih =>
      obtain ⟨other, more, rfl, equal, later⟩ := List.map_eq_cons_iff.mp same.symm
      obtain ⟨operation, remaining⟩ := List.forall_mem_cons.mp operations
      obtain ⟨within, sizes⟩ := List.forall_mem_cons.mp fits
      obtain ⟨easy, easily⟩ := granted_cons.mp first
      obtain ⟨fine, finely⟩ := granted_cons.mp second
      have mirror : other.isOperation = true := by
        rwa [(Command.alike_of_seen equal).isOperation]
      have next := settled.step operation
      have onward := mirrored.step mirror
      obtain ⟨answers, closer⟩ := step_alike alike.watched equal.symm
        ⟨within, fun _ _ => rfl⟩ ⟨next.sane, easy⟩ ⟨onward.sane, fine⟩
      obtain ⟨replies, left⟩ := ih closer next onward later.symm remaining sizes easily finely
      exact ⟨.cons answers replies, left⟩

/-- The records that a run leaves are those of shaders that are alive, and of the application where it
turns to an allocator itself. -/
structure Accountable (heap : Heap) (commands : List Command) : Prop where
  records : ∀ serial tracker, (run (.initial heap) commands).2.allocators serial = .tracking tracker →
    tracker.liveUsage .debug =
      { count := (recorded heap serial commands).length +
          ((run (.initial heap) commands).2.ownRecords serial).card
        bytes := ((recorded heap serial commands).map fun made => made.info.code.length).sum +
          (((run (.initial heap) commands).2.ownRecords serial).map Prod.fst).sum }
  own : ∀ serial, spares serial (.initial heap) commands = true →
    (run (.initial heap) commands).2.ownRecords serial = 0

theorem accountable (operations : ∀ command ∈ commands, command.isOperation = true) :
    Accountable heap commands where
  records serial _ watched := records_account serial operations watched
  own serial spared := by
    have keeps := (initial_keeps serial).run spared
    have nothing := memoryAt_owned fun object member => keeps.fits member
    exact congrArg (Multiset.filter fun allocation => allocation.2 = .debug) nothing

/-- The runs leave worlds that look alike but for records, and the records that their debug flags ask
for. -/
structure Resemble (heap : Heap) (commands others : List Command) : Prop where
  left : (run (.initial heap) commands).2.Alike .records heap (run (.initial heap) others).2
  usage : ∀ serial type, type ≠ .debug →
    (run (.initial heap) commands).2.usage? serial type =
      (run (.initial heap) others).2.usage? serial type
  first : Accountable heap commands
  second : Accountable heap others

/-- Runs that differ only in the debug flags of their devices, and in which no memory is refused, have
the same answers, and at every point they resemble each other. That the heap has room for the records
is asked as well, since an allocator does not see what the heap refuses. -/
theorem debug_flags_make_no_difference (commands others : List Command)
    (same : commands.map (Command.seen .records) = others.map (Command.seen .records))
    (operations : ∀ command ∈ commands, command.isOperation = true)
    (fits : ∀ command ∈ commands, ∀ bytes ∈ command.record?, heap.hasRoom bytes.length = true)
    (first : granted (.initial heap) commands = true)
    (second : granted (.initial heap) others = true) :
    List.Forall₂ (Answer.Alike .records) (run (.initial heap) commands).1
        (run (.initial heap) others).1 ∧
      ∀ n, Resemble heap (commands.take n) (others.take n) := by
  have start : (World.initial heap).Alike .records heap (World.initial heap) :=
    ⟨rfl, rfl, fun _ => rfl, rfl, rfl, rfl, rfl, rfl, rfl⟩
  have mirror : ∀ other ∈ others, other.isOperation = true := by
    intro other member
    have seen : other.seen .records ∈ commands.map (Command.seen .records) :=
      same ▸ List.mem_map_of_mem member
    obtain ⟨command, listed, equal⟩ := List.mem_map.mp seen
    rw [← (Command.alike_of_seen equal).isOperation]
    exact operations command listed
  refine ⟨(run_alike start initial_settled initial_settled same operations fits first second).1,
    fun n => ?_⟩
  have some_operations : ∀ command ∈ commands.take n, command.isOperation = true :=
    fun command member => operations command (List.mem_of_mem_take member)
  have left := (run_alike start initial_settled initial_settled
    (by rw [List.map_take, List.map_take, same]) some_operations
    (fun command member => fits command (List.mem_of_mem_take member))
    (granted_take first n) (granted_take second n)).2
  exact ⟨left, fun serial type other => left.usage? serial other, accountable some_operations,
    accountable fun other member => mirror other (List.mem_of_mem_take member)⟩

/-- On a device with or without records shaders are made, compiled and refused, and one of them is held
until after the device has ended. -/
def flaggedSession (debug : Bool) : List Command :=
  [.memory (.makeAllocator "heap" (some 1000)),
    .compiler (.makeFrontEnd "front end"),
    .call .startUp,
    .call (.createDevice
      { extensions := some .compileGlsl, debug := some debug, gpuName := none,
        allocator := some "heap", compiler := some "front end" }),
    .call (.createShader .core ⟨1, 1⟩
      (.bil ((Container.Bil.Header.current 7).toBytes ++ [1, 2, 3, 4])) .panics),
    .call (.createShader .glsl ⟨1, 1⟩ (.glsl [4, 0, 0, 0, 0, 0, 0, 0, 65, 0])
      (.accepted { entryPoints := [], functions := 1 })),
    .call (.createShader .rawCore ⟨1, 1⟩ (.bil []) .panics),
    .call (.shader (some "kept") ⟨1, 1⟩),
    .held (.inspect "kept"),
    .call (.destroyDevice ⟨1, 1⟩),
    .held (.letGo "kept"),
    .call .shutdown]

theorem flagged_sessions_resemble_each_other :
    (flaggedSession true).map (Command.seen .records) =
        (flaggedSession false).map (Command.seen .records) ∧
      (∀ command ∈ flaggedSession true, command.isOperation = true) ∧
      (∀ command ∈ flaggedSession true, ∀ bytes ∈ command.record?,
        Heap.standard.hasRoom bytes.length = true) ∧
      granted .initial (flaggedSession true) = true ∧ granted .initial (flaggedSession false) = true ∧
      ((recorded .standard 0 ((flaggedSession true).take 9)).map fun made => made.info.code.length) = [16, 10] ∧
      recorded .standard 0 ((flaggedSession false).take 9) = [] ∧
      List.Forall₂ (Answer.Alike .records) (run .initial (flaggedSession true)).1
        (run .initial (flaggedSession false)).1 ∧
      ∀ n, Resemble .standard ((flaggedSession true).take n) ((flaggedSession false).take n) := by
  have same : (flaggedSession true).map (Command.seen .records) =
      (flaggedSession false).map (Command.seen .records) := rfl
  have operations : ∀ command ∈ flaggedSession true, command.isOperation = true := by decide
  have fits : ∀ command ∈ flaggedSession true,
      ∀ bytes ∈ command.record?, Heap.standard.hasRoom bytes.length = true := by decide +kernel
  have first : granted .initial (flaggedSession true) = true := by decide +kernel
  have second : granted .initial (flaggedSession false) = true := by decide +kernel
  have kept : ((recorded .standard 0 ((flaggedSession true).take 9)).map fun made =>
      made.info.code.length) = [16, 10] := by decide +kernel
  have plain : recorded .standard 0 ((flaggedSession false).take 9) = [] := by decide +kernel
  exact ⟨same, operations, fits, first, second, kept, plain,
    debug_flags_make_no_difference (flaggedSession true) (flaggedSession false) same operations fits
      first second⟩

end Session

end ShaderDriver
