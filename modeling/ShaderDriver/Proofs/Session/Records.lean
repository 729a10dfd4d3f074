import Mathlib.Algebra.GroupWithZero.Nat
import ShaderDriver.Proofs.Session.Endings
import ShaderDriver.Proofs.Session.Solvency

namespace ShaderDriver

open Memory

/-! Over whole runs, the records that debug devices keep are those of the shaders that are alive. -/

/-- What there is of a type is decided by the allocations of that type. -/
theorem Memory.Usage.total_filter (live : Multiset (Nat × AllocType)) (type : AllocType) :
    Usage.total (live.filter fun allocation => allocation.2 = type) type = Usage.total live type := by
  simp only [Usage.total, Multiset.filter_filter, and_self]

/-- The records among some assets that the account of an allocator lists. -/
def recordsAt (serial : Nat) : Multiset Asset →+ Multiset (Nat × AllocType) where
  toFun assets := (memoryAt serial assets).filter fun allocation => allocation.2 = .debug
  map_zero' := rfl
  map_add' first second := by rw [memoryAt_add, Multiset.filter_add]

/-- A shader has a record if it was made on a device that keeps them. -/
theorem Shader.MadeFrom.records {shader : Shader} {maker : Device} {info : CreateInfo}
    (made : shader.MadeFrom maker info) (serial : Nat) :
    recordsAt serial shader.assets =
      if maker.debug = true ∧ maker.allocator.serial = serial then {(info.code.length, .debug)}
      else 0 := by
  obtain ⟨source, _, demands⟩ := made.demands
  have source_plain : source.demands.filter (fun allocation => allocation.2 = .debug) = 0 := by
    cases source <;> rfl
  change (memoryAt serial shader.assets).filter _ = _
  rw [made.memory, made.allocator]
  by_cases own : maker.allocator.serial = serial
  · simp only [own, if_true, and_true, demands, Multiset.filter_add, source_plain]
    cases maker.debug <;> rfl
  · simp only [own, if_false, and_false]
    rfl

theorem Device.MadeFrom.records {device : Device} {config : DeviceConfig}
    (made : device.MadeFrom config) (serial : Nat) : recordsAt serial device.assets = 0 := by
  change (memoryAt serial device.assets).filter _ = 0
  rw [made.memory]
  split <;> rfl

namespace World

variable {world : World} {serial : Nat}

/-- The records in buffers and bases that the application holds for itself. -/
def ownRecords (world : World) (serial : Nat) : Multiset (Nat × AllocType) :=
  recordsAt serial (world.references.map Held.owned).sum

theorem Settled.run {commands : List Session.Command} (settled : world.Settled)
    (operations : ∀ command ∈ commands, command.isOperation = true) :
    (Session.run world commands).2.Settled := by
  induction commands generalizing world with
  | nil => exact settled
  | cons command rest ih =>
      obtain ⟨first, later⟩ := List.forall_mem_cons.mp operations
      exact ih (settled.step first) later

theorem Settled.keeps (settled : world.Settled) (serial : Nat) : world.Keeps world.nextSerial 0 :=
  (settled world.nextSerial serial (Nat.le_refl _)).keeps

/-- Devices have no records, so those there are belong to shaders or to the application. -/
theorem Settled.records (settled : world.Settled) {tracker : Tracker}
    (watched : world.allocators serial = .tracking tracker) :
    tracker.liveUsage .debug = Usage.total
      (∑ shader ∈ world.liveShaders, recordsAt serial shader.assets + world.ownRecords serial)
      .debug := by
  have keeps := settled.keeps serial
  obtain ⟨_, balances⟩ := settled.balances serial
  have devices : ∑ device ∈ world.liveDevices, recordsAt serial device.assets = 0 := by
    refine Finset.sum_eq_zero fun device alive => ?_
    rw [← devicesIn_references, mem_devicesIn] at alive
    obtain ⟨⟨config, made⟩, _⟩ := keeps.fits alive
    exact made.records serial
  have split : recordsAt serial (assetsIn (0 + world.references)) =
      ∑ shader ∈ world.liveShaders, recordsAt serial shader.assets + world.ownRecords serial := by
    rw [zero_add, assetsIn, map_add, map_add, map_sum, map_sum, devicesIn_references,
      shadersIn_references, devices, zero_add, ownRecords]
  rw [(balances.memory tracker watched).liveUsage, ← split]
  exact (Usage.total_filter _ .debug).symm

end World

namespace Session

open World

/-- A shader that a command makes, the device that it is made on, and what it is made from. -/
structure Creation where
  shader : Shader
  maker : Device
  info : CreateInfo
deriving DecidableEq, Repr

def Command.creation? (world : World) (command : Command) : Option Creation :=
  match command.product? world, command.info? with
  | some (shader, maker), some info => some { shader, maker, info }
  | _, _ => none

def creations : World → List Command → List Creation
  | _, [] => []
  | world, command :: rest =>
      (command.creation? world).toList ++ creations (step world command).2 rest

/-- The shaders that are alive after a run, as they were made. -/
def survivors (heap : Heap) (commands : List Command) : List Creation :=
  (creations (.initial heap) commands).filter fun made =>
    made.shader ∈ (run (.initial heap) commands).2.liveShaders

/-- Those of them that were made on devices that keep records in memory of an allocator. -/
def recorded (heap : Heap) (serial : Nat) (commands : List Command) : List Creation :=
  (survivors heap commands).filter fun made =>
    made.maker.debug = true ∧ made.maker.allocator.serial = serial

/-- A record for each of some shaders, as long as the code. -/
def recordsOf (shaders : List Creation) : Multiset (Nat × AllocType) :=
  ↑(shaders.map fun made => (made.info.code.length, AllocType.debug))

theorem creations_products (world : World) (commands : List Command) :
    (creations world commands).map (fun made => (made.shader, made.maker)) =
      products world commands := by
  induction commands generalizing world with
  | nil => rfl
  | cons command rest ih =>
      rw [creations, products, List.map_append, ih]
      congr 1
      unfold Command.creation?
      cases product : command.product? world with
      | none => rfl
      | some made =>
          obtain ⟨info, _, _, known, _⟩ := product_eq_some product
          rw [known]
          rfl

theorem creation_made {world : World} {commands : List Command} {made : Creation}
    (member : made ∈ creations world commands) : made.shader.MadeFrom made.maker made.info := by
  induction commands generalizing world with
  | nil => exact absurd member List.not_mem_nil
  | cons command rest ih =>
      rcases List.mem_append.mp member with first | later
      · rw [Option.mem_toList] at first
        unfold Command.creation? at first
        split at first
        · next shader maker info product known =>
            cases first
            obtain ⟨other, _, _, said, created⟩ := product_eq_some product
            obtain rfl : other = info := Option.some.inj (said.symm.trans known)
            exact (Shader.create_eq_done created).1
        · cases first
      · exact ih later

variable {heap : Heap}

theorem survivors_nodup (commands : List Command) :
    ((survivors heap commands).map Creation.shader).Nodup := by
  obtain ⟨serial, spared⟩ := exists_spared (.initial heap) commands
  have apart := (course commands (initial_keeps serial) (spared serial (Nat.le_refl _))).apart
  rw [← creations_products, List.map_map] at apart
  have distinct : ((creations (.initial heap) commands).map Creation.shader).Nodup :=
    .of_map Shader.id (by rwa [List.map_map])
  exact distinct.sublist (List.filter_sublist.map _)

theorem toFinset_survivors (commands : List Command) :
    ((survivors heap commands).map Creation.shader).toFinset =
      (run (.initial heap) commands).2.liveShaders := by
  obtain ⟨serial, spared⟩ := exists_spared (.initial heap) commands
  have left := (course commands (initial_keeps serial) (spared serial (Nat.le_refl _))).left
  ext shader
  rw [List.mem_toFinset, List.mem_map]
  constructor
  · rintro ⟨made, member, rfl⟩
    simpa using (List.mem_filter.mp member).2
  · intro alive
    obtain impossible | ⟨maker, product⟩ := left shader alive
    · exact absurd impossible (Finset.notMem_empty _)
    · rw [← creations_products] at product
      obtain ⟨made, member, same⟩ := List.mem_map.mp product
      obtain rfl : made.shader = shader := congrArg Prod.fst same
      exact ⟨made, List.mem_filter.mpr ⟨member, by simpa using alive⟩, rfl⟩

/-- The records of shaders are those of the shaders that are alive and were made on devices that keep
them. -/
theorem sum_records (serial : Nat) (commands : List Command) :
    ∑ shader ∈ (run (.initial heap) commands).2.liveShaders, recordsAt serial shader.assets =
      recordsOf (recorded heap serial commands) := by
  have kept (list : List Creation)
      (formed : ∀ made ∈ list, made.shader.MadeFrom made.maker made.info) :
      (list.map fun made => recordsAt serial made.shader.assets).sum =
        recordsOf (list.filter fun made =>
          made.maker.debug = true ∧ made.maker.allocator.serial = serial) := by
    induction list with
    | nil => rfl
    | cons made rest ih =>
        obtain ⟨first, later⟩ := List.forall_mem_cons.mp formed
        rw [List.map_cons, List.sum_cons, ih later, first.records]
        by_cases keeps : made.maker.debug = true ∧ made.maker.allocator.serial = serial
        · simp [recordsOf, keeps]
        · simp [recordsOf, keeps]
  rw [← toFinset_survivors, List.sum_toFinset _ (survivors_nodup commands), List.map_map]
  exact kept (survivors heap commands) fun made member => creation_made (List.mem_filter.mp member).1

/-- At the end of every run the records of an allocator are one for each shader that is alive and was
made on a device that keeps records in its memory, as long as the code of the shader, and those that
the application holds for itself. -/
theorem records_account (serial : Nat) {commands : List Command}
    (operations : ∀ command ∈ commands, command.isOperation = true) {tracker : Tracker}
    (watched : (run (.initial heap) commands).2.allocators serial = .tracking tracker) :
    tracker.liveUsage .debug =
      { count := (recorded heap serial commands).length +
          ((run (.initial heap) commands).2.ownRecords serial).card
        bytes := ((recorded heap serial commands).map fun made => made.info.code.length).sum +
          (((run (.initial heap) commands).2.ownRecords serial).map Prod.fst).sum } := by
  have own : ((run (.initial heap) commands).2.ownRecords serial).filter
      (fun allocation => allocation.2 = .debug) =
        (run (.initial heap) commands).2.ownRecords serial :=
    Multiset.filter_eq_self.mpr fun allocation member => (Multiset.mem_filter.mp member).2
  have shaders : (recordsOf (recorded heap serial commands)).filter
      (fun allocation => allocation.2 = .debug) = recordsOf (recorded heap serial commands) := by
    refine Multiset.filter_eq_self.mpr fun allocation member => ?_
    obtain ⟨made, _, rfl⟩ := List.mem_map.mp member
    rfl
  rw [(initial_settled.run operations).records watched, sum_records, Usage.total,
    Multiset.filter_add, shaders, own]
  simp only [recordsOf, Multiset.card_add, Multiset.coe_card, List.length_map, Multiset.map_add,
    Multiset.map_coe, Multiset.sum_add, Multiset.sum_coe, List.map_map]
  rfl

end Session

end ShaderDriver
