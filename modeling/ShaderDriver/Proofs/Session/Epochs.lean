import ShaderDriver.Proofs.Session.Ledger

namespace ShaderDriver

open Act EntryPoint

/-! Within an epoch no handle is used again. The next epoch begins with the same handles. -/

/-- There are registries, and no lock is poisoned. -/
def World.healthy (world : World) : Bool :=
  match world.registries with
  | none => false
  | some all => !all.devices.poisoned && !all.shaders.poisoned

/-- No entry point finds or ends a device under the handle. -/
def World.RefusesDevice (world : World) (handle : Handle .device) : Prop :=
  Refuses (device handle) handle world ∧ Refuses (destroyDevice handle) handle world

def World.RefusesShader (world : World) (handle : Handle .shader) : Prop :=
  Refuses (shader handle) handle world ∧ Refuses (destroyObject handle) handle world

/-- Callers find what the ledger says, and all other handles are refused. -/
structure World.Shows (world : World) (ledger : Ledger) : Prop where
  devicesDistinct : ledger.devices.issued.Nodup
  shadersDistinct : ledger.shaders.issued.Nodup
  devicesKnown : ∀ entry ∈ ledger.devices.valid, entry.1 ∈ ledger.devices.issued
  shadersKnown : ∀ entry ∈ ledger.shaders.valid, entry.1 ∈ ledger.shaders.issued
  device : ∀ handle device, EntryPoint.device handle world = (.done device, world) ↔
    (handle, device) ∈ ledger.devices.valid
  shader : ∀ handle shader, EntryPoint.shader handle world = (.done shader, world) ↔
    ∃ owner, (handle, { owner, shader }) ∈ ledger.shaders.valid
  unknownDevice : ∀ handle, handle ∉ ledger.devices.valid.map Prod.fst →
    world.RefusesDevice handle
  unknownShader : ∀ handle, handle ∉ ledger.shaders.valid.map Prod.fst →
    world.RefusesShader handle
  nullDevice : ledger.devices.issued.length < Handle.nullIndex →
    ∀ handle ∈ ledger.devices.issued, handle.index ≠ Handle.nullIndex
  nullShader : ledger.shaders.issued.length < Handle.nullIndex →
    ∀ handle ∈ ledger.shaders.issued, handle.index ≠ Handle.nullIndex

namespace World

variable {world : World} {ledger : Ledger}

theorem healthy_iff : world.healthy = true ↔ ∃ all, world.registries = some all ∧ all.Healthy := by
  unfold healthy
  cases found : world.registries with
  | none => simp
  | some all =>
      simp only [Bool.and_eq_true, Bool.not_eq_true', Option.some.injEq]
      constructor
      · exact fun fine => ⟨all, rfl, fine.1, fine.2⟩
      · rintro ⟨_, rfl, fine⟩
        exact ⟨fine.devices, fine.shaders⟩

theorem Follows.records (follows : world.Follows ledger) (healthy : world.healthy = true)
    (small : ledger.Small) :
    ∃ all, world.registries = some all ∧ all.Healthy ∧ all.Records ledger := by
  obtain ⟨all, present, fine⟩ := healthy_iff.mp healthy
  exact ⟨all, present, fine, follows all present fine small⟩

theorem Follows.shows (follows : world.Follows ledger) (healthy : world.healthy = true)
    (small : ledger.Small) : world.Shows ledger := by
  obtain ⟨all, present, fine, records⟩ := follows.records healthy small
  refine
    { devicesDistinct := records.devices.distinct
      shadersDistinct := records.shaders.distinct
      devicesKnown := records.devices.known
      shadersKnown := records.shaders.known
      device := fun handle device => ?_
      shader := fun handle shader => ?_
      unknownDevice := fun handle unknown =>
        unknown_device_refused present fine (records.devices.get?_eq_none.mpr unknown)
      unknownShader := fun handle unknown =>
        unknown_shader_refused present fine (records.shaders.get?_eq_none.mpr unknown)
      nullDevice := fun few handle issued => records.devices.not_null few issued
      nullShader := fun few handle issued => records.shaders.not_null few issued }
  · rw [← records.devices.get?_eq_some, device_run present fine]
    cases all.devices.content.get? handle with
    | none => simpa using failLogged_ne_done _ _ _ _
    | some found => simp
  · simp only [← records.shaders.get?_eq_some]
    rw [shader_run present fine]
    cases all.shaders.content.get? handle with
    | none => simpa using failLogged_ne_done _ _ _ _
    | some found =>
        constructor
        · rintro ⟨rfl⟩
          exact ⟨found.owner, rfl⟩
        · rintro ⟨owner, ⟨rfl⟩⟩
          rfl

theorem Follows.first (follows : world.Follows ledger) (healthy : world.healthy = true)
    (small : ledger.Small) :
    (ledger.devices.issued ≠ [] → ⟨1, 1⟩ ∈ ledger.devices.issued) ∧
      (ledger.shaders.issued ≠ [] → ⟨1, 1⟩ ∈ ledger.shaders.issued) := by
  obtain ⟨_, _, _, records⟩ := follows.records healthy small
  exact ⟨records.devices.first, records.shaders.first⟩

theorem Shows.device_refused_iff (shows : world.Shows ledger) (handle : Handle .device) :
    world.RefusesDevice handle ↔ handle ∉ ledger.devices.valid.map Prod.fst := by
  refine ⟨fun refused valid => ?_, shows.unknownDevice handle⟩
  obtain ⟨⟨_, device⟩, member, rfl⟩ := List.mem_map.mp valid
  have found := (shows.device _ _).mpr member
  have exit := refused.1.exit
  rw [found] at exit
  split at exit <;> cases exit

theorem Shows.shader_refused_iff (shows : world.Shows ledger) (handle : Handle .shader) :
    world.RefusesShader handle ↔ handle ∉ ledger.shaders.valid.map Prod.fst := by
  refine ⟨fun refused valid => ?_, shows.unknownShader handle⟩
  obtain ⟨⟨_, entry⟩, member, rfl⟩ := List.mem_map.mp valid
  have found := (shows.shader _ entry.shader).mpr ⟨entry.owner, member⟩
  have exit := refused.1.exit
  rw [found] at exit
  split at exit <;> cases exit

end World

namespace Session

variable {heap : Heap}

theorem initial_follows : (World.initial heap).Follows .empty :=
  fun _ impossible => nomatch impossible

theorem run_append (world : World) (first second : List Command) :
    (run world (first ++ second)).2 = (run (run world first).2 second).2 := by
  induction first generalizing world with
  | nil => rfl
  | cons command rest ih => exact ih _

theorem history_append (world : World) (ledger : Ledger) (first second : List Command) :
    history world ledger (first ++ second) =
      history (run world first).2 (history world ledger first) second := by
  induction first generalizing world ledger with
  | nil => rfl
  | cons command rest ih => exact ih _ _

/-- After these commands an epoch begins: nothing has been done yet, or the driver has just been
initialised or shut down. -/
inductive Opens (heap : Heap) : List Command → Prop
  | start : Opens heap []
  | startUp {earlier : List Command}
      (absent : (run (.initial heap) earlier).2.registries = none) :
      Opens heap (earlier ++ [.call .startUp])
  | shutdown (earlier : List Command) : Opens heap (earlier ++ [.call .shutdown])

/-- An epoch begins with nothing in the ledger. -/
theorem Opens.history_eq_empty {before : List Command} (opens : Opens heap before) :
    history (.initial heap) .empty before = .empty := by
  cases opens with
  | start => rfl
  | startUp absent =>
      rw [history_append]
      simp only [history, Command.record, Ledger.next, absent]
  | shutdown earlier =>
      rw [history_append]
      rfl

/-- Handles are not used again before the next shutdown, and they lead to the objects that they were
given out for until those are destroyed. All of them were told to callers, but for handles of devices
at whose last entry the logger panicked: if no call of the epoch unwinds, there are none of those. -/
theorem handles_follow_ledger (commands : List Command)
    (healthy : (run (.initial heap) commands).2.healthy = true)
    (small : (history (.initial heap) .empty commands).Small) :
    (run (.initial heap) commands).2.Shows (history (.initial heap) .empty commands) ∧
      (history (.initial heap) .empty commands).Told ∧
      ∀ before epoch, commands = before ++ epoch → Opens heap before →
        Calm (run (.initial heap) before).2 epoch →
          (history (.initial heap) .empty commands).ToldAll := by
  refine ⟨(run_follows initial_follows).shows healthy small, history_told Ledger.empty_told, ?_⟩
  rintro before epoch rfl opens calm
  rw [history_append, opens.history_eq_empty]
  exact history_toldAll rfl calm

def plainSettings : Settings :=
  { extensions := none, debug := none, gpuName := none, allocator := none, compiler := none }

def plainShader (owner : Handle .device) : Command :=
  .call (.createShader .core owner
    (.bil ((Container.Bil.Header.current 7).toBytes ++ [1, 2, 3, 4])) .panics)

/-- The logger panics when a device has been admitted. -/
def panicAtLastEntry : List Command :=
  [.call .startUp, .call (.setLogger [{ severity := some .info, skip := 0 }]),
    .call (.createDevice plainSettings)]

/-- After such a panic and a shutdown, the slot of the first device is used again. -/
def slotUsedAgain : List Command :=
  [.call (.createDevice plainSettings), .call (.destroyDevice ⟨1, 1⟩),
    .call (.createDevice plainSettings)]

theorem slot_used_again_shows :
    let commands := (panicAtLastEntry ++ [.call .shutdown]) ++ slotUsedAgain
    ¬ Calm .initial commands ∧
      (history .initial .empty commands).devices.issued = [⟨1, 3⟩, ⟨1, 1⟩] ∧
      (run .initial commands).2.Shows (history .initial .empty commands) ∧
      (history .initial .empty commands).ToldAll := by
  intro commands
  have healthy : (run .initial commands).2.healthy = true := by decide +kernel
  have small : (history .initial .empty commands).Small := ⟨by decide +kernel, by decide +kernel⟩
  have calm : Calm (run .initial (panicAtLastEntry ++ [.call .shutdown])).2 slotUsedAgain := by
    unfold Calm
    decide +kernel
  obtain ⟨shows, _, told⟩ := handles_follow_ledger commands healthy small
  refine ⟨?_, by decide +kernel, shows, told _ slotUsedAgain rfl (.shutdown _) calm⟩
  unfold Calm
  decide +kernel

/-- The caller is told no handle, and yet there is one that leads to a device. -/
theorem untold_handle_leads_to_device :
    (run .initial panicAtLastEntry).2.healthy = true ∧
      (history .initial .empty panicAtLastEntry).devices.removals = 0 ∧
      (run .initial panicAtLastEntry).1.map Answer.exit =
        [.done (some .nothing), .done (some .nothing), .unwound] ∧
      (history .initial .empty panicAtLastEntry).toldDevices = [] ∧
      (device ⟨1, 1⟩ (run .initial panicAtLastEntry).2).1.isDone = true := by
  refine ⟨?_, ?_, ?_, ?_, ?_⟩ <;> decide +kernel

/-! Handles from before a shutdown. -/

/-- The world after some commands and a shutdown. -/
def ended (heap : Heap) (before : List Command) : World :=
  (run (.initial heap) (before ++ [.call .shutdown])).2

/-- The world after more commands. -/
def resumed (heap : Heap) (before later : List Command) : World :=
  (run (ended heap before) later).2

/-- What is given out after the shutdown. -/
def anew (heap : Heap) (before later : List Command) : Ledger :=
  history (ended heap before) .empty later

theorem ended_follows (before : List Command) : (ended heap before).Follows .empty := by
  unfold ended
  rw [run_append]
  exact step_follows (run_follows initial_follows) (.call .shutdown)

/-- A handle from before a shutdown is refused just as long as it is not given out again, and then it
leads to the new object. The first handle is given out again. -/
theorem earlier_handle_is_refused_until_given_out_again (before later : List Command)
    (healthyBefore : (run (.initial heap) before).2.healthy = true)
    (smallBefore : (history (.initial heap) .empty before).Small)
    (healthy : (resumed heap before later).healthy = true) (small : (anew heap before later).Small) :
    (∀ old ∈ (history (.initial heap) .empty before).devices.issued,
      ((resumed heap before later).RefusesDevice old ↔
        old ∉ (anew heap before later).devices.valid.map Prod.fst) ∧
      ∀ found, device old (resumed heap before later) = (.done found, resumed heap before later) ↔
        (old, found) ∈ (anew heap before later).devices.valid) ∧
    (∀ old ∈ (history (.initial heap) .empty before).shaders.issued,
      ((resumed heap before later).RefusesShader old ↔
        old ∉ (anew heap before later).shaders.valid.map Prod.fst) ∧
      ∀ found, shader old (resumed heap before later) = (.done found, resumed heap before later) ↔
        ∃ owner, (old, { owner, shader := found }) ∈ (anew heap before later).shaders.valid) ∧
    ((history (.initial heap) .empty before).devices.issued ≠ [] →
      (anew heap before later).devices.issued ≠ [] →
      ⟨1, 1⟩ ∈ (history (.initial heap) .empty before).devices.issued ∧
        ⟨1, 1⟩ ∈ (anew heap before later).devices.issued) ∧
    ((history (.initial heap) .empty before).shaders.issued ≠ [] →
      (anew heap before later).shaders.issued ≠ [] →
      ⟨1, 1⟩ ∈ (history (.initial heap) .empty before).shaders.issued ∧
        ⟨1, 1⟩ ∈ (anew heap before later).shaders.issued) := by
  have follows : (resumed heap before later).Follows (anew heap before later) :=
    run_follows (ended_follows before)
  have shows := follows.shows healthy small
  obtain ⟨deviceBefore, shaderBefore⟩ :=
    (run_follows initial_follows).first healthyBefore smallBefore
  obtain ⟨deviceAfter, shaderAfter⟩ := follows.first healthy small
  refine ⟨fun old _ => ?_, fun old _ => ?_, fun earlier again => ?_, fun earlier again => ?_⟩
  · exact ⟨shows.device_refused_iff old, shows.device old⟩
  · exact ⟨shows.shader_refused_iff old, shows.shader old⟩
  · exact ⟨deviceBefore earlier, deviceAfter again⟩
  · exact ⟨shaderBefore earlier, shaderAfter again⟩

def oneDevice : List Command :=
  [.call .startUp, .call (.createDevice plainSettings)]

/-- The handle is refused after the shutdown, before another device is created. -/
theorem earlier_handle_is_refused_after_shutdown :
    ⟨1, 1⟩ ∈ (history .initial .empty oneDevice).devices.issued ∧
      (resumed .standard oneDevice []).RefusesDevice ⟨1, 1⟩ := by
  have healthyBefore : (run .initial oneDevice).2.healthy = true := by decide +kernel
  have smallBefore : (history .initial .empty oneDevice).Small :=
    ⟨by decide +kernel, by decide +kernel⟩
  have healthy : (resumed .standard oneDevice []).healthy = true := by decide +kernel
  have small : (anew .standard oneDevice []).Small := ⟨by decide +kernel, by decide +kernel⟩
  have issued : ⟨1, 1⟩ ∈ (history .initial .empty oneDevice).devices.issued := by decide +kernel
  have unused : ⟨1, 1⟩ ∉ (anew .standard oneDevice []).devices.valid.map Prod.fst := by
    decide +kernel
  refine ⟨issued, ?_⟩
  exact ((earlier_handle_is_refused_until_given_out_again oneDevice [] healthyBefore smallBefore
    healthy small).1 _ issued).1.mpr unused

/-- With a device that was created after the shutdown, the handle from before leads to that one. -/
theorem earlier_handle_leads_to_new_device :
    let world := resumed .standard oneDevice [.call (.createDevice plainSettings)]
    (history .initial .empty oneDevice).devices.issued = [⟨1, 1⟩] ∧
      (device ⟨1, 1⟩ world).1.isDone = true ∧ (destroyDevice ⟨1, 1⟩ world).1 = .done () := by
  refine ⟨?_, ?_, ?_⟩ <;> decide +kernel

end Session

end ShaderDriver
