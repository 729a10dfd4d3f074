import ShaderDriver.Proofs.Registry.Roster
import ShaderDriver.Proofs.Session.Untouched

namespace ShaderDriver

open Act

/-! The handles that are given out between two shutdowns, and what became of them. -/

structure Ledger where
  devices : Roster .device Device
  shaders : Roster .shader ShaderEntry
  /-- The handles that callers were told, which a caller that unwinds is not. -/
  toldDevices : List (Handle .device)
  toldShaders : List (Handle .shader)

namespace Ledger

variable {ledger : Ledger}

def empty : Ledger :=
  { devices := .empty, shaders := .empty, toldDevices := [], toldShaders := [] }

/-- A device that was admitted is entered. -/
def withDevice (ledger : Ledger) : Exit (Handle .device × Device) → Ledger
  | .done (handle, device) => { ledger with devices := ledger.devices.issue handle device }
  | .failed _ => ledger
  | .unwound => ledger

def withShader (ledger : Ledger) (owner : Handle .device) : Exit (Handle .shader × Shader) → Ledger
  | .done (handle, shader) =>
      { ledger with shaders := ledger.shaders.issue handle { owner, shader } }
  | .failed _ => ledger
  | .unwound => ledger

def tellDevice (ledger : Ledger) : Exit (Handle .device) → Ledger
  | .done handle => { ledger with toldDevices := handle :: ledger.toldDevices }
  | .failed _ => ledger
  | .unwound => ledger

def tellShader (ledger : Ledger) : Exit (Handle .shader) → Ledger
  | .done handle => { ledger with toldShaders := handle :: ledger.toldShaders }
  | .failed _ => ledger
  | .unwound => ledger

/-- The handles of the shaders that were asked of a device. -/
def ownedBy (ledger : Ledger) (owner : Handle .device) : List (Handle .shader) :=
  (ledger.shaders.valid.filter fun entry => entry.2.owner == owner).map Prod.fst

/-- A valid device goes, and the shaders that were asked of it. -/
def withoutDevice (ledger : Ledger) (handle : Handle .device) : Ledger :=
  if handle ∈ ledger.devices.valid.map Prod.fst then
    { ledger with
      devices := ledger.devices.retire [handle]
      shaders := ledger.shaders.retire (ledger.ownedBy handle) }
  else ledger

def withoutShader (ledger : Ledger) (handle : Handle .shader) : Ledger :=
  { ledger with shaders := ledger.shaders.retire [handle] }

/-- Handles are entered when an entry point assigns them, and retired when one destroys what they
lead to. -/
def next (ledger : Ledger) (world : World) : Session.CallCommand → Ledger
  | .startUp =>
      match world.registries with
      | none => .empty
      | some _ => ledger
  | .shutdown => .empty
  | .createDevice settings =>
      (ledger.withDevice ((settings.config >>= EntryPoint.admitDevice) world).1).tellDevice
        ((settings.config >>= EntryPoint.createDevice) world).1
  | .createShader _ owner info verdict =>
      (ledger.withShader owner (EntryPoint.admitShader owner info verdict world).1).tellShader
        (EntryPoint.createShader owner info verdict world).1
  | .destroyDevice handle => ledger.withoutDevice handle
  | .destroyObject handle => ledger.withoutShader handle
  | _ => ledger

theorem tellDevice_rosters (ledger : Ledger) (exit : Exit (Handle .device)) :
    (ledger.tellDevice exit).devices = ledger.devices ∧
      (ledger.tellDevice exit).shaders = ledger.shaders := by
  cases exit <;> exact ⟨rfl, rfl⟩

theorem tellShader_rosters (ledger : Ledger) (exit : Exit (Handle .shader)) :
    (ledger.tellShader exit).devices = ledger.devices ∧
      (ledger.tellShader exit).shaders = ledger.shaders := by
  cases exit <;> exact ⟨rfl, rfl⟩

/-- Of the handles of devices some may not have been told; those of shaders all were. -/
structure Told (ledger : Ledger) : Prop where
  devices : ledger.toldDevices.Sublist ledger.devices.issued
  shaders : ledger.toldShaders = ledger.shaders.issued

def ToldAll (ledger : Ledger) : Prop :=
  ledger.toldDevices = ledger.devices.issued

theorem empty_told : empty.Told where
  devices := .slnil
  shaders := rfl

theorem Told.createDevice (told : ledger.Told) (config : DeviceConfig) (world : World) :
    ((ledger.withDevice (EntryPoint.admitDevice config world).1).tellDevice
      (EntryPoint.createDevice config world).1).Told := by
  have exit := EntryPoint.createDevice_exit config world
  cases admitted : (EntryPoint.admitDevice config world).1 with
  | done given =>
      rw [admitted] at exit
      rcases exit with exit | exit
      · rw [exit]
        exact ⟨told.devices.cons_cons given.1, told.shaders⟩
      · rw [exit]
        exact ⟨told.devices.cons given.1, told.shaders⟩
  | failed error =>
      rw [admitted] at exit
      rw [exit]
      exact told
  | unwound =>
      rw [admitted] at exit
      rw [exit]
      exact told

theorem Told.createShader (told : ledger.Told) (owner : Handle .device) (info : CreateInfo)
    (verdict : Verdict) (world : World) :
    ((ledger.withShader owner (EntryPoint.admitShader owner info verdict world).1).tellShader
      (EntryPoint.createShader owner info verdict world).1).Told := by
  have exit := EntryPoint.createShader_exit owner info verdict world
  cases admitted : (EntryPoint.admitShader owner info verdict world).1 with
  | done given =>
      rw [admitted] at exit
      rw [exit]
      exact ⟨told.devices, congrArg (given.1 :: ·) told.shaders⟩
  | failed error =>
      rw [admitted] at exit
      rw [exit]
      exact told
  | unwound =>
      rw [admitted] at exit
      rw [exit]
      exact told

theorem Told.next (told : ledger.Told) (world : World) (asked : Session.CallCommand) :
    (ledger.next world asked).Told := by
  cases asked with
  | startUp =>
      simp only [Ledger.next]
      split
      · exact empty_told
      · exact told
  | shutdown => exact empty_told
  | createDevice settings =>
      simp only [Ledger.next]
      rw [bind_apply, bind_apply]
      rcases settings.config world with ⟨exit, middle⟩
      cases exit with
      | done config => exact told.createDevice config middle
      | failed error => exact told
      | unwound => exact told
  | createShader call owner info verdict => exact told.createShader owner info verdict world
  | destroyDevice handle =>
      simp only [Ledger.next, withoutDevice]
      split
      · exact ⟨told.devices, told.shaders⟩
      · exact told
  | destroyObject handle => exact ⟨told.devices, told.shaders⟩
  | _ => exact told

theorem ToldAll.createDevice (told : ledger.ToldAll) {config : DeviceConfig} {world : World}
    (calm : (EntryPoint.createDevice config world).1 ≠ .unwound) :
    ((ledger.withDevice (EntryPoint.admitDevice config world).1).tellDevice
      (EntryPoint.createDevice config world).1).ToldAll := by
  have exit := EntryPoint.createDevice_exit config world
  cases admitted : (EntryPoint.admitDevice config world).1 with
  | done given =>
      rw [admitted] at exit
      rcases exit with exit | exit
      · rw [exit]
        exact congrArg (given.1 :: ·) told
      · exact absurd exit calm
  | failed error =>
      rw [admitted] at exit
      rw [exit]
      exact told
  | unwound =>
      rw [admitted] at exit
      exact absurd exit calm

theorem ToldAll.next (told : ledger.ToldAll) {world : World} (asked : Session.CallCommand)
    (calm : (asked.run world).1 ≠ .unwound) : (ledger.next world asked).ToldAll := by
  cases asked with
  | startUp =>
      simp only [Ledger.next]
      split
      · rfl
      · exact told
  | shutdown => rfl
  | createDevice settings =>
      simp only [Session.CallCommand.run, Ledger.next] at calm ⊢
      rw [bind_apply] at calm
      rw [bind_apply, bind_apply]
      generalize settings.config world = ran at calm ⊢
      obtain ⟨exit, middle⟩ := ran
      cases exit with
      | failed error => exact told
      | unwound => exact told
      | done config =>
          refine told.createDevice fun unwound => calm ?_
          simp only [bind_apply]
          generalize EntryPoint.createDevice config middle = created at unwound ⊢
          obtain ⟨_, last⟩ := created
          obtain rfl := unwound
          rfl
  | createShader call owner info verdict =>
      simp only [Ledger.next]
      generalize (EntryPoint.admitShader owner info verdict world).1 = admitted
      generalize (EntryPoint.createShader owner info verdict world).1 = created
      cases admitted <;> cases created <;> exact told
  | destroyDevice handle =>
      simp only [Ledger.next, withoutDevice]
      split <;> exact told
  | _ => exact told

/-- So few removals that no version of a slot comes around. -/
structure Small (ledger : Ledger) : Prop where
  devices : ledger.devices.removals < 2 ^ 31
  shaders : ledger.shaders.removals < 2 ^ 31

theorem Small.of_withDevice {exit : Exit (Handle .device × Device)}
    (small : (ledger.withDevice exit).Small) : ledger.Small := by
  cases exit with
  | done admitted =>
      have devices : ledger.devices.removals < 2 ^ 31 := by
        have devices := small.devices
        rwa [withDevice, Roster.issue_removals] at devices
      exact ⟨devices, small.shaders⟩
  | failed error => exact small
  | unwound => exact small

theorem Small.of_withShader {owner : Handle .device} {exit : Exit (Handle .shader × Shader)}
    (small : (ledger.withShader owner exit).Small) : ledger.Small := by
  cases exit with
  | done admitted =>
      have shaders : ledger.shaders.removals < 2 ^ 31 := by
        have shaders := small.shaders
        rwa [withShader, Roster.issue_removals] at shaders
      exact ⟨small.devices, shaders⟩
  | failed error => exact small
  | unwound => exact small

theorem Small.of_withoutDevice {handle : Handle .device}
    (small : (ledger.withoutDevice handle).Small) : ledger.Small := by
  unfold withoutDevice at small
  split at small
  · exact ⟨Nat.lt_of_le_of_lt (Roster.removals_le_retire _ _) small.devices,
      Nat.lt_of_le_of_lt (Roster.removals_le_retire _ _) small.shaders⟩
  · exact small

theorem Small.of_withoutShader {handle : Handle .shader}
    (small : (ledger.withoutShader handle).Small) : ledger.Small :=
  ⟨small.devices, Nat.lt_of_le_of_lt (Roster.removals_le_retire _ _) small.shaders⟩

end Ledger

/-- Both registries show what the ledger says. -/
structure Registries.Records (all : Registries) (ledger : Ledger) : Prop where
  devices : all.devices.content.Records ledger.devices
  shaders : all.shaders.content.Records ledger.shaders

namespace Registries

variable {all : Registries} {ledger : Ledger}

theorem empty_records : Registries.empty.Records .empty where
  devices := Registry.records_empty
  shaders := Registry.records_empty

theorem Records.withoutDevice {handle : Handle .device} (records : all.Records ledger)
    (small : (ledger.withoutDevice handle).Small) :
    (match all.devices.content.get? handle with
      | none => all
      | some _ => EntryPoint.dismissed all handle).Records (ledger.withoutDevice handle) := by
  unfold Ledger.withoutDevice at small ⊢
  cases stored : all.devices.content.get? handle with
  | none =>
      rw [if_neg (records.devices.get?_eq_none.mp stored)]
      exact records
  | some device =>
      have valid : handle ∈ ledger.devices.valid.map Prod.fst :=
        List.mem_map_of_mem (records.devices.get?_eq_some.mp stored)
      rw [if_pos valid] at small ⊢
      refine ⟨records.devices.retire stored small.devices, ?_⟩
      have owned : ∀ shader, shader ∈ ledger.ownedBy handle ↔
          shader ∈ (EntryPoint.ownedBy handle all.shaders.content).map Prod.fst :=
        fun shader => ((records.shaders.valid.filter _).map Prod.fst).mem_iff
      have few := small.shaders
      simp only [Roster.retire_congr owned] at few ⊢
      exact records.shaders.retireAll few

theorem Records.withoutShader {handle : Handle .shader} (records : all.Records ledger)
    (small : (ledger.withoutShader handle).Small) :
    (all.withShaders (all.shaders.content.erase handle)).Records (ledger.withoutShader handle) :=
  ⟨records.devices, records.shaders.retireAll small.shaders⟩

end Registries

/-- Whenever the registries are healthy, they show what the ledger says. -/
def World.Follows (world : World) (ledger : Ledger) : Prop :=
  ∀ all, world.registries = some all → all.Healthy → ledger.Small → all.Records ledger

namespace World.Follows

variable {world after : World} {ledger : Ledger}

theorem alike (follows : world.Follows ledger) (same : after.registries = world.registries) :
    after.Follows ledger := by
  unfold Follows at follows ⊢
  rwa [same]

theorem told {other : Ledger} (follows : world.Follows ledger)
    (same : other.devices = ledger.devices ∧ other.shaders = ledger.shaders) :
    world.Follows other := by
  intro all present healthy small
  have few : ledger.Small := ⟨same.1 ▸ small.devices, same.2 ▸ small.shaders⟩
  have records := follows all present healthy few
  exact ⟨by rw [same.1]; exact records.devices, by rw [same.2]; exact records.shaders⟩

theorem held {α : Type} {act : Act α} (follows : world.Follows ledger) (quiet : untouched.Holds act) :
    (act world).2.Follows ledger :=
  follows.alike (quiet world)

theorem startUp (follows : world.Follows ledger) :
    (EntryPoint.startUp world).2.Follows (ledger.next world .startUp) := by
  unfold Ledger.next
  cases found : world.registries with
  | some all =>
      refine follows.alike ?_
      simp only [EntryPoint.startUp, Act.change, found, Option.getD_some]
  | none =>
      intro all present _ _
      simp only [EntryPoint.startUp, Act.change, found, Option.getD_none] at present
      cases present
      exact Registries.empty_records

theorem shutdown (world : World) : (EntryPoint.shutdown world).2.Follows .empty := by
  intro left found healthy _
  rw [EntryPoint.shutdown_registries found healthy]
  exact Registries.empty_records

theorem admitDevice (follows : world.Follows ledger) (config : DeviceConfig) :
    (EntryPoint.admitDevice config world).2.Follows
      (ledger.withDevice (EntryPoint.admitDevice config world).1) := by
  have reverts : (EntryPoint.admitDevice config world).1.isDone = false →
      world.Retains (EntryPoint.admitDevice config world).2 :=
    (EntryPoint.admitDevice_reverts config).retains
  cases exit : (EntryPoint.admitDevice config world).1 with
  | failed error =>
      rw [exit] at reverts
      exact follows.alike (reverts rfl).registries
  | unwound =>
      rw [exit] at reverts
      exact follows.alike (reverts rfl).registries
  | done admitted =>
      obtain ⟨handle, device⟩ := admitted
      obtain ⟨all, found, rfl, registered⟩ := EntryPoint.admitDevice_registries exit
      intro left present healthy small
      rw [registered] at present
      cases present
      have records := follows all found ⟨healthy.devices, healthy.shaders⟩ small.of_withDevice
      exact ⟨records.devices.insert device, records.shaders⟩

theorem admitShader (follows : world.Follows ledger) (owner : Handle .device) (info : CreateInfo)
    (verdict : Verdict) : (EntryPoint.admitShader owner info verdict world).2.Follows
      (ledger.withShader owner (EntryPoint.admitShader owner info verdict world).1) := by
  have reverts : (EntryPoint.admitShader owner info verdict world).1.isDone = false →
      world.Retains (EntryPoint.admitShader owner info verdict world).2 :=
    (EntryPoint.admitShader_reverts owner info verdict).retains
  cases exit : (EntryPoint.admitShader owner info verdict world).1 with
  | failed error =>
      rw [exit] at reverts
      exact follows.alike (reverts rfl).registries
  | unwound =>
      rw [exit] at reverts
      exact follows.alike (reverts rfl).registries
  | done admitted =>
      obtain ⟨handle, shader⟩ := admitted
      obtain ⟨all, found, rfl, registered⟩ := EntryPoint.admitShader_registries exit
      intro left present healthy small
      rw [registered] at present
      cases present
      have records := follows all found ⟨healthy.devices, healthy.shaders⟩ small.of_withShader
      exact ⟨records.devices, records.shaders.insert _⟩

theorem destroyDevice (follows : world.Follows ledger) (handle : Handle .device) :
    (EntryPoint.destroyDevice handle world).2.Follows (ledger.withoutDevice handle) := by
  intro left found healthy small
  obtain ⟨all, present, whole, rfl⟩ := EntryPoint.destroyDevice_registries found healthy
  exact (follows all present whole small.of_withoutDevice).withoutDevice small

theorem destroyObject (follows : world.Follows ledger) (handle : Handle .shader) :
    (EntryPoint.destroyObject handle world).2.Follows (ledger.withoutShader handle) := by
  intro left found healthy small
  obtain ⟨all, present, whole, rfl⟩ := EntryPoint.destroyObject_registries found healthy
  exact (follows all present whole small.of_withoutShader).withoutShader small

theorem shaderCall (follows : world.Follows ledger) (call : Session.CreationCall)
    (owner : Handle .device) (info : CreateInfo) (verdict : Verdict) :
    (Session.createShader call owner info verdict world).2.Follows
      (ledger.withShader owner (EntryPoint.admitShader owner info verdict world).1) := by
  rw [Session.shaderCall_world]
  exact follows.admitShader owner info verdict

theorem call (follows : world.Follows ledger) (command : Session.CallCommand) :
    (command.run world).2.Follows (ledger.next world command) := by
  have quiet (command : Session.CallCommand) (reads : command.reads = true) :
      (command.run world).2.Follows ledger :=
    follows.held (Session.call_untouched command reads)
  have loud {act : Act Unit} {other : Ledger} (done : (act world).2.Follows other) :
      (Session.silently act world).2.Follows other :=
    bind_keeps (fun after => after.Follows other) done fun _ _ _ kept => kept
  cases command with
  | startUp => exact loud follows.startUp
  | shutdown => exact loud (shutdown world)
  | shaderCount => exact quiet _ rfl
  | createDevice settings =>
      have configured : (settings.config world).2.registries = world.registries :=
        Session.config_untouched settings world
      simp only [Session.CallCommand.run, Ledger.next]
      rw [bind_apply, bind_apply, bind_apply]
      generalize settings.config world = ran at configured ⊢
      obtain ⟨exit, middle⟩ := ran
      have start : middle.Follows ledger := follows.alike configured
      cases exit with
      | failed error => exact start
      | unwound => exact start
      | done config =>
          -- The device is registered before the last entry, so a panic there does not undo it.
          have created := ((start.admitDevice config).alike
            (EntryPoint.createDevice_registries config middle)).told
            (Ledger.tellDevice_rosters _ (EntryPoint.createDevice config middle).1)
          exact bind_keeps (fun after => after.Follows _) created fun _ _ _ kept => kept
  | device into handle => exact quiet _ rfl
  | destroyDevice handle => exact loud (follows.destroyDevice handle)
  | createShader call owner info verdict =>
      have created := (follows.shaderCall call owner info verdict).told
        (Ledger.tellShader_rosters _ (EntryPoint.createShader owner info verdict world).1)
      exact bind_keeps (fun after => after.Follows _) created fun _ _ _ kept => kept
  | shader into handle => exact quiet _ rfl
  | destroyObject handle => exact loud (follows.destroyObject handle)
  | log record => exact quiet _ rfl
  | setLogger faults => exact quiet _ rfl
  | resetLogger environment => exact quiet _ rfl

end World.Follows

namespace Session

/-- What one command does to the ledger, in the world in which it is given. -/
def Command.record (command : Command) (world : World) (ledger : Ledger) : Ledger :=
  match command with
  | .call asked => ledger.next { world with trace := [] } asked
  | _ => ledger

/-- The ledger after commands given one after the other. -/
def history (world : World) (ledger : Ledger) : List Command → Ledger
  | [] => ledger
  | command :: rest => history (step world command).2 (command.record world ledger) rest

/-- No call unwinds. -/
def Calm (world : World) (commands : List Command) : Prop :=
  ∀ answer ∈ (run world commands).1, answer.exit ≠ .unwound

variable {world : World} {ledger : Ledger}

theorem step_follows (follows : world.Follows ledger) (command : Command) :
    (step world command).2.Follows (command.record world ledger) := by
  have start : World.Follows { world with trace := [] } ledger := follows
  cases command with
  | memory command => exact start.held (memory_untouched command _)
  | compiler command => exact start.held (compiler_untouched command _)
  | device command => exact start.held (device_untouched command _)
  | call command => exact start.call command
  | held command => exact start.held (held_untouched command _)

theorem run_follows {commands : List Command} (follows : world.Follows ledger) :
    (run world commands).2.Follows (history world ledger commands) := by
  induction commands generalizing world ledger with
  | nil => exact follows
  | cons command rest ih => exact ih (step_follows follows command)

theorem record_told (told : ledger.Told) (command : Command) (world : World) :
    (command.record world ledger).Told := by
  cases command with
  | memory _ => exact told
  | compiler _ => exact told
  | device _ => exact told
  | held _ => exact told
  | call asked => exact told.next _ asked

theorem history_told {commands : List Command} (told : ledger.Told) :
    (history world ledger commands).Told := by
  induction commands generalizing world ledger with
  | nil => exact told
  | cons command rest ih => exact ih (record_told told command world)

theorem record_toldAll (told : ledger.ToldAll) (command : Command)
    (calm : (step world command).1.exit ≠ .unwound) : (command.record world ledger).ToldAll := by
  cases command with
  | memory _ => exact told
  | compiler _ => exact told
  | device _ => exact told
  | held _ => exact told
  | call asked => exact told.next asked calm

/-- Unless a call unwinds, every handle that is given out is told to a caller. -/
theorem history_toldAll {commands : List Command} (told : ledger.ToldAll)
    (calm : Calm world commands) : (history world ledger commands).ToldAll := by
  induction commands generalizing world ledger with
  | nil => exact told
  | cons command rest ih =>
      refine ih (record_toldAll told command (calm _ List.mem_cons_self)) fun answer member => ?_
      exact calm answer (List.mem_cons_of_mem _ member)

end Session

end ShaderDriver
