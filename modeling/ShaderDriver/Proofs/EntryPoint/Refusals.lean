import ShaderDriver.Proofs.EntryPoint.Undelivered
import ShaderDriver.Proofs.EntryPoint.Effects
import ShaderDriver.Proofs.EntryPoint.Upsets
import ShaderDriver.Proofs.Object.Answers
import ShaderDriver.Proofs.Object.Dialects

namespace ShaderDriver

open Memory Act

/-! Calls that come to a poisoned lock are refused, and what they have made by then is given back. If
the logger does not panic, the refusal reaches the caller. -/

variable {α β : Type}

theorem Log.Logger.hear_faultless {logger : Logger} (faultless : logger.faultless = true)
    (events : List Event) : logger.hear events = (false, logger) := by
  induction events with
  | nil => rfl
  | cons event rest ih =>
      unfold hear
      cases event.entry? with
      | none => exact ih
      | some record =>
          simp only [receive_faultless faultless, ih]
          rfl

namespace Act

variable {verdict : Option Verdict} {excuse : Prop} {act : Act α} {release : Act Unit}
  {world : World} {error : Error}

theorem Explained.logger (explained : Explained verdict excuse act)
    (faultless : world.logger.faultless = true) : (act world).2.logger = world.logger := by
  obtain ⟨events, passes, _⟩ := (explained world).reason
  rw [passes.logger, Log.Logger.hear_faultless faultless]

theorem Explained.faultless {exit : Exit α} {after : World}
    (explained : Explained verdict excuse act) (ran : act world = (exit, after))
    (faultless : world.logger.faultless = true) : after.logger.faultless = true := by
  have kept := explained.logger faultless
  rw [ran] at kept
  rwa [kept]

/-- No compiler is asked. -/
abbrev unasking : Frame := showing fun event => event.asksCompiler = false

/-- Without a fault of the logger, and with no compiler asked, only an account that is out of order
could unwind an action. -/
theorem Explained.finishes (explained : Explained none False act) (unasked : unasking.Holds act)
    (faultless : world.logger.faultless = true) (sane : ¬ (act world).2.Faulty) :
    (act world).1 ≠ .unwound := by
  intro unwound
  obtain ⟨events, passes, reason⟩ := (explained world).reason
  obtain ⟨seen, trace, plain⟩ := (unasked world).trace
  have same : seen = events := List.append_cancel_left (trace.symm.trans passes.trace)
  subst same
  -- Only a question to a compiler could be answered with a panic.
  have calm : seen.any (world.upsetBy none) = false := by
    rw [List.any_eq_false]
    intro event member upset
    have unheard := plain event member
    cases event with
    | compiling compiler request base => cases unheard
    | _ => cases upset
  rcases reason unwound with impossible | upset | faulty
  · exact impossible
  · rw [World.upset, Log.Logger.hear_faultless faultless, calm] at upset
    cases upset
  · exact sane faulty

end Act

namespace World

variable {world : World}

/-- Every account is in order, and lists these assets among others. -/
def Lists (world : World) (owned : Multiset Asset) : Prop :=
  ∀ serial, ∃ earlier rest, world.Balances serial earlier (rest + owned)

theorem Lists.accounts {owned : Multiset Asset} {serial : Nat} {tracker : Tracker}
    (lists : world.Lists owned) (watched : world.allocators serial = .tracking tracker) :
    ∃ live, tracker.Accounts live := by
  obtain ⟨_, _, balances⟩ := lists serial
  have accounts := balances.memory
  rw [watched] at accounts
  exact ⟨_, Allocator.tracking_accounts.mp accounts⟩

theorem Lists.sane {owned : Multiset Asset} (lists : world.Lists owned) : ¬ world.Faulty := by
  rintro ⟨serial, poisoned⟩
  cases watched : world.allocators serial with
  | answering answers =>
      rw [watched] at poisoned
      exact poisoned
  | tracking tracker =>
      obtain ⟨_, accounts⟩ := lists.accounts watched
      rw [watched, Allocator.Poisoned, accounts.usable] at poisoned
      cases poisoned

theorem Lists.move {act : Act α} {spent : Multiset Asset} {gained : α → Multiset Asset}
    (lists : world.Lists spent) (moves : act.Moves spent gained) :
    (act world).2.Lists ((act world).1.carried gained) := by
  intro serial
  obtain ⟨earlier, rest, balances⟩ := lists serial
  exact ⟨earlier, rest, moves.balances balances⟩

theorem Lists.made {act : Act α} {gained : α → Multiset Asset} {value : α} {after : World}
    (lists : world.Lists 0) (moves : act.Moves 0 gained) (done : act world = (.done value, after)) :
    after.Lists (gained value) := by
  have moved := lists.move moves
  rwa [done] at moved

theorem Lists.idle {act : Act α} {owned : Multiset Asset} (lists : world.Lists owned)
    (idle : act.Idle) : (act world).2.Lists owned := by
  intro serial
  obtain ⟨earlier, rest, balances⟩ := lists serial
  have kept := idle.balances (by rwa [add_zero])
  rw [Exit.carried_nothing, add_zero] at kept
  exact ⟨earlier, rest, kept⟩

end World

namespace Act

variable {act : Act α} {release : Act Unit} {world : World} {error : Error}

theorem bind_failing {next : α → Act β} (failing : (act world).1 = .failed error) :
    ((act >>= next) world).1 = .failed error := by
  rw [bind_apply]
  generalize act world = ran at failing
  obtain ⟨exit, after⟩ := ran
  obtain rfl : exit = .failed error := failing
  rfl

theorem failLogged_faultless (faultless : world.logger.faultless = true) (error : Error) :
    (failLogged error : Act α) world = (.failed error, (logError error world).2) := by
  rw [EntryPoint.failLogged_exit, Log.Logger.receive_faultless faultless]
  rfl

theorem leave_kept {exit : Exit α} (finished : (release world).1 ≠ .unwound) :
    (leave exit release world).1 = exit := by
  unfold leave
  generalize release world = ran at finished
  obtain ⟨ending, last⟩ := ran
  cases ending with
  | done _ => rfl
  | failed _ => rfl
  | unwound => exact absurd rfl finished

/-- What is owned is given back without ado, and the refusal is passed on. -/
theorem orRelease_refused {owned : Multiset Asset} (refused : act world = failLogged error world)
    (faultless : world.logger.faultless = true) (lists : world.Lists owned)
    (releases : release.Releases owned) (explained : Explained none False release)
    (unasked : unasking.Holds release) : (act.orRelease release world).1 = .failed error := by
  rw [failLogged_faultless faultless] at refused
  have listed : (logError error world).2.Lists owned := lists.idle (.log (errorRecord error))
  have quiet : (logError error world).2.logger.faultless = true :=
    (Explained.log (errorRecord error) : Explained none False _).faultless rfl faultless
  unfold Act.orRelease
  rw [refused]
  exact leave_kept (explained.finishes unasked quiet (listed.move releases).sane)

end Act

/-! Objects ask no compiler on their way out. -/

theorem Shader.teardown_unasking (shader : Shader) : unasking.Holds shader.teardown := by
  intro world
  have kept := shader.teardown_moves.retains world
  refine ⟨kept.registries, kept.held, kept.serials, _, shader.teardown_trace world, ?_⟩
  unfold ceremony Payload.ended
  cases shader.ir.payload <;> cases shader.base.record <;>
    simp [Event.asksCompiler, Allocation.returned]

theorem Device.teardown_unasking (device : Device) : unasking.Holds device.teardown := by
  have unasked : (Event.ending .device device.id).asksCompiler = false := rfl
  exact .bind (fun world => .event unasked world world.allocators world.logger) fun _ =>
    device.base.release_showing fun _ => rfl

theorem Device.letGo_unasking (device : Device) : unasking.Holds device.letGo := by
  intro world
  unfold letGo
  split
  · exact .refl world
  · exact device.teardown_unasking world

namespace EntryPoint

variable {world middle : World} {all : Registries} {error : Error}

/-- A poisoned lock is not gone past. -/
theorem locked_refused {kind : ObjectKind} (part : Registries → Guarded α) (next : α → Act β)
    (present : world.registries = some all) (poisoned : (part all).poisoned = true) :
    (registries >>= fun all => unlocked kind (part all) >>= next) world =
      failLogged (registryPoisoned kind) world := by
  rw [locked_run kind part]
  simp only [present, poisoned, if_true]

theorem raw_failing {act : Act α} (failing : (act world).1 = .failed error) :
    (raw act world).1 = .done (none, error.code) := by
  unfold raw
  generalize act world = ran at failing
  obtain ⟨exit, after⟩ := ran
  obtain rfl : exit = .failed error := failing
  rfl

/-- Both entry points for shaders are the same. -/
theorem eq_createShader {owner : Handle .device} {info : CreateInfo} {verdict : Verdict}
    {call : Act (Handle .shader)}
    (member : call ∈ [createShader owner info verdict, createShaderFromGlsl owner info verdict]) :
    call = createShader owner info verdict := by
  simpa [createShaderFromGlsl] using member

theorem dismiss_refused (handle : Handle .device) (present : world.registries = some all)
    (poisoned : all.shaders.poisoned = true) :
    dismiss handle world = failLogged (registryPoisoned .shader) world := by
  unfold dismiss takeOwned
  simp only [Act.bind_assoc]
  exact locked_refused Registries.shaders _ present poisoned

/-! A creation that fails has registered nothing. -/

theorem createDevice_failing {config : DeviceConfig}
    (failing : (createDevice config world).1 = .failed error) :
    (admitDevice config world).1.isDone = false ∧
      (createDevice config world).2 = (admitDevice config world).2 := by
  have same := createDevice_exit config world
  rw [failing] at same
  rcases ran : admitDevice config world with ⟨exit, after⟩
  rw [ran] at same
  cases exit with
  | done admitted => rcases same with impossible | impossible <;> cases impossible
  | failed other => exact ⟨rfl, congrArg Prod.snd (bind_failed ran)⟩
  | unwound => cases same

/-- Registries, accounts and programs are as they were. -/
theorem createDevice_unmarked {config : DeviceConfig} {serial : Nat} {tracker : Tracker}
    (lists : world.Lists 0) (watched : world.allocators serial = .tracking tracker)
    (failing : (createDevice config world).1 = .failed error) :
    world.Unmarked serial tracker (createDevice config world).2 := by
  obtain ⟨live, accounts⟩ := lists.accounts watched
  obtain ⟨undone, same⟩ := createDevice_failing failing
  rw [same]
  exact (admitDevice_reverts config).unmarked_of_accounts undone watched accounts

theorem createShader_unmarked {owner : Handle .device} {info : CreateInfo} {verdict : Verdict}
    {serial : Nat} {tracker : Tracker} (lists : world.Lists 0)
    (watched : world.allocators serial = .tracking tracker)
    (failing : (createShader owner info verdict world).1 = .failed error) :
    world.Unmarked serial tracker (createShader owner info verdict world).2 := by
  obtain ⟨live, accounts⟩ := lists.accounts watched
  have undone : (createShader owner info verdict world).1.isDone = false := by rw [failing]; rfl
  exact (createShader_reverts owner info verdict).unmarked_of_accounts undone watched accounts

/-! What becomes of a call behind a poisoned lock, if the logger does not panic. -/

variable (present : world.registries = some all) (faultless : world.logger.faultless = true)

include present faultless

/-- What was made is given back, as there is no way to register it. -/
theorem registration_refused {γ : Type} (verdict : Option Verdict) {kind : ObjectKind}
    (part : Registries → Guarded β) (next : β → Act γ) (poisoned : (part all).poisoned = true)
    {make : Act α} {gained : α → Multiset Asset} {made : α} {release : Act Unit}
    (lists : world.Lists 0) (moves : make.Moves 0 gained) (explained : Explained verdict False make)
    (created : make world = (.done made, middle)) (releases : release.Releases (gained made))
    (ends : Explained none False release) (unasked : unasking.Holds release) :
    ((registries >>= fun all => unlocked kind (part all) >>= next).orRelease release middle).1 =
      .failed (registryPoisoned kind) := by
  have there : middle.registries = some all := (moves.retained created).registries.trans present
  have quiet : middle.logger.faultless = true := explained.faultless created faultless
  exact orRelease_refused (locked_refused part next there poisoned) quiet (lists.made moves created)
    releases ends unasked

section

variable (poisoned : all.devices.poisoned = true)

include poisoned

theorem device_refused (handle : Handle .device) :
    device handle world =
      (.failed (registryPoisoned .device), (logError (registryPoisoned .device) world).2) :=
  (locked_refused Registries.devices _ present poisoned).trans (failLogged_faultless faultless _)

theorem destroyDevice_refused (handle : Handle .device) :
    destroyDevice handle world =
      (.failed (registryPoisoned .device), (logError (registryPoisoned .device) world).2) :=
  (locked_refused Registries.devices _ present poisoned).trans (failLogged_faultless faultless _)

theorem createShader_refused (owner : Handle .device) (info : CreateInfo) (verdict : Verdict) :
    createShader owner info verdict world =
      (.failed (registryPoisoned .device), (logError (registryPoisoned .device) world).2) :=
  bind_failed (bind_failed (device_refused present faultless poisoned owner))

/-- A device is made before the lock is tried. -/
theorem createDevice_refused (lists : world.Lists 0) {config : DeviceConfig} {made : Device}
    (created : Device.create config world = (.done made, middle)) :
    (createDevice config world).1 = .failed (registryPoisoned .device) := by
  have refused : ((registerDevice made).orRelease made.teardown middle).1 =
      .failed (registryPoisoned .device) :=
    registration_refused present faultless none Registries.devices _ poisoned lists
      (Device.create_moves config) (Device.create_explained config) created made.teardown_moves
      made.teardown_explained made.teardown_unasking
  have admitted : (admitDevice config world).1 = .failed (registryPoisoned .device) := by
    unfold admitDevice
    rw [bind_done (registries_some present), bind_done (onFailure_eq_done.mpr created)]
    exact bind_failing refused
  have same := createDevice_exit config world
  rwa [admitted] at same

end

section

variable (poisoned : all.shaders.poisoned = true)

include poisoned

theorem shader_refused (handle : Handle .shader) :
    shader handle world =
      (.failed (registryPoisoned .shader), (logError (registryPoisoned .shader) world).2) :=
  (locked_refused Registries.shaders _ present poisoned).trans (failLogged_faultless faultless _)

theorem destroyObject_refused (handle : Handle .shader) :
    destroyObject handle world =
      (.failed (registryPoisoned .shader), (logError (registryPoisoned .shader) world).2) :=
  (locked_refused Registries.shaders _ present poisoned).trans (failLogged_faultless faultless _)

/-- A shader is made, and its program too, before the lock is tried. -/
theorem shader_not_admitted (lists : world.Lists 0) {owner : Handle .device} {maker : Device}
    {info : CreateInfo} {verdict : Verdict} {made : Shader}
    (found : device owner world = (.done maker, world))
    (created : Shader.create maker info verdict world = (.done made, middle)) :
    (createShader owner info verdict world).1 = .failed (registryPoisoned .shader) := by
  have refused : ((registerShader owner made).orRelease made.teardown middle).1 =
      .failed (registryPoisoned .shader) :=
    registration_refused present faultless (some verdict) Registries.shaders _ poisoned lists
      (Shader.create_moves maker info verdict) (Shader.create_explained maker info verdict) created
      made.teardown_moves made.teardown_explained made.teardown_unasking
  unfold createShader admitShader
  rw [Act.bind_assoc, bind_done found, Act.bind_assoc, bind_done created]
  exact bind_failing (bind_failing refused)

end

end EntryPoint

end ShaderDriver
