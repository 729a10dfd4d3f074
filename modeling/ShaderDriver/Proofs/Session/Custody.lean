import ShaderDriver.Proofs.Session.Rearranging

namespace ShaderDriver

open Act World

/-! What holds of the references in a world wherever they are moved to, and whenever one is let go,
is kept by all calls that make nothing. -/

namespace Session

theorem silently_world (act : Act Unit) (world : World) :
    (silently act world).2 = (act world).2 :=
  map_world act (fun _ => some Value.nothing) world

theorem keepAndShow_world (into : Option String) (object : Held) (world : World) :
    (keepAndShow into object world).2 = (keep into object world).2 :=
  map_world (keep into object) (fun _ => some (Value.object object)) world

/-- The four entry points for shaders differ in their answers only. -/
theorem shaderCall_world (call : CreationCall) (owner : Handle .device) (info : CreateInfo)
    (verdict : Verdict) (world : World) :
    (createShader call owner info verdict world).2 =
      (EntryPoint.admitShader owner info verdict world).2 := by
  have created : (EntryPoint.createShader owner info verdict world).2 =
      (EntryPoint.admitShader owner info verdict world).2 :=
    map_world (EntryPoint.admitShader owner info verdict) Prod.fst world
  let shown (answer : Option (Handle .shader) × ResultCode) : Value := .raw answer.1 answer.2
  rw [← created]
  cases call with
  | core => exact map_world _ Value.shaderHandle world
  | glsl => exact map_world _ Value.shaderHandle world
  | rawCore => exact (map_world _ shown world).trans (EntryPoint.raw_world _ world)
  | rawGlsl => exact (map_world _ shown world).trans (EntryPoint.raw_world _ world)

end Session

/-- What is kept of a world with some references pending. -/
structure Custody (kept : World → Multiset Held → Prop) : Prop where
  orderly : ∀ {world pending}, kept world pending → world.Orderly
  once : ∀ {world pending}, kept world pending → pending.Nodup
  rearrange : ∀ {world after pending others}, kept world pending →
    world.Rearranges after pending others → kept after others
  share : ∀ {world object}, kept world 0 → object.isShared = true → object ∈ world.references →
    kept world {object}
  log : ∀ {world pending} (record : Log.Record), kept world pending →
    kept (Act.log record world).2 pending
  letGo : ∀ {world pending object}, kept world (object ::ₘ pending) →
    kept (object.letGo world).2 pending

namespace Custody

variable {kept : World → Multiset Held → Prop} (custody : Custody kept) {world after : World}
  {pending : Multiset Held} {object : Held} {α β : Type}

include custody

theorem letGoEach {view : α → Held} {items : List α}
    (start : kept world ((items.map view : List Held) + pending)) (release : α → Act Unit)
    (each : ∀ item ∈ items, release item = (view item).letGo) :
    kept (releaseEach release items world).2 pending := by
  induction items generalizing world with
  | nil =>
      rw [List.map_nil, Multiset.coe_nil, zero_add] at start
      exact start
  | cons item rest ih =>
      unfold releaseEach
      rw [thenRelease_world, each item (by simp)]
      rw [List.map_cons, ← Multiset.cons_coe, Multiset.cons_add] at start
      exact ih (custody.letGo start) fun other member => each other (by simp [member])

theorem keep (start : kept world {object}) (into : Option String) :
    kept (Session.keep into object world).2 0 := by
  cases into with
  | none => exact custody.letGo start
  | some name =>
      have orderly := custody.orderly start
      unfold Session.keep
      simp only [bind_apply, Act.read, Act.change]
      cases found : world.held? name with
      | none => exact custody.rearrange start (orderly.hold found object)
      | some earlier => exact custody.letGo (custody.rearrange start (orderly.replace found object))

theorem keepAndShow (start : kept world {object}) (into : Option String) :
    kept (Session.keepAndShow into object world).2 0 := by
  rw [Session.keepAndShow_world]
  exact custody.keep start into

theorem failLogged (start : kept world pending) (error : Error) :
    kept (Act.failLogged error world : Exit α × World).2 pending := by
  rw [EntryPoint.failLogged_exit]
  exact custody.log _ start

theorem locked {kind : ObjectKind} (start : kept world pending) (part : Registries → Guarded α)
    {next : α → Act β} (rest : ∀ {all}, world.registries = some all →
      kept (next (part all).content world).2 pending) :
    kept ((EntryPoint.registries >>= fun all => EntryPoint.unlocked kind (part all) >>= next)
      world).2 pending := by
  rw [EntryPoint.locked_run kind part]
  cases found : world.registries with
  | none => exact custody.failLogged start _
  | some all =>
      simp only
      split
      · exact custody.failLogged start _
      · exact rest found

theorem writing {act : Act α} (start : kept (act world).2 pending) (kind : ObjectKind) :
    kept (EntryPoint.writing kind act world).2 pending := by
  unfold EntryPoint.writing
  rcases ran : act world with ⟨exit, after⟩
  rw [ran] at start
  cases exit with
  | done value => exact start
  | failed error => exact start
  | unwound =>
      exact custody.rearrange start ((custody.orderly start).poison (custody.once start) kind)

theorem destroyObject (start : kept world 0) (handle : Handle .shader) :
    kept (EntryPoint.destroyObject handle world).2 0 := by
  refine custody.locked start Registries.shaders fun {all} found => ?_
  cases stored : all.shaders.content.get? handle with
  | none => exact custody.writing (custody.failLogged start _) .shader
  | some entry =>
      simp only
      rw [bind_done (EntryPoint.setShaders_run found _)]
      exact custody.letGo (custody.rearrange start
        ((custody.orderly start).strikeShader found stored))

theorem dismiss {device : Device} (start : kept world {.device device}) (handle : Handle .device) :
    kept (EntryPoint.dismiss handle world).2 {.device device} := by
  unfold EntryPoint.dismiss EntryPoint.takeOwned
  simp only [Act.bind_assoc]
  refine custody.locked start Registries.shaders fun {all} found => ?_
  rw [bind_done (EntryPoint.setShaders_run found _), pure_bind, thenRelease_world]
  have struck := custody.rearrange start ((custody.orderly start).strikeOwned found handle device)
  exact custody.letGoEach (custody.log _ struck) Shader.letGo fun _ _ => rfl

theorem destroyDevice (start : kept world 0) (handle : Handle .device) :
    kept (EntryPoint.destroyDevice handle world).2 0 := by
  refine custody.locked start Registries.devices fun {all} found => ?_
  cases stored : all.devices.content.get? handle with
  | none => exact custody.writing (custody.failLogged start _) .device
  | some device =>
      simp only
      rw [bind_done (EntryPoint.setDevices_run found _), thenRelease_world]
      have struck := custody.rearrange start ((custody.orderly start).strikeDevice found stored)
      exact custody.letGo (custody.dismiss struck handle)

theorem shutdown (start : kept world 0) : kept (EntryPoint.shutdown world).2 0 := by
  cases found : world.registries with
  | none =>
      have unchanged : EntryPoint.shutdown world = (.done (), world) := by
        simp only [EntryPoint.shutdown, found]
      rw [unchanged]
      exact start
  | some all =>
      rw [EntryPoint.shutdown_run found, thenRelease_world]
      have emptied := custody.rearrange start ((custody.orderly start).empty found)
      have devices := custody.letGoEach emptied (fun entry => entry.shader.letGo) fun _ _ => rfl
      rw [← add_zero (Multiset.ofList _)] at devices
      exact custody.letGoEach devices Device.letGo fun _ _ => rfl

theorem device (start : kept world 0) (into : Option String) (handle : Handle .device) :
    kept ((EntryPoint.device handle >>= fun device =>
      Session.keepAndShow into (.device device)) world).2 0 := by
  unfold EntryPoint.device
  simp only [Act.bind_assoc]
  refine custody.locked start Registries.devices fun {all} found => ?_
  cases stored : all.devices.content.get? handle with
  | none =>
      simp only [EntryPoint.failLogged_bind]
      exact custody.failLogged start _
  | some device =>
      have tidy := ((custody.orderly start).tidy all found).1
      simp only [pure_bind]
      exact custody.keepAndShow
        (custody.share start rfl (registeredDevice found (tidy.mem_values stored))) into

theorem shader (start : kept world 0) (into : Option String) (handle : Handle .shader) :
    kept ((EntryPoint.shader handle >>= fun shader =>
      Session.keepAndShow into (.shader shader)) world).2 0 := by
  unfold EntryPoint.shader
  simp only [Act.bind_assoc]
  refine custody.locked start Registries.shaders fun {all} found => ?_
  cases stored : all.shaders.content.get? handle with
  | none =>
      simp only [EntryPoint.failLogged_bind]
      exact custody.failLogged start _
  | some entry =>
      have tidy := ((custody.orderly start).tidy all found).2
      have listed : entry.shader ∈ all.shaders.content.values.map ShaderEntry.shader :=
        List.mem_map_of_mem (tidy.mem_values stored)
      simp only [pure_bind]
      exact custody.keepAndShow (custody.share start rfl (registeredShader found listed)) into

/-- The calls that make nothing. -/
theorem call (start : kept world 0) (command : Session.CallCommand)
    (other : ∀ settings, command ≠ .createDevice settings)
    (another : ∀ call owner info verdict, command ≠ .createShader call owner info verdict) :
    kept (command.run world).2 0 := by
  have orderly := custody.orderly start
  cases command with
  | startUp =>
      simp only [Session.CallCommand.run, Session.silently_world]
      exact custody.rearrange start orderly.startUp
  | shutdown =>
      simp only [Session.CallCommand.run, Session.silently_world]
      exact custody.shutdown start
  | shaderCount => exact start
  | createDevice settings => exact absurd rfl (other settings)
  | device into handle => exact custody.device start into handle
  | destroyDevice handle =>
      simp only [Session.CallCommand.run, Session.silently_world]
      exact custody.destroyDevice start handle
  | createShader call owner info verdict => exact absurd rfl (another call owner info verdict)
  | shader into handle => exact custody.shader start into handle
  | destroyObject handle =>
      simp only [Session.CallCommand.run, Session.silently_world]
      exact custody.destroyObject start handle
  | log record =>
      simp only [Session.CallCommand.run, Session.silently_world]
      exact custody.log record start
  | setLogger faults =>
      simp only [Session.CallCommand.run, Session.silently_world]
      exact custody.rearrange start (orderly.setLogger _)
  | resetLogger environment =>
      simp only [Session.CallCommand.run, Session.silently_world]
      exact custody.rearrange start (orderly.setLogger _)

theorem held (start : kept world 0) (command : Session.HeldCommand) :
    kept (command.run world world).2 0 := by
  cases command with
  | inspect name => exact start
  | describe name onLines => exact start
  | letGo name =>
      cases found : world.held? name with
      | none =>
          simp only [Session.HeldCommand.run, found]
          exact start
      | some object =>
          simp only [Session.HeldCommand.run, found, Session.silently_world]
          have unnamed : kept (world.withoutName name) (object ::ₘ 0) :=
            custody.rearrange start ((custody.orderly start).withoutName found)
          exact custody.letGo unnamed

end Custody

end ShaderDriver
