import ShaderDriver.Proofs.Object.Ceremony
import ShaderDriver.Proofs.Session.Commands
import ShaderDriver.Proofs.Session.Products
import ShaderDriver.Proofs.Session.Tolerance

namespace ShaderDriver

open Memory Container Act

/-! In the course of a command those shaders end that were known and that nothing refers to any
more. -/

namespace World

variable {world after : World} {start : Nat} {known : Finset Shader}
  {pending others : Multiset Held} {object : Held} {shader : Shader}

/-- Of the shaders that are known, those have ended that neither the world nor anyone with a pending
reference refers to. Every number from `start` on was still free at the beginning. -/
structure Recalls (world : World) (start : Nat) (known : Finset Shader)
    (pending : Multiset Held) : Prop where
  orderly : world.Orderly
  once : pending.Nodup
  same : ∀ first ∈ known, ∀ second ∈ known, first.id = second.id → first = second
  below : ∀ shader ∈ known, shader.id < world.nextSerial
  serials : start ≤ world.nextSerial
  alive : ∀ shader, .shader shader ∈ pending + world.references → shader ∈ known
  story : ∃ ended, Ceremonies world.trace ended ∧ ended.Nodup ∧
    ∀ shader, shader ∈ ended ↔ shader ∈ known ∧ .shader shader ∉ pending + world.references

theorem Stays.references {plain : Event → Prop} (stays : world.Stays plain after) :
    after.references = world.references := by
  simp only [World.references, registeredDevices, registeredShaders, stays.registries, stays.held]

theorem Stays.orderly {plain : Event → Prop} (stays : world.Stays plain after)
    (orderly : world.Orderly) : after.Orderly where
  named := by rw [stays.held]; exact orderly.named
  tidy := by rw [stays.registries]; exact orderly.tidy
  devices := by rw [registeredDevices, stays.registries]; exact orderly.devices
  shaders := by rw [registeredShaders, stays.registries]; exact orderly.shaders

namespace Recalls

theorem stays (recalls : world.Recalls start known pending)
    (stays : world.Stays Event.Sparing after) : after.Recalls start known pending where
  orderly := stays.orderly recalls.orderly
  once := recalls.once
  same := recalls.same
  below shader member := Nat.lt_of_lt_of_le (recalls.below shader member) stays.serials
  serials := Nat.le_trans recalls.serials stays.serials
  alive := by
    rw [stays.references]
    exact recalls.alive
  story := by
    obtain ⟨ended, told, distinct, gone⟩ := recalls.story
    obtain ⟨events, trace, plain⟩ := stays.trace
    refine ⟨ended, ?_, distinct, by rwa [stays.references]⟩
    rw [trace, ← List.append_nil ended]
    exact told.append (.plain plain)

/-- What matters of the pending references is the shaders that they lead to. -/
theorem exchange (recalls : world.Recalls start known pending) (once : others.Nodup)
    (same : ∀ shader, .shader shader ∈ others + world.references ↔
      .shader shader ∈ pending + world.references) : world.Recalls start known others where
  orderly := recalls.orderly
  once := once
  same := recalls.same
  below := recalls.below
  serials := recalls.serials
  alive shader member := recalls.alive shader ((same shader).mp member)
  story := by
    obtain ⟨ended, told, distinct, gone⟩ := recalls.story
    refine ⟨ended, told, distinct, fun shader => ?_⟩
    rw [gone, same]

theorem rearrange (recalls : world.Recalls start known pending)
    (moved : world.Rearranges after pending others) : after.Recalls start known others where
  orderly := moved.orderly
  once := moved.once
  same := recalls.same
  below := by rw [moved.serials]; exact recalls.below
  serials := by rw [moved.serials]; exact recalls.serials
  alive := by rw [moved.same]; exact recalls.alive
  story := by rw [moved.same, moved.trace]; exact recalls.story

theorem other_iff (other : object.shader? = none) {shader : Shader} :
    .shader shader ∈ object ::ₘ pending + world.references ↔
      .shader shader ∈ pending + world.references := by
  rw [Multiset.cons_add, Multiset.mem_cons, or_iff_right]
  rintro rfl
  cases other

theorem forget (recalls : world.Recalls start known (object ::ₘ pending))
    (other : object.shader? = none) : world.Recalls start known pending :=
  recalls.exchange (Multiset.nodup_cons.mp recalls.once).2 fun _ => (other_iff other).symm

theorem know (recalls : world.Recalls start known 0) (other : object.shader? = none) :
    world.Recalls start known {object} :=
  recalls.exchange (Multiset.nodup_singleton _) fun _ => other_iff other

theorem share (recalls : world.Recalls start known 0) (member : object ∈ world.references) :
    world.Recalls start known {object} := by
  refine recalls.exchange (Multiset.nodup_singleton _) fun shader => ?_
  rw [Multiset.singleton_add, Multiset.mem_cons, zero_add, or_iff_right_iff_imp]
  rintro rfl
  exact member

/-- The last reference to a shader is gone. -/
theorem teardown (recalls : world.Recalls start known (.shader shader ::ₘ pending))
    (last : .shader shader ∉ pending + world.references) :
    (shader.teardown world).2.Recalls start known pending := by
  have kept := shader.teardown_moves.retains world
  have others : ∀ other : Shader, .shader other ∈ .shader shader ::ₘ pending + world.references ↔
      other = shader ∨ .shader other ∈ pending + world.references := by
    intro other
    rw [Multiset.cons_add, Multiset.mem_cons, Held.shader.injEq]
  refine
    { orderly := recalls.orderly.retained kept
      once := (Multiset.nodup_cons.mp recalls.once).2
      same := recalls.same
      below := fun other member => Nat.lt_of_lt_of_le (recalls.below other member) kept.serials
      serials := Nat.le_trans recalls.serials kept.serials
      alive := fun other member => ?_
      story := ?_ }
  · rw [kept.references] at member
    exact recalls.alive other ((others other).mpr (.inr member))
  · obtain ⟨ended, told, distinct, gone⟩ := recalls.story
    have here : .shader shader ∈ .shader shader ::ₘ pending + world.references :=
      (others shader).mpr (.inl rfl)
    refine ⟨ended ++ [shader], ?_, ?_, fun other => ?_⟩
    · rw [Shader.teardown_trace, ← List.append_nil (shader.ceremony _)]
      exact told.append (.shader shader _ .nil)
    · rw [List.nodup_append]
      refine ⟨distinct, List.nodup_singleton _, fun first listed second single same => ?_⟩
      rw [List.mem_singleton] at single
      subst single same
      exact ((gone _).mp listed).2 here
    · rw [List.mem_append, List.mem_singleton, gone, others, kept.references]
      by_cases same : other = shader
      · subst same
        exact iff_of_true (.inr rfl) ⟨recalls.alive _ here, last⟩
      · simp [same]

theorem letGo (recalls : world.Recalls start known (object ::ₘ pending)) :
    (object.letGo world).2.Recalls start known pending := by
  cases object with
  | allocator _ => exact recalls.forget rfl
  | compiler _ => exact recalls.forget rfl
  | buffer own => exact (recalls.forget rfl).stays (own.release_sparing world)
  | base own => exact (recalls.forget rfl).stays (own.release_sparing world)
  | ir own => exact (recalls.forget rfl).stays (own.release_sparing world)
  | program own => exact (recalls.forget rfl).stays (own.destroy_sparing world)
  | device shared => exact (recalls.forget rfl).stays (shared.letGo_sparing world)
  | shader shared =>
      have here : .shader shared ∈ .shader shared ::ₘ pending + world.references :=
        Multiset.mem_add.mpr (.inl (Multiset.mem_cons_self _ _))
      change (shared.letGo world).2.Recalls start known pending
      unfold Shader.letGo
      split
      · next present =>
          -- Another reference has the number, and so it leads to the same shader.
          obtain ⟨other, member, number⟩ := List.any_eq_true.mp present
          have listed := mem_shaders.mp member
          have equal : other = shared := recalls.same _
            (recalls.alive other (Multiset.mem_add.mpr (.inr listed))) _
            (recalls.alive shared here) (by simpa using number)
          subst equal
          refine recalls.exchange (Multiset.nodup_cons.mp recalls.once).2 fun shader => ?_
          rw [Multiset.cons_add, Multiset.mem_cons, Held.shader.injEq, iff_or_self]
          rintro rfl
          exact Multiset.mem_add.mpr (.inr listed)
      · next missing =>
          refine recalls.teardown fun member => ?_
          rcases Multiset.mem_add.mp member with listed | listed
          · exact (Multiset.nodup_cons.mp recalls.once).1 listed
          · exact missing (List.any_eq_true.mpr ⟨shared, mem_shaders.mpr listed, by simp⟩)

theorem custody (start : Nat) (known : Finset Shader) :
    Custody fun world pending => world.Recalls start known pending where
  orderly recalls := recalls.orderly
  once recalls := recalls.once
  rearrange recalls moved := recalls.rearrange moved
  share recalls _ member := recalls.share member
  log record recalls := recalls.stays (sparing_of_barren (log_barren record) _)
  letGo recalls := recalls.letGo

/-- What is recalled is recalled later. -/
def recalling (start : Nat) (known : Finset Shader) : Frame where
  related first second := first.Recalls start known 0 → second.Recalls start known 0
  refl _ recalls := recalls
  trans first second recalls := second (first recalls)

theorem recalling_tolerates (start : Nat) (known : Finset Shader) :
    (recalling start known).Tolerates where
  sparing holds world recalls := recalls.stays (holds world)
  keep into _ other _ recalls := (custody start known).keep (recalls.know other) into

theorem memory (recalls : world.Recalls start known 0) (command : Session.MemoryCommand) :
    (command.run world world).2.Recalls start known 0 := by
  have plain (other : ∀ name start data, command ≠ .writeBuffer name start data) :
      (command.run world world).2.Recalls start known 0 :=
    (recalling_tolerates start known).memory command world other world recalls
  cases command with
  | writeBuffer name start data =>
      cases found : world.buffer? name with
      | none =>
          simp only [Session.MemoryCommand.run, found]
          exact recalls
      | some buffer =>
          simp only [Session.MemoryCommand.run, found]
          rw [bind_apply]
          rcases ran : buffer.write start data world with ⟨exit, after⟩
          have stays := buffer.write_sparing start data world
          rw [ran] at stays
          cases exit with
          | failed error => exact recalls.stays stays
          | unwound => exact recalls.stays stays
          | done written =>
              obtain ⟨_, rfl, _⟩ := Buffer.write_eq_done.mp ran
              have pending : world.Recalls _ known {.buffer written} := recalls.know rfl
              have moved := pending.rearrange
                (pending.orderly.replace (held_of_buffer found) (.buffer written))
              exact moved.forget rfl
  | _ => exact plain (by simp)

theorem compiler (recalls : world.Recalls start known 0) (command : Session.CompilerCommand) :
    (command.run world world).2.Recalls start known 0 :=
  (recalling_tolerates start known).compiler command world world recalls

/-- A shader that is made is known from then on. -/
theorem gain (recalls : world.Recalls start known 0) (stays : world.Stays Event.Sparing after)
    (least : world.nextSerial ≤ shader.id) (most : shader.id < after.nextSerial) :
    after.Recalls start (insert shader known) {.shader shader} := by
  have kept := recalls.stays stays
  have new : shader ∉ known := fun member => Nat.not_lt.mpr least (recalls.below shader member)
  have distinct : ∀ other ∈ known, other.id ≠ shader.id := by
    intro other member same
    have bound := recalls.below other member
    omega
  have here : ∀ other : Shader, .shader other ∈ {.shader shader} + after.references ↔
      other = shader ∨ .shader other ∈ after.references := by
    intro other
    rw [Multiset.singleton_add, Multiset.mem_cons, Held.shader.injEq]
  refine
    { orderly := kept.orderly
      once := Multiset.nodup_singleton _
      same := fun first one second two number => ?_
      below := fun other member => ?_
      serials := kept.serials
      alive := fun other member => ?_
      story := ?_ }
  · rcases Finset.mem_insert.mp one with rfl | first' <;>
      rcases Finset.mem_insert.mp two with rfl | second'
    · rfl
    · exact absurd number.symm (distinct second second')
    · exact absurd number (distinct first first')
    · exact kept.same first first' second second' number
  · rcases Finset.mem_insert.mp member with rfl | listed
    · exact most
    · exact kept.below other listed
  · rcases (here other).mp member with rfl | listed
    · exact Finset.mem_insert_self _ _
    · exact Finset.mem_insert_of_mem (kept.alive other (by rwa [zero_add]))
  · obtain ⟨ended, told, once, gone⟩ := kept.story
    refine ⟨ended, told, once, fun other => ?_⟩
    rw [gone, here, zero_add, Finset.mem_insert]
    by_cases same : other = shader
    · subst same
      simp [new]
    · simp [same]

/-- What is known when a shader has been asked for. -/
def grown (known : Finset Shader) : Option Shader → Finset Shader
  | none => known
  | some shader => insert shader known

theorem mem_grown {made : Option Shader} :
    shader ∈ grown known made ↔ shader ∈ known ∨ made = some shader := by
  cases made with
  | none => simp [grown]
  | some other => simp [grown, or_comm, eq_comm]

theorem makeShader {α : Type} {next : Shader → Act α} (recalls : world.Recalls start known 0)
    (maker : Device) (info : CreateInfo) (verdict : Verdict)
    (rest : ∀ {shader after}, after.Recalls start (insert shader known) {.shader shader} →
      .shader shader ∉ after.references →
      (next shader after).2.Recalls start (insert shader known) 0) :
    ((Shader.create maker info verdict >>= next) world).2.Recalls start
      (grown known (Shader.create maker info verdict world).1.value?) 0 := by
  have stays := Shader.create_sparing maker info verdict world
  have made : ∀ {shader after}, Shader.create maker info verdict world = (.done shader, after) →
      world.nextSerial ≤ shader.id ∧ shader.id < after.nextSerial :=
    fun ran => (Shader.create_eq_done ran).2
  rw [bind_apply]
  generalize Shader.create maker info verdict world = ran at stays made ⊢
  obtain ⟨exit, after⟩ := ran
  cases exit with
  | failed error => exact recalls.stays stays
  | unwound => exact recalls.stays stays
  | done shader =>
      obtain ⟨least, most⟩ := made rfl
      refine rest (recalls.gain stays least most) fun member => ?_
      rw [stays.references, ← zero_add world.references] at member
      have bound := recalls.below shader (recalls.alive shader member)
      omega

/-- A shader that cannot be registered ends at once. -/
theorem registerShader (recalls : world.Recalls start known {.shader shader})
    (new : .shader shader ∉ world.references) (owner : Handle .device) :
    ((EntryPoint.registerShader owner shader).orRelease shader.teardown
      world).2.Recalls start known 0 := by
  rcases EntryPoint.registerShader_cases owner shader world with
    ⟨error, refused⟩ | ⟨all, present, done⟩
  · have missed : (EntryPoint.registerShader owner shader world).1.isDone = false := by
      rw [refused]
      exact EntryPoint.failLogged_unfinished error world
    have stays := failLogged_barren (α := Handle .shader) error world
    rw [orRelease_world missed, refused]
    refine (recalls.stays (stays.weaken Event.Barren.sparing)).teardown ?_
    rwa [zero_add, stays.references]
  · have registered : ((EntryPoint.registerShader owner shader).orRelease shader.teardown)
        world = (.done _, _) := orRelease_eq_done.mpr done
    rw [registered]
    exact recalls.rearrange (recalls.orderly.enlistShader present new owner)

theorem registerDevice {device : Device} (recalls : world.Recalls start known {.device device})
    (new : .device device ∉ world.references) :
    ((EntryPoint.registerDevice device).orRelease device.teardown
      world).2.Recalls start known 0 := by
  rcases EntryPoint.registerDevice_cases device world with ⟨error, refused⟩ | ⟨all, present, done⟩
  · have missed : (EntryPoint.registerDevice device world).1.isDone = false := by
      rw [refused]
      exact EntryPoint.failLogged_unfinished error world
    have stays := failLogged_barren (α := Handle .device) error world
    rw [orRelease_world missed, refused]
    exact (recalls.stays (stays.weaken Event.Barren.sparing)).forget rfl |>.stays
      (device.teardown_sparing _)
  · have registered : ((EntryPoint.registerDevice device).orRelease device.teardown)
        world = (.done _, _) := orRelease_eq_done.mpr done
    rw [registered]
    exact recalls.rearrange (recalls.orderly.enlistDevice present new)

theorem admitShader (recalls : world.Recalls start known 0) (owner : Handle .device)
    (info : CreateInfo) (verdict : Verdict) :
    (EntryPoint.admitShader owner info verdict world).2.Recalls start
      (grown known ((EntryPoint.device owner >>= fun maker =>
        Shader.create maker info verdict) world).1.value?) 0 := by
  have stays := EntryPoint.device_barren owner world
  have unmoved : ∀ {maker after}, EntryPoint.device owner world = (.done maker, after) →
      after = world := by
    intro maker after found
    obtain ⟨_, _, _, _, same⟩ := EntryPoint.device_eq_done found
    exact same
  unfold EntryPoint.admitShader
  rw [bind_apply, bind_apply]
  generalize EntryPoint.device owner world = ran at stays unmoved ⊢
  obtain ⟨exit, after⟩ := ran
  cases exit with
  | failed error => exact recalls.stays (stays.weaken Event.Barren.sparing)
  | unwound => exact recalls.stays (stays.weaken Event.Barren.sparing)
  | done maker =>
      obtain rfl := unmoved rfl
      refine recalls.makeShader maker info verdict fun {shader after} kept new => ?_
      rw [map_world]
      exact kept.registerShader new owner

theorem admitDevice {serial : Nat} (recalls : world.Recalls start known 0)
    (keeps : world.Keeps serial 0) (config : DeviceConfig) :
    (EntryPoint.admitDevice config world).2.Recalls start known 0 := by
  have made : sparing.Holds ((Device.create config).onFailure Act.logError) :=
    (Device.create_sparing config).onFailure fun error => sparing_of_barren (log_barren _)
  have checked := sparing_of_barren EntryPoint.registries_barren world
  refine bind_keeps (fun after => after.Recalls start known 0) (recalls.stays checked)
    fun all after read kept => ?_
  obtain ⟨_, rfl⟩ := EntryPoint.registries_eq_done read
  have stays := made after
  refine bind_keeps (fun after => after.Recalls start known 0) (kept.stays stays)
    fun device middle created kept => ?_
  obtain ⟨_, least, _⟩ := Device.create_eq_done (onFailure_eq_done.mp created)
  rw [map_world]
  refine (kept.know rfl).registerDevice ?_
  rw [created] at stays
  rw [stays.references]
  exact keeps.new rfl least

theorem createDevice {serial : Nat} (recalls : world.Recalls start known 0)
    (keeps : world.Keeps serial 0) (config : DeviceConfig) :
    (EntryPoint.createDevice config world).2.Recalls start known 0 := by
  refine bind_keeps (fun after => after.Recalls start known 0) (recalls.admitDevice keeps config)
    fun admitted after _ kept => ?_
  rw [map_world]
  exact kept.stays (sparing_of_barren (note_barren .info _ _) after)

theorem shader_value (act : Act Shader) (maker : Device) (world : World) :
    ((act >>= fun shader => (pure (some (shader, maker)) : Act (Option (Shader × Device))))
      world).1.value?.join.map Prod.fst = (act world).1.value? := by
  rw [bind_apply]
  rcases act world with ⟨exit, after⟩
  cases exit <;> rfl

theorem maker_value (owner : Handle .device) (info : CreateInfo) (verdict : Verdict)
    (world : World) :
    ((EntryPoint.device owner >>= fun maker => Shader.create maker info verdict >>= fun shader =>
      (pure (some (shader, maker)) : Act (Option (Shader × Device)))) world).1.value?.join.map
        Prod.fst =
      ((EntryPoint.device owner >>= fun maker =>
        Shader.create maker info verdict) world).1.value? := by
  rw [bind_apply, bind_apply]
  rcases EntryPoint.device owner world with ⟨exit, after⟩
  cases exit with
  | done maker => exact shader_value _ maker after
  | failed error => rfl
  | unwound => rfl

theorem device (recalls : world.Recalls start known 0) (command : Session.DeviceCommand) :
    (command.run world world).2.Recalls start
      (grown known (((Session.Command.device command).making world world).1.value?.join.map
        Prod.fst)) 0 := by
  have plain (other : ∀ into name info verdict, command ≠ .createShader into name info verdict) :
      (command.run world world).2.Recalls start known 0 :=
    (recalling_tolerates start known).device command world other world recalls
  cases command with
  | createShader into name info verdict =>
      cases found : world.device? name with
      | none =>
          simp only [Session.DeviceCommand.run, Session.Command.making, found]
          exact recalls
      | some maker =>
          simp only [Session.DeviceCommand.run, Session.Command.making, found]
          rw [shader_value]
          exact recalls.makeShader maker info verdict fun kept _ =>
            (custody start _).keepAndShow kept into
  | _ => exact plain (by simp)

/-- With a shader that a command makes, what is known grows; every other command ends shaders only. -/
theorem step {serial : Nat} (recalls : world.Recalls start known 0) (keeps : world.Keeps serial 0)
    (command : Session.Command) :
    (command.run world).2.Recalls start
      (grown known ((command.making world world).1.value?.join.map Prod.fst)) 0 := by
  cases command with
  | memory command => exact recalls.memory command
  | compiler command => exact recalls.compiler command
  | held command => exact (custody start known).held recalls command
  | device command => exact recalls.device command
  | call command =>
      have plain (other : ∀ settings, command ≠ .createDevice settings)
          (another : ∀ call owner info verdict, command ≠ .createShader call owner info verdict) :
          (command.run world).2.Recalls start known 0 :=
        (custody start known).call recalls command other another
      cases command with
      | createDevice settings =>
          obtain ⟨config, after, ran, kept, _⟩ := keeps.config settings
          have stays := Session.config_sparing settings world
          rw [ran] at stays
          simp only [Session.Command.run, Session.CallCommand.run]
          rw [bind_done ran, map_world]
          exact (recalls.stays stays).createDevice kept config
      | createShader call owner info verdict =>
          simp only [Session.Command.run, Session.CallCommand.run, Session.Command.making]
          rw [map_world, Session.shaderCall_world, maker_value]
          exact recalls.admitShader owner info verdict
      | _ => exact plain (by simp) (by simp)

end Recalls
end World
end ShaderDriver
