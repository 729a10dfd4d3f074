import ShaderDriver.Proofs.Act.Frame
import ShaderDriver.Proofs.Memory.Counters

namespace ShaderDriver

open Memory Container

/-! What an action that unwinds leaves behind: the logger or a compiler has panicked, or an account is
out of order. The driver adds no reason of its own. -/

variable {α β : Type}

/-! What the logger and the compilers do with what they are shown. -/

/-- The entry that is shown to the logger. -/
def Event.entry? : Event → Option Log.Record
  | .logged record _ => some record
  | _ => none

/-- The memory has been granted. -/
def Event.grants : Event → Bool
  | .requested _ _ _ _ granted => granted
  | _ => false

/-- Whether the logger panics at one of the entries, and the logger after them. -/
def Log.Logger.hear (logger : Logger) : List Event → Bool × Logger
  | [] => (false, logger)
  | event :: rest =>
      match event.entry? with
      | none => logger.hear rest
      | some record =>
          ((logger.receive record.severity).1 || ((logger.receive record.severity).2.hear rest).1,
            ((logger.receive record.severity).2.hear rest).2)

theorem Log.Logger.hear_append (logger : Logger) (events more : List Event) :
    logger.hear (events ++ more) =
      ((logger.hear events).1 || ((logger.hear events).2.hear more).1,
        ((logger.hear events).2.hear more).2) := by
  induction events generalizing logger with
  | nil => simp [hear]
  | cons event rest ih =>
      cases entry : event.entry? with
      | none => simp only [List.cons_append, hear, entry, ih]
      | some record => simp only [List.cons_append, hear, entry, ih, Bool.or_assoc]

theorem Log.Logger.hear_silent {event : Event} (silent : event.entry? = none) (logger : Logger) :
    logger.hear [event] = (false, logger) := by
  simp [hear, silent]

/-- Whether a compiler panics when it is asked, if the parser has this verdict. -/
def Compiler.panicsAt (verdict : Option Verdict) (request : Glsl.Request) : Compiler → Bool
  | .scripted state => state.mode == .panics
  | .frontEnd _ => FrontEnd.supports request.stage && verdict == some .panics

namespace World

/-- A compiler that panics is asked. -/
def upsetBy (world : World) (verdict : Option Verdict) : Event → Bool
  | .compiling compiler request _ => (world.compilers compiler.serial).panicsAt verdict request
  | _ => false

/-- The logger or a compiler has panicked at one of the events. -/
def upset (world : World) (verdict : Option Verdict) (events : List Event) : Bool :=
  (world.logger.hear events).1 || events.any (world.upsetBy verdict)

/-- An account is out of order. -/
def Faulty (world : World) : Prop :=
  ∃ serial, (world.allocators serial).Poisoned

end World

/-- No lock is poisoned, and no counter has left its range. -/
structure World.Sound (world : World) : Prop where
  parsers : ∀ serial state, world.compilers serial = .frontEnd state → state.poisoned = false
  registries : ∀ all, world.registries = some all →
    all.devices.poisoned = false ∧ all.shaders.poisoned = false
  counters : ∀ serial, (world.allocators serial).Modest

/-- What can be watched on the way from one world to another. -/
structure World.Passes (world after : World) (verdict : Option Verdict) (events : List Event) : Prop where
  trace : after.trace = world.trace ++ events
  logger : after.logger = (world.logger.hear events).2
  compilers : ∀ serial request, (after.compilers serial).panicsAt verdict request = true →
    (world.compilers serial).panicsAt verdict request = true
  granted : ∀ serial, (after.allocators serial).granted ≤
    (world.allocators serial).granted + events.countP Event.grants

namespace World

variable {world middle after : World} {verdict : Option Verdict} {events more : List Event}

theorem Passes.refl (world : World) : world.Passes world verdict [] where
  trace := (List.append_nil _).symm
  logger := rfl
  compilers _ _ panics := panics
  granted _ := Nat.le_refl _

theorem Passes.trans (first : world.Passes middle verdict events)
    (second : middle.Passes after verdict more) : world.Passes after verdict (events ++ more) where
  trace := by rw [second.trace, first.trace, List.append_assoc]
  logger := by rw [second.logger, first.logger, Log.Logger.hear_append]
  compilers serial request panics :=
    first.compilers serial request (second.compilers serial request panics)
  granted serial := by
    have earlier := first.granted serial
    have later := second.granted serial
    rw [List.countP_append]
    omega

theorem Passes.unseen (trace : after.trace = world.trace) (logger : after.logger = world.logger)
    (allocators : after.allocators = world.allocators)
    (compilers : ∀ serial request, (after.compilers serial).panicsAt verdict request = true →
      (world.compilers serial).panicsAt verdict request = true) :
    world.Passes after verdict [] where
  trace := by rw [trace, List.append_nil]
  logger := logger
  compilers := compilers
  granted serial := by rw [allocators]; exact Nat.le_add_right _ _

theorem Passes.silent {event : Event} (silent : event.entry? = none) (world : World) :
    world.Passes { world with trace := world.trace ++ [event] } verdict [event] where
  trace := rfl
  logger := by rw [Log.Logger.hear_silent silent]
  compilers _ _ panics := panics
  granted _ := Nat.le_add_right _ _

theorem Faulty.moved (faulty : world.Faulty) (allocators : after.allocators = world.allocators) :
    after.Faulty := by
  rwa [Faulty, allocators]

theorem upset_first (upset : world.upset verdict events = true) (more : List Event) :
    world.upset verdict (events ++ more) = true := by
  simp only [World.upset, Log.Logger.hear_append, List.any_append, Bool.or_eq_true] at upset ⊢
  exact upset.imp .inl .inl

theorem upset_second (first : world.Passes middle verdict events)
    (upset : middle.upset verdict more = true) : world.upset verdict (events ++ more) = true := by
  simp only [World.upset, Log.Logger.hear_append, List.any_append, Bool.or_eq_true,
    List.any_eq_true] at upset ⊢
  rcases upset with heard | ⟨event, member, asked⟩
  · rw [first.logger] at heard
    exact .inl (.inr heard)
  · refine .inr (.inr ⟨event, member, ?_⟩)
    cases event with
    | compiling compiler request base => exact first.compilers _ _ asked
    | _ => exact asked

end World

namespace Act

/-- The action adds only to what can be watched, an unwinding has a reason, and without one all stays
sound. The excuse is a reason that lies before the action. -/
structure Explains (verdict : Option Verdict) (excuse : Prop) (world : World) (unwound : Prop)
    (after : World) : Prop where
  reason : ∃ events, world.Passes after verdict events ∧
    (unwound → excuse ∨ world.upset verdict events = true ∨ after.Faulty)
  lasting : world.Faulty → after.Faulty
  sound : ¬ unwound → world.Sound → after.Sound

variable {verdict : Option Verdict} {excuse unwound : Prop} {world middle after : World}
  {act : Act α} {next : α → Act β} {release : Act Unit}

theorem Explains.refl (world : World) : Explains verdict excuse world False world where
  reason := ⟨[], .refl world, False.elim⟩
  lasting := id
  sound _ := id

theorem Explains.trans (first : Explains verdict excuse world False middle)
    (second : Explains verdict excuse middle unwound after) :
    Explains verdict excuse world unwound after where
  reason := by
    obtain ⟨events, start, _⟩ := first.reason
    obtain ⟨more, finish, reason⟩ := second.reason
    refine ⟨events ++ more, start.trans finish, fun ended => ?_⟩
    exact (reason ended).imp_right (Or.imp_left (World.upset_second start))
  lasting faulty := second.lasting (first.lasting faulty)
  sound ended start := second.sound ended (first.sound not_false start)

/-- What excuses an action can be seen at the event before it. -/
theorem Explains.seen {event : Event} {reason : Prop} (silent : event.entry? = none)
    (upset : reason → world.upset verdict [event] = true)
    (second : Explains verdict reason { world with trace := world.trace ++ [event] } unwound after) :
    Explains verdict excuse world unwound after where
  reason := by
    obtain ⟨more, finish, explained⟩ := second.reason
    have start : world.Passes _ verdict [event] := .silent silent world
    refine ⟨[event] ++ more, start.trans finish, fun ended => .inr ?_⟩
    rcases explained ended with given | upset | faulty
    · exact .inl (World.upset_first (upset given) more)
    · exact .inl (World.upset_second start upset)
    · exact .inr faulty
  lasting faulty := second.lasting faulty
  sound ended start := second.sound ended ⟨start.parsers, start.registries, start.counters⟩

theorem Explains.recast {other : Prop} (explains : Explains verdict excuse world unwound after)
    (same : other ↔ unwound) : Explains verdict excuse world other after := by
  rwa [propext same]

/-- However the action ends, the end is explained. -/
def Explained (verdict : Option Verdict) (excuse : Prop) (act : Act α) : Prop :=
  ∀ world, Explains verdict excuse world ((act world).1 = .unwound) (act world).2

theorem Explains.bind
    (first : Explains verdict excuse world ((act world).1 = .unwound) (act world).2)
    (second : ∀ {value after}, act world = (.done value, after) →
      Explained verdict excuse (next value)) :
    Explains verdict excuse world (((act >>= next) world).1 = .unwound) ((act >>= next) world).2 := by
  rw [bind_apply]
  rcases ran : act world with ⟨exit, middle⟩
  rw [ran] at first
  cases exit with
  | done value => exact (first.recast (by simp)).trans (second ran middle)
  | failed error => exact first.recast (by simp)
  | unwound => exact first.recast (by simp)

/-- The end is still explained once something more was released. -/
theorem Explains.released {exit : Exit α}
    (first : Explains verdict excuse world (exit = .unwound) middle)
    (second : Explained verdict excuse release) :
    Explains verdict excuse world ((leave exit release middle).1 = .unwound)
      (leave exit release middle).2 := by
  have last := second middle
  unfold Act.leave
  generalize release middle = ran at last
  obtain ⟨ending, final⟩ := ran
  obtain ⟨events, start, reason⟩ := first.reason
  obtain ⟨more, finish, further⟩ := last.reason
  have passes := start.trans finish
  have lasting : world.Faulty → final.Faulty := fun faulty => last.lasting (first.lasting faulty)
  have earlier : exit = .unwound → excuse ∨ world.upset verdict (events ++ more) = true ∨
      final.Faulty := fun ended =>
    (reason ended).imp_right (Or.imp (fun upset => World.upset_first upset more) last.lasting)
  cases ending with
  | done _ =>
      refine ⟨⟨events ++ more, passes, earlier⟩, lasting, fun ended sound => ?_⟩
      exact last.sound (by simp) (first.sound ended sound)
  | failed _ =>
      refine ⟨⟨events ++ more, passes, earlier⟩, lasting, fun ended sound => ?_⟩
      exact last.sound (by simp) (first.sound ended sound)
  | unwound =>
      refine ⟨⟨events ++ more, passes, fun _ => ?_⟩, lasting, fun ended => absurd rfl ended⟩
      exact (further rfl).imp_right (Or.imp_left (World.upset_second start))

namespace Explained

theorem pure (value : α) : Explained verdict excuse (Pure.pure value : Act α) :=
  fun world => (Explains.refl world).recast (by simp)

theorem fail (error : Error) : Explained verdict excuse (Act.fail error : Act α) :=
  fun world => (Explains.refl world).recast (by simp [Act.fail])

theorem read (view : World → α) : Explained verdict excuse (Act.read view) :=
  fun world => (Explains.refl world).recast (by simp [Act.read])

theorem unwind (excused : excuse) : Explained verdict excuse (Act.unwind : Act α) := by
  intro world
  exact ⟨⟨[], .refl world, fun _ => .inl excused⟩, id, fun _ sound => sound⟩

theorem bindDone (first : Explained verdict excuse act)
    (second : ∀ {world value after}, act world = (.done value, after) →
      Explained verdict excuse (next value)) : Explained verdict excuse (act >>= next) :=
  fun world => (first world).bind fun ran => second ran

theorem bind (first : Explained verdict excuse act)
    (second : ∀ value, Explained verdict excuse (next value)) :
    Explained verdict excuse (act >>= next) :=
  first.bindDone fun _ => second _

theorem orRelease (first : Explained verdict excuse act)
    (second : Explained verdict excuse release) :
    Explained verdict excuse (act.orRelease release) := by
  intro world
  have start := first world
  unfold Act.orRelease
  generalize act world = ran at start ⊢
  obtain ⟨exit, middle⟩ := ran
  cases exit with
  | done value => exact start
  | failed error => exact start.released second
  | unwound => exact start.released second

theorem thenRelease (first : Explained verdict excuse act)
    (second : Explained verdict excuse release) :
    Explained verdict excuse (act.thenRelease release) := by
  intro world
  have start := first world
  unfold Act.thenRelease
  generalize act world = ran at start ⊢
  obtain ⟨exit, middle⟩ := ran
  exact start.released second

theorem onFailure {remark : Error → Act Unit} (first : Explained verdict excuse act)
    (remarked : ∀ error, Explained verdict excuse (remark error)) :
    Explained verdict excuse (act.onFailure remark) := by
  intro world
  have start := first world
  unfold Act.onFailure
  generalize act world = ran at start ⊢
  obtain ⟨exit, middle⟩ := ran
  cases exit with
  | done value => exact start
  | unwound => exact start
  | failed error =>
      have rest : Explained verdict excuse (remark error >>= fun _ => (Act.fail error : Act α)) :=
        (remarked error).bind fun _ => fail error
      exact (start.recast (by simp)).trans (rest middle)

theorem orFail {search : Act (Option α)} (first : Explained verdict excuse search)
    (error : Error) : Explained verdict excuse (search.orFail error) := by
  refine first.bind fun found => ?_
  cases found with
  | none => exact fail error
  | some value => exact pure value

theorem ofExcept (result : Except Error α) : Explained verdict excuse (Act.ofExcept result) := by
  cases result with
  | error error => exact fail error
  | ok value => exact pure value

theorem releaseEach {each : α → Act Unit} (items : List α)
    (explained : ∀ item, Explained verdict excuse (each item)) :
    Explained verdict excuse (Act.releaseEach each items) := by
  induction items with
  | nil => exact pure ()
  | cons item rest ih => exact (explained item).thenRelease ih

/-- A change that nobody outside can watch, and that no account has a part in. -/
theorem change {update : World → World}
    (trace : ∀ world, (update world).trace = world.trace)
    (logger : ∀ world, (update world).logger = world.logger)
    (allocators : ∀ world, (update world).allocators = world.allocators)
    (compilers : ∀ world serial request,
      ((update world).compilers serial).panicsAt verdict request = true →
        (world.compilers serial).panicsAt verdict request = true)
    (sound : ∀ world : World, world.Sound → (update world).Sound) :
    Explained verdict excuse (Act.change update) := by
  intro world
  have passes := World.Passes.unseen (trace world) (logger world) (allocators world)
    (compilers world)
  exact ⟨⟨[], passes, by simp [Act.change]⟩, fun faulty => faulty.moved (allocators world),
    fun _ start => sound world start⟩

theorem emit {event : Event} (silent : event.entry? = none) :
    Explained verdict excuse (Act.emit event) := by
  intro world
  refine ⟨⟨[event], .silent silent world, by simp [Act.emit, Act.change]⟩, id, fun _ sound => ?_⟩
  exact ⟨sound.parsers, sound.registries, sound.counters⟩

theorem freshSerial : Explained verdict excuse Act.freshSerial := by
  intro world
  refine ⟨⟨[], ?_, by simp [Act.freshSerial]⟩, id, fun _ sound => ?_⟩
  · exact ⟨(List.append_nil _).symm, rfl, fun _ _ panics => panics, fun _ => Nat.le_refl _⟩
  · exact ⟨sound.parsers, sound.registries, sound.counters⟩

theorem log (record : Log.Record) : Explained verdict excuse (Act.log record) := by
  intro world
  let event : Event := .logged record (world.logger.sink record.severity)
  have heard : world.logger.hear [event] = world.logger.receive record.severity := by
    simp [Log.Logger.hear, event, Event.entry?]
  refine ⟨⟨[event], ?_, fun ended => .inr (.inl ?_)⟩, id, fun _ sound => ?_⟩
  · exact ⟨rfl, by rw [heard]; rfl, fun _ _ panics => panics, fun _ => Nat.le_add_right _ _⟩
  · rw [World.upset, heard, Bool.or_eq_true]
    refine .inl ?_
    by_contra calm
    simp [Act.log, calm] at ended
  · exact ⟨sound.parsers, sound.registries, sound.counters⟩

theorem note (severity : Log.Severity) (source message : String) :
    Explained verdict excuse (Act.note severity source message) :=
  log _

theorem failLogged (error : Error) : Explained verdict excuse (Act.failLogged error : Act α) :=
  (log (errorRecord error)).bind fun _ => fail error

end Explained

end Act

end ShaderDriver
