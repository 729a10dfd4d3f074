import ShaderDriver.Proofs.Session.Mirrors

namespace ShaderDriver

open Memory Container Act

/-! Over whole runs, logging makes no difference: it does not matter which loggers are installed when, as
long as none of them panics. -/

/-! Without the loggers all is looked at but the sinks. -/

def Event.withoutSink : Event → Event
  | .logged record _ => .logged record .captured
  | event => event

theorem Event.seen?_loggers : Event.seen? .loggers = some ∘ Event.withoutSink := by
  funext event
  cases event with
  | compiling compiler request base =>
      exact congrArg (fun base => some (Event.compiling compiler request base)) base.seen_loggers
  | _ => rfl

theorem Registry.mapped_id {kind : ObjectKind} {α : Type} {view : α → α} (same : ∀ value, view value = value)
    (registry : Registry kind α) : registry.mapped view = registry := by
  have slots (slot : Slot α) : slot.mapped view = slot := by
    rw [Slot.mapped, funext same, Option.map_id']
  simp only [mapped, slots]

theorem Registries.seen_loggers (all : Registries) : all.seen .loggers = all := by
  have entries (entry : ShaderEntry) : entry.seen .loggers = entry := by
    rw [ShaderEntry.seen, Shader.seen_loggers]
  rw [Registries.seen, Registry.mapped_id Device.seen_loggers, Registry.mapped_id entries]

namespace World

def withLogger (world : World) (logger : Log.Logger) : World :=
  { world with logger }

/-- All but the logger, and what was seen before. -/
def withoutLogger (world : World) : World :=
  { world with logger := .quiet, trace := [] }

theorem Alike.withoutLogger {world image : World} {heap : Heap}
    (alike : world.Alike .loggers heap image) : world.withoutLogger = image.withoutLogger := by
  have same : world.heap = image.heap := alike.here.trans alike.there.symm
  have allocators : world.allocators = image.allocators := funext alike.allocators
  have registries : world.registries = image.registries := by
    have same := alike.registries
    rwa [funext Registries.seen_loggers, Option.map_id', Option.map_id'] at same
  have held : world.held = image.held := by
    have same := alike.held
    have whole : Prod.map id (Held.seen .loggers) = (id : String × Held → String × Held) := by
      funext entry
      exact congrArg (entry.1, ·) entry.2.seen_loggers
    rwa [whole, List.map_id, List.map_id] at same
  simp only [World.withoutLogger, same, allocators, alike.compilers, registries, held,
    alike.nextSerial]

end World

namespace Session

theorem Value.seen_loggers (value : Value) : value.seen .loggers = value := by
  cases value with
  | object shown => exact congrArg Value.object shown.seen_loggers
  | _ => rfl

/-- The answer, whichever logger was told of what happened. -/
def Answer.withoutSinks (answer : Answer) : Answer :=
  { answer with events := answer.events.map Event.withoutSink }

theorem Answer.Alike.withoutSinks {answer other : Answer} (alike : answer.Alike .loggers other) :
    answer.withoutSinks = other.withoutSinks := by
  have exit : answer.exit = other.exit := by
    have matched := alike.exit
    generalize answer.exit = first, other.exit = second at matched ⊢
    cases matched with
    | done same =>
        rw [funext Value.seen_loggers, Option.map_id', Option.map_id'] at same
        rw [same]
    | failed error => rfl
    | unwound => rfl
  have events : answer.events.map Event.withoutSink = other.events.map Event.withoutSink := by
    have same := alike.events
    rwa [Event.seen?_loggers, List.filterMap_eq_map] at same
  rw [Answer.withoutSinks, Answer.withoutSinks, exit, events]

/-- The command does nothing but install a logger. -/
def Command.installs : Command → Bool
  | .call (.setLogger _) => true
  | .call (.resetLogger _) => true
  | _ => false

/-- No logger that could panic comes with the command. -/
def Command.faultless : Command → Bool
  | .call (.setLogger faults) => (Log.Logger.capturing faults).faultless
  | _ => true

/-- The commands but for those that install loggers. -/
def operations (commands : List Command) : List Command :=
  commands.filter fun command => !command.installs

/-- The answers to commands that do not install loggers, whichever loggers are told of what happens. -/
def replies : World → List Command → List Answer
  | _, [] => []
  | world, command :: rest =>
      if command.installs then replies (step world command).2 rest
      else (step world command).1.withoutSinks :: replies (step world command).2 rest

variable {heap : Heap} {world image : World}

theorem Command.suits_of_faultless {command : Command} (faultless : command.faultless = true) :
    command.Suits .loggers heap where
  record _ _ := trivial
  logger := by
    rintro faults rfl
    exact ⟨faultless, faultless⟩

/-- A new logger makes no difference. -/
theorem installed {command : Command}
    (alike : World.Alike .loggers heap { world with trace := [] } { image with trace := [] })
    (installs : command.installs = true) (faultless : command.faultless = true) :
    World.Alike .loggers heap { (step world command).2 with trace := [] }
      { image with trace := [] } := by
  unfold Command.installs at installs
  split at installs
  · exact { alike with logger := ⟨faultless, alike.logger.2⟩ }
  · exact { alike with logger := ⟨rfl, alike.logger.2⟩ }
  · cases installs

/-- A run goes on like one in which no loggers are installed. -/
theorem run_operations {commands : List Command}
    (alike : World.Alike .loggers heap { world with trace := [] } { image with trace := [] })
    (faultless : ∀ command ∈ commands, command.faultless = true) :
    replies world commands = replies image (operations commands) ∧
      World.Alike .loggers heap { (run world commands).2 with trace := [] }
        { (run image (operations commands)).2 with trace := [] } := by
  induction commands generalizing world image with
  | nil => exact ⟨rfl, alike⟩
  | cons command rest ih =>
      obtain ⟨first, later⟩ := List.forall_mem_cons.mp faultless
      cases installs : command.installs with
      | true =>
          have dropped : operations (command :: rest) = operations rest := by
            simp [operations, installs]
          rw [dropped, replies, if_pos installs]
          exact ih (installed alike installs first) later
      | false =>
          have kept : operations (command :: rest) = command :: operations rest := by
            simp [operations, installs]
          obtain ⟨answers, next⟩ :=
            step_alike alike rfl (Command.suits_of_faultless first) trivial trivial
          obtain ⟨replied, last⟩ := ih next.watched later
          rw [kept]
          refine ⟨?_, last⟩
          simp only [replies, installs, Bool.false_eq_true, if_false, answers.withoutSinks, replied]

/-- Runs from the same state that differ in their loggers only, none of which can panic, have the same
answers and events, and leave the same state. -/
theorem loggers_make_no_difference (start : World) (commands others : List Command)
    (logger another : Log.Logger) (same : operations commands = operations others)
    (first : logger.faultless = true) (second : another.faultless = true)
    (calm : ∀ command ∈ commands ++ others, command.faultless = true) :
    replies (start.withLogger logger) commands = replies (start.withLogger another) others ∧
      (run (start.withLogger logger) commands).2.withoutLogger =
        (run (start.withLogger another) others).2.withoutLogger := by
  have begun {one two : Log.Logger} (quiet : one.faultless = true) (still : two.faultless = true) :
      World.Alike .loggers start.heap { start.withLogger one with trace := [] }
        { start.withLogger two with trace := [] } :=
    ⟨rfl, rfl, fun _ => rfl, rfl, ⟨quiet, still⟩, rfl, rfl, rfl, rfl⟩
  obtain ⟨answers, left⟩ := run_operations (begun first second) fun command member =>
    calm command (List.mem_append_left _ member)
  obtain ⟨replied, last⟩ := run_operations (begun second second) fun command member =>
    calm command (List.mem_append_right _ member)
  rw [← same] at replied last
  exact ⟨answers.trans replied.symm, (left.trans last.symm).withoutLogger⟩

/-- A shader is made and ends with its device; the console takes over meanwhile. -/
def toldToConsole : List Command :=
  [.memory (.makeAllocator "heap" (some 1000)),
    .call .startUp,
    .call (.createDevice
      { extensions := none, debug := some true, gpuName := none, allocator := some "heap",
        compiler := none }),
    .call (.resetLogger (some "trace")),
    .call (.createShader .core ⟨1, 1⟩
      (.bil ((Container.Bil.Header.current 7).toBytes ++ [1, 2, 3, 4])) .panics),
    .call (.createShader .core ⟨1, 1⟩ (.bil []) .panics),
    .call (.destroyDevice ⟨1, 1⟩),
    .call (.setLogger [])]

/-- The application listens all the time. -/
def toldToApplication : List Command :=
  .call (.setLogger []) :: operations toldToConsole

theorem console_makes_no_difference :
    operations toldToConsole = operations toldToApplication ∧
      (∀ command ∈ toldToConsole ++ toldToApplication, command.faultless = true) ∧
      (replies (World.initial.withLogger (.console .error)) toldToConsole).length = 6 ∧
      replies (World.initial.withLogger (.console .error)) toldToConsole =
        replies (World.initial.withLogger .quiet) toldToApplication ∧
      (run (World.initial.withLogger (.console .error)) toldToConsole).2.withoutLogger =
        (run (World.initial.withLogger .quiet) toldToApplication).2.withoutLogger := by
  have same : operations toldToConsole = operations toldToApplication := by decide
  have calm : ∀ command ∈ toldToConsole ++ toldToApplication, command.faultless = true := by decide
  have length : (replies (World.initial.withLogger (.console .error)) toldToConsole).length = 6 := by
    decide +kernel
  exact ⟨same, calm, length, loggers_make_no_difference .initial toldToConsole toldToApplication
    (.console .error) .quiet same rfl rfl calm⟩

end Session

end ShaderDriver
