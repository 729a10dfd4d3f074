import ShaderDriver.Object.Creation
import ShaderDriver.Proofs.Act.Leeway

namespace ShaderDriver

open Memory Container Act

/-! Actions that ask neither allocators nor compilers, and what the compilers answer. A logger without
faults and a compiler that does not panic leave but one way through them. -/

/-- A compiler is asked for a program. -/
def Event.asksCompiler : Event → Bool
  | .compiling _ _ _ => true
  | _ => false

/-- An allocator or a compiler is asked. -/
def Event.isExchange : Event → Bool
  | .requested _ _ _ _ _ => true
  | .compiling _ _ _ => true
  | _ => false

namespace World

/-- All that allocators and compilers were asked. -/
def exchanges (world : World) : List Event :=
  world.trace.filter Event.isExchange

/-- Nothing is asked on the way from one world to another, and nothing changes in the heap, the
allocators and the logger. -/
structure Silent (world after : World) : Prop where
  heap : after.heap = world.heap
  logger : after.logger = world.logger
  allocators : after.allocators = world.allocators
  exchanges : after.exchanges = world.exchanges

variable {world middle after : World}

theorem exchanges_event {event : Event} (asked : event.isExchange = true) (world : World)
    (allocators : Cells Allocator) :
    exchanges { world with allocators, trace := world.trace ++ [event] } =
      world.exchanges ++ [event] := by
  simp [exchanges, asked]

theorem Silent.refl (world : World) : world.Silent world := ⟨rfl, rfl, rfl, rfl⟩

theorem Silent.trans (first : world.Silent middle) (second : middle.Silent after) :
    world.Silent after where
  heap := second.heap.trans first.heap
  logger := second.logger.trans first.logger
  allocators := second.allocators.trans first.allocators
  exchanges := second.exchanges.trans first.exchanges

theorem Silent.event {event : Event} (unasked : event.isExchange = false) (world : World) :
    world.Silent { world with trace := world.trace ++ [event] } where
  heap := rfl
  logger := rfl
  allocators := rfl
  exchanges := by simp [World.exchanges, unasked]

end World

namespace Act

variable {α β : Type} {act : Act α} {next : α → Act β} {value : α} {world : World}

/-- The action finishes with a value, and nothing is asked meanwhile. -/
def Settles (act : Act α) (world : World) (value : α) : Prop :=
  ∃ after, act world = (.done value, after) ∧ world.Silent after

theorem Settles.pure (value : α) (world : World) : (Pure.pure value : Act α).Settles world value :=
  ⟨world, rfl, .refl world⟩

theorem Settles.bind {other : β} (first : act.Settles world value)
    (second : ∀ after, world.Silent after → (next value).Settles after other) :
    (act >>= next).Settles world other := by
  obtain ⟨middle, done, silent⟩ := first
  obtain ⟨after, finished, further⟩ := second middle silent
  exact ⟨after, (bind_done done).trans finished, silent.trans further⟩

theorem Settles.emit {event : Event} (unasked : event.isExchange = false) (world : World) :
    (Act.emit event).Settles world () :=
  ⟨_, rfl, .event unasked world⟩

theorem log_faultless (faultless : world.logger.faultless = true) (record : Log.Record) :
    Act.log record world = (.done (), { world with
      trace := world.trace ++ [.logged record (world.logger.sink record.severity)] }) := by
  unfold Act.log
  rw [Log.Logger.receive_faultless faultless]
  rfl

/-- The logger does not panic, and the compilers do not hear of it. -/
theorem note_silent (faultless : world.logger.faultless = true) (severity : Log.Severity)
    (source message : String) : ∃ after, Act.note severity source message world = (.done (), after) ∧
      world.Silent after ∧ after.compilers = world.compilers :=
  ⟨_, log_faultless faultless _, .event rfl world, rfl⟩

theorem Settles.note (faultless : world.logger.faultless = true) (severity : Log.Severity)
    (source message : String) : (Act.note severity source message).Settles world () := by
  obtain ⟨after, told, silent, _⟩ := note_silent faultless severity source message
  exact ⟨after, told, silent⟩

end Act

/-- The program that a compiler answers a request with, unless it panics. -/
def Compiler.program? (self : CompilerRef) (request : Glsl.Request) (verdict : Verdict) :
    Compiler → Option Program
  | .scripted state => (state.answer? request).map fun answer =>
      { stage := answer.1, entryPoint := answer.2, compiler := self }
  | .frontEnd _ =>
      match FrontEnd.supports request.stage, verdict with
      | true, .accepted parsed => some
          { stage := request.stage
            entryPoint := parsed.entryPoint request.stage
            compiler := self }
      | _, _ => none

namespace FrontEnd

variable {self : CompilerRef} {base : Base} {request : Glsl.Request} {verdict : Verdict}
  {world : World}

theorem change_settles (self : CompilerRef) (update : FrontEnd → FrontEnd) (world : World) :
    (change self update).Settles world () := by
  unfold Settles change Act.change
  cases found : world.compilers self.serial with
  | frontEnd state =>
      simp only [found]
      exact ⟨_, rfl, rfl, rfl, rfl, rfl⟩
  | scripted state =>
      simp only [found]
      exact ⟨_, rfl, .refl world⟩

theorem count_settles (self : CompilerRef) (update : CompileCounts → CompileCounts)
    (world : World) : (count self update).Settles world () :=
  change_settles self _ world

section

variable (faultless : world.logger.faultless = true)

include faultless

theorem recover_settles : (recover self).Settles world () := by
  refine .bind ⟨world, rfl, .refl world⟩ fun after silent => ?_
  split
  · refine .bind (count_settles self _ after) fun counted further => ?_
    refine .bind (.note ?_ .warn _ _) fun _ _ => change_settles self _ _
    rwa [further.logger, silent.logger]
  · exact .pure () after

theorem parse_settles (calm : verdict ≠ .panics) : (parse self verdict).Settles world () := by
  have unguarded {act : Act Unit} (settles : act.Settles world ()) :
      (usingParser self act).Settles world () := by
    obtain ⟨after, done, silent⟩ := settles
    exact ⟨after, by simp only [usingParser, done], silent⟩
  refine unguarded (.bind (recover_settles faultless) fun after silent => ?_)
  cases verdict with
  | panics => exact absurd rfl calm
  | invalid reason => exact .pure () after
  | accepted parsed => exact .pure () after
  | unparsed reason =>
      refine .bind (count_settles self _ after) fun counted further => .note ?_ .warn _ _
      rwa [further.logger, silent.logger]

theorem remarkFlags_settles : (remarkFlags request).Settles world () := by
  unfold remarkFlags
  split
  · exact .note faultless .debug _ _
  · exact .pure () world

theorem conclude_settles : (conclude self base request verdict).Settles world
    (match verdict with
      | .accepted parsed => some
          { stage := request.stage
            entryPoint := parsed.entryPoint request.stage
            compiler := self }
      | _ => none) := by
  cases verdict with
  | panics => exact .pure none world
  | unparsed reason => exact .pure none world
  | invalid reason =>
      refine .bind (count_settles self _ world) fun after silent => ?_
      refine .bind (.note ?_ .warn _ _) fun last _ => .pure none last
      rwa [silent.logger]
  | accepted parsed =>
      refine .bind (count_settles self _ world) fun counted silent => ?_
      refine .bind (change_settles self _ counted) fun after further => ?_
      refine .bind (.note ?_ .debug _ _) fun told _ => ?_
      · rw [further.logger, silent.logger]
        exact faultless
      · exact .bind (.emit rfl told) fun last _ => .pure _ last

/-- A verdict that is not a panic decides about the program. -/
theorem compile_settles {state : FrontEnd}
    (calm : (Compiler.frontEnd state).panicsAt (some verdict) request = false) :
    (compile self base request verdict).Settles world
      ((Compiler.frontEnd state).program? self request verdict) := by
  unfold compile Compiler.program?
  cases supported : supports request.stage with
  | true =>
      have judged : verdict ≠ .panics := by
        rintro rfl
        simp [Compiler.panicsAt, supported] at calm
      rw [if_pos rfl]
      refine .bind (remarkFlags_settles faultless) fun after silent => ?_
      refine .bind (parse_settles ?_ judged) fun parsed further => ?_
      · rwa [silent.logger]
      · have concluded : (conclude self base request verdict).Settles parsed _ :=
          conclude_settles (by rwa [further.logger, silent.logger])
        cases verdict <;> exact concluded
  | false =>
      rw [if_neg Bool.false_ne_true]
      refine .bind (count_settles self _ world) fun after silent => ?_
      refine .bind (.note ?_ .warn _ _) fun last _ => .pure none last
      rwa [silent.logger]

end

end FrontEnd

theorem ScriptedCompiler.compile_settles {compiler : ScriptedCompiler} {self : CompilerRef}
    {request : Glsl.Request} (calm : compiler.mode ≠ .panics) (verdict : Verdict) (world : World) :
    (compiler.compile self request).Settles world
      ((Compiler.scripted compiler).program? self request verdict) := by
  unfold compile
  refine .bind ⟨_, rfl, rfl, rfl, rfl, rfl⟩ fun after _ => ?_
  split
  · next panics => exact absurd panics calm
  · cases answer : compiler.answer? request with
    | none =>
        simp only [Compiler.program?, answer, Option.map_none]
        exact .pure none after
    | some answered =>
        simp only [Compiler.program?, answer, Option.map_some]
        exact .bind ⟨_, rfl, rfl, rfl, rfl, rfl⟩ fun counted _ =>
          .bind (.emit rfl counted) fun last _ => .pure _ last

/-- A compiler that does not panic is asked, and answers. -/
theorem CompilerRef.createProgram_settles {compiler : CompilerRef} (base : Base)
    {request : Glsl.Request} {verdict : Verdict} {world : World}
    (faultless : world.logger.faultless = true)
    (calm : (world.compilers compiler.serial).panicsAt (some verdict) request = false) :
    ∃ after, compiler.createProgram base request verdict world =
        (.done ((world.compilers compiler.serial).program? compiler request verdict), after) ∧
      World.Silent { world with trace := world.trace ++ [.compiling compiler request base] } after := by
  let asked : World := { world with trace := world.trace ++ [.compiling compiler request base] }
  have ran : compiler.createProgram base request verdict world =
      (match world.compilers compiler.serial with
        | .scripted state => state.compile compiler request
        | .frontEnd _ => FrontEnd.compile compiler base request verdict) asked := rfl
  rw [ran]
  cases found : world.compilers compiler.serial with
  | scripted state =>
      have well : state.mode ≠ .panics := by
        intro panics
        simp [found, Compiler.panicsAt, panics] at calm
      exact ScriptedCompiler.compile_settles well verdict _
  | frontEnd state =>
      rw [found] at calm
      have told : asked.logger.faultless = true := faultless
      exact FrontEnd.compile_settles told calm

end ShaderDriver
