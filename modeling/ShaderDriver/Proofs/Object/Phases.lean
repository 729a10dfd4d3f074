import ShaderDriver.Proofs.Object.Answers
import ShaderDriver.Proofs.Object.Making

namespace ShaderDriver

open Memory Container

/-! The making of a shader as a machine. In each phase it asks one thing of the allocator or of the
compiler, and the answer decides about the next. -/

namespace Shader

/-- A request for memory. -/
structure Demand where
  size : Nat
  alignment : Nat
  type : AllocType
deriving DecidableEq, Repr

inductive Phase where
  /-- The shader's own memory is next. -/
  | base
  /-- The copy of the create info is next. -/
  | record
  /-- The container for a kernel is next. -/
  | roomForKernel (code : Bil.Module)
  | kernel (code : Bil.Module)
  /-- The container for a program is next. -/
  | roomForProgram (compiler : CompilerRef) (request : Glsl.Request)
  | program (compiler : CompilerRef) (request : Glsl.Request)
  | failed (error : Error)
  | formed (ir : Ir)
deriving DecidableEq, Repr

/-- Nothing is asked for any more. -/
def Phase.isLast : Phase → Bool
  | .failed _ => true
  | .formed _ => true
  | _ => false

/-- How often a compiler can still be asked. -/
def Phase.callsLeft (phase : Phase) : Nat :=
  if phase.isLast then 0 else 1

/-- How many programs were made. -/
def Phase.programs : Phase → Nat
  | .formed ir => ir.program?.isSome.toNat
  | _ => 0

/-- There is no compiler in a phase, and no program. -/
def Phase.Binary : Phase → Prop
  | .roomForProgram _ _ => False
  | .program _ _ => False
  | .formed ir => ir.program? = none
  | _ => True

/-- What is settled before a shader is made. -/
structure Plan where
  device : Device
  info : CreateInfo
  verdict : Verdict
  heap : Heap
  compilers : Cells Compiler

namespace Plan

variable (plan : Plan)

/-- The base that the shader will have. -/
def base : Base :=
  .made plan.device.allocator plan.device.debug .shader footprint (some plan.info.code)

/-- What the device makes of the code, or the error with which it refuses the code. -/
def source : Except Error Source :=
  if plan.device.has .compileGlsl ∧ plan.info.type = .compileRequest then
    (Glsl.Request.decode plan.info.code).map .glsl
  else (Bil.Module.decode plan.info.code).map .bil

/-- The first phase for the form of a shader. -/
def form : Source → Phase
  | .bil code => .roomForKernel code
  | .glsl request =>
      match plan.device.compiler with
      | some compiler => .roomForProgram compiler request
      | none => .failed .badShaderCode

/-- The code is looked at once the base is there. -/
def read : Phase :=
  match plan.source with
  | .ok source => plan.form source
  | .error error => .failed error

def demand? : Phase → Option Demand
  | .base => some ⟨footprint, objectAlignment, .apiObject⟩
  | .record => some ⟨plan.info.code.length, bufferAlignment, .debug⟩
  | .roomForKernel _ => some ⟨Ir.footprint, objectAlignment, .internalShader⟩
  | .kernel code => some ⟨code.payload.length, bufferAlignment, .internalShader⟩
  | .roomForProgram _ _ => some ⟨Ir.footprint, objectAlignment, .internalShader⟩
  | .program _ _ => none
  | .failed _ => none
  | .formed _ => none

/-- A copy can still be too long for the heap when the allocator has granted it. -/
def copied (bytes : List UInt8) (next : Phase) : Phase :=
  if plan.heap.hasRoom bytes.length then next else .failed .outOfMemory

def granted : Phase → Phase
  | .base => if plan.device.debug then .record else plan.read
  | .record => plan.copied plan.info.code plan.read
  | .roomForKernel code => .kernel code
  | .kernel code => plan.copied code.payload (.formed
      { payload := .kernel (.holding plan.device.allocator code.payload .internalShader)
        size := code.payload.length
        container := Ir.room plan.device.allocator })
  | .roomForProgram compiler request => .program compiler request
  | last => last

/-- What comes of the answer of a compiler. -/
def answered (request : Glsl.Request) : Option Program → Phase
  | some program => .formed
      { payload := .program program
        size := request.codeSize
        container := Ir.room plan.device.allocator }
  | none => .failed .badShaderCode

def answer (compiler : CompilerRef) (request : Glsl.Request) : Option Program :=
  (plan.compilers compiler.serial).program? compiler request plan.verdict

/-- A request for memory as it is seen, with the answer. -/
def requested (demand : Demand) (granted : Bool) : Event :=
  .requested plan.device.allocator demand.size demand.alignment demand.type granted

/-- What is asked next, with the answer, and where that leads. The account of the allocator is in
order. -/
def step (state : Allocator × Phase) : Option (Event × Allocator × Phase) :=
  match plan.demand? state.2, state.2 with
  | some demand, phase =>
      match state.1.alloc demand.size demand.type with
      | (.granted, next) => some (plan.requested demand true, next, plan.granted phase)
      | (.refused, next) => some (plan.requested demand false, next, .failed .outOfMemory)
      | (.fault, _) => none
  | none, .program compiler request => some (.compiling compiler request plan.base, state.1,
      plan.answered request (plan.answer compiler request))
  | none, _ => none

/-- The machine goes from one state to another, with all that is asked on the way. -/
inductive Runs (plan : Plan) : Allocator × Phase → List Event → Allocator × Phase → Prop
  | rest (state : Allocator × Phase) : Runs plan state [] state
  | step {state next last : Allocator × Phase} {event : Event} {events : List Event}
      (first : plan.step state = some (event, next)) (later : Runs plan next events last) :
      Runs plan state (event :: events) last

variable {plan} {allocator left : Allocator} {phase : Phase} {state next middle last : Allocator × Phase}
  {event : Event} {events more : List Event} {demand : Demand}

theorem source_eq_ok {source : Source} :
    plan.source = .ok source ↔ Source.Of plan.device plan.info source := by
  unfold Plan.source Source.Of
  by_cases asked : plan.device.has .compileGlsl = true ∧ plan.info.type = .compileRequest
  · rw [if_pos asked]
    cases Glsl.Request.decode plan.info.code <;> cases source <;> simp [Except.map, asked]
  · rw [if_neg asked]
    cases Bil.Module.decode plan.info.code <;> cases source <;> simp [Except.map, asked]

theorem step_granted (asks : plan.demand? phase = some demand)
    (answer : allocator.alloc demand.size demand.type = (.granted, left)) :
    plan.step (allocator, phase) =
      some (plan.requested demand true, left, plan.granted phase) := by
  simp only [step, asks, answer]

theorem step_refused (asks : plan.demand? phase = some demand)
    (answer : allocator.alloc demand.size demand.type = (.refused, left)) :
    plan.step (allocator, phase) =
      some (plan.requested demand false, left, .failed .outOfMemory) := by
  simp only [step, asks, answer]

theorem step_program (allocator : Allocator) (compiler : CompilerRef) (request : Glsl.Request) :
    plan.step (allocator, .program compiler request) =
      some (.compiling compiler request plan.base, allocator,
        plan.answered request (plan.answer compiler request)) := rfl

/-- All that a step can be: an answer of the allocator, or one of a compiler. -/
theorem step_cases (stepped : plan.step (allocator, phase) = some (event, next)) :
    (∃ demand left, plan.demand? phase = some demand ∧
      (allocator.alloc demand.size demand.type = (.granted, left) ∧
          event = plan.requested demand true ∧ next = (left, plan.granted phase) ∨
        allocator.alloc demand.size demand.type = (.refused, left) ∧
          event = plan.requested demand false ∧ next = (left, .failed .outOfMemory))) ∨
      ∃ compiler request, phase = .program compiler request ∧
        event = .compiling compiler request plan.base ∧
        next = (allocator, plan.answered request (plan.answer compiler request)) := by
  cases asks : plan.demand? phase with
  | some demand =>
      rcases answer : allocator.alloc demand.size demand.type with ⟨reply, left⟩
      simp only [step, asks, answer] at stepped
      cases reply with
      | granted => cases stepped; exact .inl ⟨demand, left, rfl, .inl ⟨answer, rfl, rfl⟩⟩
      | refused => cases stepped; exact .inl ⟨demand, left, rfl, .inr ⟨answer, rfl, rfl⟩⟩
      | fault => cases stepped
  | none =>
      cases phase with
      | program compiler request =>
          cases stepped
          exact .inr ⟨compiler, request, rfl, rfl, rfl⟩
      | failed error => cases stepped
      | formed ir => cases stepped
      | _ => cases asks

theorem step_last (last : phase.isLast = true) : plan.step (allocator, phase) = none := by
  cases phase <;> first | rfl | cases last

theorem Runs.append (first : plan.Runs state events middle) (later : plan.Runs middle more last) :
    plan.Runs state (events ++ more) last := by
  induction first with
  | rest => exact later
  | step begun _ ih => exact .step begun (ih later)

/-- There is but one way to an end. -/
theorem Runs.unique {other : Allocator × Phase} (first : plan.Runs state events last)
    (second : plan.Runs state more other) (ends : last.2.isLast = true)
    (stops : other.2.isLast = true) : events = more ∧ last = other := by
  induction first generalizing more with
  | rest state =>
      cases second with
      | rest => exact ⟨rfl, rfl⟩
      | step begun => cases (step_last ends).symm.trans begun
  | step begun _ ih =>
      cases second with
      | rest => cases (step_last stops).symm.trans begun
      | step again later =>
          cases begun.symm.trans again
          obtain ⟨rfl, same⟩ := ih later ends
          exact ⟨rfl, same⟩

/-! How often a compiler is asked. -/

theorem copied_cases (plan : Plan) (bytes : List UInt8) (next : Phase) :
    plan.copied bytes next = next ∨ plan.copied bytes next = .failed .outOfMemory := by
  unfold copied
  split
  · exact .inl rfl
  · exact .inr rfl

/-- What is true of the first phase for a form and of all that needs no code is true of every phase
that a grant leads to. -/
theorem granted_keeps (good : Phase → Prop) (asks : plan.demand? phase = some demand)
    (failed : ∀ error, good (.failed error)) (record : good .record)
    (form : ∀ source, plan.source = .ok source → good (plan.form source))
    (room : ∀ code, phase = .roomForKernel code → good (.kernel code))
    (kernel : ∀ ir, ir.program? = none → good (.formed ir))
    (program : ∀ compiler request, phase = .roomForProgram compiler request →
      good (.program compiler request)) : good (plan.granted phase) := by
  have read : good plan.read := by
    unfold read
    split
    · next source found => exact form source found
    · exact failed _
  have copied {next : Phase} (bytes : List UInt8) (after : good next) :
      good (plan.copied bytes next) := by
    rcases plan.copied_cases bytes next with same | refused
    · rwa [same]
    · rw [refused]
      exact failed _
  cases phase with
  | base =>
      simp only [granted]
      split
      · exact record
      · exact read
  | record => exact copied _ read
  | roomForKernel code => exact room code rfl
  | kernel code => exact copied _ (kernel _ rfl)
  | roomForProgram compiler request => exact program compiler request rfl
  | program compiler request => cases asks
  | failed error => cases asks
  | formed ir => cases asks

theorem form_programs (source : Source) : (plan.form source).programs = 0 := by
  cases source with
  | bil code => rfl
  | glsl request =>
      unfold form
      cases plan.device.compiler <;> rfl

theorem step_calls (stepped : plan.step (allocator, phase) = some (event, next)) :
    event.asksCompiler.toNat + next.2.callsLeft ≤ phase.callsLeft ∧
      next.2.programs ≤ event.asksCompiler.toNat + phase.programs := by
  have unfinished : phase.callsLeft = 1 := by
    cases last : phase.isLast with
    | true => cases (step_last last).symm.trans stepped
    | false => simp [Phase.callsLeft, last]
  have bound : next.2.callsLeft ≤ 1 := by
    unfold Phase.callsLeft
    split <;> decide
  rcases step_cases stepped with ⟨demand, left, asks, answered⟩ | ⟨compiler, request, rfl, rfl, rfl⟩
  · have none : (plan.granted phase).programs = 0 :=
      granted_keeps (fun phase => phase.programs = 0) asks (fun _ => rfl) rfl
        (fun source _ => form_programs source) (fun _ _ => rfl)
        (fun ir binary => by simp [Phase.programs, binary]) (fun _ _ _ => rfl)
    rcases answered with ⟨_, rfl, rfl⟩ | ⟨_, rfl, rfl⟩
    · simpa [Event.asksCompiler, requested, none, unfinished] using bound
    · simpa [Event.asksCompiler, requested, Phase.programs, unfinished] using bound
  · cases plan.answer compiler request with
    | none => exact ⟨Nat.le_refl _, Nat.zero_le _⟩
    | some program => exact ⟨Nat.le_refl _, Nat.le_refl _⟩

/-- A compiler is asked once at most, and once for a program. -/
theorem Runs.calls (runs : plan.Runs state events last) :
    events.countP Event.asksCompiler + last.2.callsLeft ≤ state.2.callsLeft ∧
      last.2.programs ≤ events.countP Event.asksCompiler + state.2.programs := by
  induction runs with
  | rest => simp
  | @step state next last event events first _ ih =>
      have once := step_calls first
      have counted : (event :: events).countP Event.asksCompiler =
          events.countP Event.asksCompiler + event.asksCompiler.toNat := by
        cases asked : event.asksCompiler <;> simp [asked]
      omega

/-- From code that is no compile request there is no way to a compiler. -/
theorem step_binary (binary : ∀ request, plan.source ≠ .ok (.glsl request))
    (begins : phase.Binary) (stepped : plan.step (allocator, phase) = some (event, next)) :
    event.asksCompiler = false ∧ next.2.Binary := by
  rcases step_cases stepped with ⟨demand, left, asks, answered⟩ | ⟨compiler, request, rfl, rfl, rfl⟩
  · rcases answered with ⟨_, rfl, rfl⟩ | ⟨_, rfl, rfl⟩
    · refine ⟨rfl, granted_keeps Phase.Binary asks (fun _ => trivial) trivial
        (fun source found => ?_) (fun _ _ => trivial) (fun _ binary => binary)
        (fun compiler request same => ?_)⟩
      · cases source with
        | bil code => trivial
        | glsl request => exact absurd found (binary request)
      · subst same
        exact begins.elim
    · exact ⟨rfl, trivial⟩
  · exact begins.elim

theorem Runs.binary (runs : plan.Runs state events last)
    (binary : ∀ request, plan.source ≠ .ok (.glsl request)) (begins : state.2.Binary) :
    (∀ event ∈ events, event.asksCompiler = false) ∧ last.2.Binary := by
  induction runs with
  | rest => exact ⟨fun _ member => absurd member List.not_mem_nil, begins⟩
  | step first _ ih =>
      obtain ⟨silent, goes⟩ := step_binary binary begins first
      obtain ⟨others, ends⟩ := ih goes
      exact ⟨List.forall_mem_cons.mpr ⟨silent, others⟩, ends⟩

end Plan

end Shader

end ShaderDriver
