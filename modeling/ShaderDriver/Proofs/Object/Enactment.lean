import ShaderDriver.Proofs.Container.Modules
import ShaderDriver.Proofs.Container.Requests
import ShaderDriver.Proofs.Memory.Account
import ShaderDriver.Proofs.Object.Ceremony
import ShaderDriver.Proofs.Object.Phases
import ShaderDriver.Proofs.Object.Reversion

namespace ShaderDriver

open Memory Container Act

/-! The world and the machine side by side: shaders are made as the machine says, if neither the
logger nor a compiler panics. -/

/-- An allocation as an account lists it. -/
def Allocation.entry (allocation : Allocation) : Nat × AllocType :=
  (allocation.size, allocation.type)

def Base.listing (base : Base) : Multiset (Nat × AllocType) :=
  ↑(base.allocations.map Allocation.entry)

def Ir.listing (ir : Ir) : Multiset (Nat × AllocType) :=
  ↑(ir.allocations.map Allocation.entry)

/-- A device that is to compile has a compiler. -/
theorem Device.compiler_of_extension {config : DeviceConfig} {device : Device} {world after : World}
    (created : Device.create config world = (.done device, after))
    (extension : device.has .compileGlsl = true) : ∃ compiler, device.compiler = some compiler := by
  have made := (Device.create_eq_done created).1
  rw [Device.has, made.extensions] at extension
  unfold Device.create at created
  split at created
  · cases created
  · next complete =>
      rw [made.compiler]
      cases found : config.compiler with
      | some compiler => exact ⟨compiler, rfl⟩
      | none => exact absurd ⟨extension, by simp [found]⟩ complete

namespace Shader

namespace Plan

variable {α β : Type} {plan : Plan} {live extra more : Multiset (Nat × AllocType)}
  {world after : World} {phase middle : Phase} {error : Error}

/-- The allocator of the device. -/
def allocatorIn (plan : Plan) (world : World) : Allocator :=
  world.allocators plan.device.allocator.serial

/-- The machine can be in this phase: the heap is the one it is to be, the logger does not panic, the
account of the allocator lists what is live, and the compilers have not been asked. -/
structure At (plan : Plan) (live : Multiset (Nat × AllocType)) (world : World) (phase : Phase) :
    Prop where
  heap : world.heap = plan.heap
  logger : world.logger.faultless = true
  accounts : (plan.allocatorIn world).Accounts live
  compilers : phase.isLast = false → world.compilers = plan.compilers

/-- The machine goes where an action goes that begins in some phase, and asks for the same. The action
ends with what it holds beyond what is live, or with the error that the machine fails with. -/
inductive Enacts (plan : Plan) (live : Multiset (Nat × AllocType)) (world : World) (begins : Phase)
    (holds : α → Multiset (Nat × AllocType)) (ends : α → Phase) : Exit α × World → Prop
  | done {value : α} {after : World} {events : List Event}
      (runs : plan.Runs (plan.allocatorIn world, begins) events (plan.allocatorIn after, ends value))
      (asked : after.exchanges = world.exchanges ++ events)
      (reached : plan.At (holds value + live) after (ends value)) :
      Enacts plan live world begins holds ends (.done value, after)
  | failed {error : Error} {after : World} {events : List Event} {left : Allocator}
      (runs : plan.Runs (plan.allocatorIn world, begins) events (left, .failed error))
      (asked : after.exchanges = world.exchanges ++ events)
      (reached : plan.At live after (.failed error)) :
      Enacts plan live world begins holds ends (.failed error, after)

/-- After a failure a release gives back what the account lists beyond what is to stay. -/
def Clears (plan : Plan) (release : Act Unit) (extra : Multiset (Nat × AllocType)) : Prop :=
  ∀ live world error, plan.At (extra + live) world (.failed error) →
    ∃ after, release world = (.done (), after) ∧ plan.At live after (.failed error) ∧
      after.exchanges = world.exchanges

theorem At.silent (reached : plan.At live world phase) (silent : world.Silent after)
    (compilers : phase.isLast = false → after.compilers = world.compilers) :
    plan.At live after phase where
  heap := silent.heap.trans reached.heap
  logger := by rw [silent.logger, reached.logger]
  accounts := by
    rw [allocatorIn, silent.allocators]
    exact reached.accounts
  compilers unfinished := (compilers unfinished).trans (reached.compilers unfinished)

theorem At.relist (reached : plan.At more world phase) (same : more = live) :
    plan.At live world phase :=
  same ▸ reached

/-- When the machine has stopped, nothing depends on the compilers. -/
theorem At.stopped {following : Phase} (reached : plan.At live world phase)
    (heap : after.heap = world.heap) (logger : after.logger = world.logger)
    (allocators : after.allocators = world.allocators) (last : following.isLast = true) :
    plan.At live after following where
  heap := heap.trans reached.heap
  logger := by rw [logger, reached.logger]
  accounts := by
    rw [allocatorIn, allocators]
    exact reached.accounts
  compilers unfinished := by
    rw [last] at unfinished
    cases unfinished

/-- What comes after a request for memory. -/
theorem At.requested {next : Allocator} (reached : plan.At live world phase)
    (unfinished : phase.isLast = false) (accounts : next.Accounts more) (demand : Demand)
    (granted : Bool) (following : Phase) :
    plan.At more { world with
      allocators := world.allocators.set plan.device.allocator.serial next
      trace := world.trace ++ [plan.requested demand granted] } following where
  heap := reached.heap
  logger := reached.logger
  accounts := by simpa only [allocatorIn, Cells.set_self] using accounts
  compilers _ := reached.compilers unfinished

theorem Clears.thenRelease {first second : Act Unit} (begun : plan.Clears first extra)
    (continued : plan.Clears second more) : plan.Clears (first.thenRelease second) (extra + more) := by
  intro live world error reached
  rw [add_assoc] at reached
  obtain ⟨middle, released, kept, silent⟩ := begun _ world error reached
  obtain ⟨after, finished, left, quiet⟩ := continued _ middle error kept
  refine ⟨after, ?_, left, quiet.trans silent⟩
  simp only [Act.thenRelease, Act.leave, released, finished]

theorem clears_allocation {allocation : Allocation}
    (own : allocation.allocator = plan.device.allocator) :
    plan.Clears allocation.release {allocation.entry} := by
  intro live world error reached
  obtain ⟨next, freed, listed⟩ := Allocator.free_listed (Multiset.singleton_add _ _ ▸ reached.accounts)
  rw [allocatorIn, ← own] at freed
  have released : allocation.release world = (.done (), { world with
      allocators := world.allocators.set allocation.allocator.serial next
      trace := world.trace ++
        [.released allocation.allocator allocation.size allocation.type] }) := by
    simp only [Allocation.release, freed, if_true]
  refine ⟨_, released, ⟨reached.heap, reached.logger, ?_, nofun⟩, ?_⟩
  · simpa only [allocatorIn, ← own, Cells.set_self] using listed
  · simp only [World.exchanges, List.filter_append]
    exact List.append_nil _

theorem clears_base : plan.Clears plan.base.release plan.base.listing := by
  have room : plan.Clears plan.base.allocation.release {plan.base.allocation.entry} :=
    clears_allocation rfl
  unfold Base.release Base.listing Base.allocations
  cases found : plan.base.record with
  | none => exact room
  | some record =>
      have own : record.allocation.allocator = plan.device.allocator :=
        (Base.made_in _ _ _ _ _).2 record found
      exact room.thenRelease (clears_allocation own)

theorem Enacts.bind {act : Act α} {next : α → Act β} {holds : α → Multiset (Nat × AllocType)}
    {ends : α → Phase} {keeps : β → Multiset (Nat × AllocType)} {stops : β → Phase}
    (first : plan.Enacts live world phase holds ends (act world))
    (second : ∀ value after, act world = (.done value, after) →
      plan.At (holds value + live) after (ends value) →
        plan.Enacts live after (ends value) keeps stops (next value after)) :
    plan.Enacts live world phase keeps stops ((act >>= next) world) := by
  rw [bind_apply]
  generalize ran : act world = ending at first
  cases first with
  | failed runs asked reached => exact .failed runs asked reached
  | @done value middle events runs asked reached =>
      have later := second value middle ran reached
      simp only
      generalize next value middle = result at later ⊢
      cases later with
      | done further more kept =>
          exact .done (runs.append further) (by rw [more, asked, List.append_assoc]) kept
      | failed further more kept =>
          exact .failed (runs.append further) (by rw [more, asked, List.append_assoc]) kept

/-- What is owned during an action goes back if the action fails, and else stays. -/
theorem Enacts.orRelease {act : Act α} {release : Act Unit} {holds : α → Multiset (Nat × AllocType)}
    {ends : α → Phase} (clears : plan.Clears release extra)
    (enacts : plan.Enacts (extra + live) world phase holds ends (act world)) :
    plan.Enacts live world phase (fun value => holds value + extra) ends
      (act.orRelease release world) := by
  unfold Act.orRelease
  generalize act world = ending at enacts
  cases enacts with
  | done runs asked reached => exact .done runs asked (by rwa [add_assoc])
  | failed runs asked reached =>
      obtain ⟨after, released, kept, silent⟩ := clears _ _ _ reached
      simp only [Act.leave, released]
      exact .failed runs (silent.trans asked) kept

theorem allocatorIn_silent (plan : Plan) (silent : world.Silent after) :
    plan.allocatorIn after = plan.allocatorIn world := by
  rw [allocatorIn, silent.allocators, allocatorIn]

/-- The action asks for nothing, and the machine rests. -/
theorem Enacts.rested {value : α} {ends : α → Phase} (silent : world.Silent after)
    (stays : ends value = phase) (reached : plan.At live after phase) :
    plan.Enacts live world phase (fun _ => 0) ends (.done value, after) := by
  subst stays
  have unasked : after.exchanges = world.exchanges ++ [] := by
    rw [silent.exchanges, List.append_nil]
  refine .done ?_ unasked (by rwa [zero_add])
  rw [plan.allocatorIn_silent silent]
  exact .rest _

/-- An action that asks for nothing once the machine has stopped. -/
theorem Enacts.settled {act : Act α} {value : α} (reached : plan.At live world phase)
    (last : phase.isLast = true) (settles : act.Settles world value) :
    plan.Enacts live world phase (fun _ => 0) (fun _ => phase) (act world) := by
  obtain ⟨after, done, silent⟩ := settles
  rw [done]
  exact .rested silent rfl (reached.silent silent (by simp [last]))

theorem Enacts.fails {ends : α → Phase} {holds : α → Multiset (Nat × AllocType)}
    (reached : plan.At live world (.failed error)) :
    plan.Enacts live world (.failed error) holds ends (Act.fail error world) :=
  .failed (.rest _) (List.append_nil _).symm reached

theorem unfinished_of_demand {demand : Demand} (asks : plan.demand? phase = some demand) :
    phase.isLast = false := by
  cases phase <;> first | rfl | cases asks

/-- A request for memory is a step of the machine. -/
theorem enacts_request {demand : Demand} (reached : plan.At live world phase)
    (asks : plan.demand? phase = some demand) :
    plan.Enacts live world phase (fun allocation : Allocation => {allocation.entry})
      (fun _ => plan.granted phase)
      ((plan.device.allocator.request demand.size demand.alignment demand.type).orFail
        .outOfMemory world) := by
  have unfinished := unfinished_of_demand asks
  obtain ⟨next, ⟨answer, listed⟩ | ⟨answer, listed⟩⟩ :=
    Allocator.alloc_listed reached.accounts demand.size demand.type
  · have ran : (plan.device.allocator.request demand.size demand.alignment demand.type).orFail
        .outOfMemory world = (.failed .outOfMemory, { world with
          allocators := world.allocators.set plan.device.allocator.serial next
          trace := world.trace ++ [plan.requested demand false] }) := by
      rw [allocatorIn] at answer
      simp only [Act.orFail, Act.bind, AllocatorRef.request, answer, Act.fail, requested]
    rw [ran]
    exact .failed (.step (step_refused asks answer) (.rest _)) (World.exchanges_event rfl _ _)
      (reached.requested unfinished listed demand false _)
  · have ran : (plan.device.allocator.request demand.size demand.alignment demand.type).orFail
        .outOfMemory world = (.done ⟨plan.device.allocator, demand.size, demand.type⟩, { world with
          allocators := world.allocators.set plan.device.allocator.serial next
          trace := world.trace ++ [plan.requested demand true] }) := by
      rw [allocatorIn] at answer
      simp only [Act.orFail, Act.bind, AllocatorRef.request, answer, Act.pure, requested]
    rw [ran]
    refine .done (.step (step_granted asks answer) ?_) (World.exchanges_event rfl _ _)
      (reached.requested unfinished listed demand true _)
    simp only [allocatorIn, Cells.set_self]
    exact .rest _

/-- A copy needs room in the heap as well. -/
theorem copyOf_eq (allocator : AllocatorRef) (bytes : List UInt8) (type : AllocType) :
    Buffer.copyOf allocator bytes type =
      (allocator.request bytes.length bufferAlignment type).orFail .outOfMemory >>= fun allocation =>
        Act.read World.heap >>= fun heap =>
          if heap.hasRoom bytes.length then pure { data := bytes, allocation }
          else allocation.release >>= fun _ => Act.fail .outOfMemory := by
  funext world
  simp only [Buffer.copyOf, Buffer.zeroed, bind_apply, Act.orFail, Act.bind]
  rcases allocator.request bytes.length bufferAlignment type world with ⟨exit, after⟩
  cases exit with
  | failed error => rfl
  | unwound => rfl
  | done answer =>
      cases answer with
      | none => rfl
      | some allocation =>
          simp only [read_bind, Act.read]
          by_cases fits : after.heap.hasRoom bytes.length = true
          · simp [fits, Buffer.write, Act.orRelease, Act.pure]
          · simp only [if_neg fits, bind_apply, Act.pure]
            rcases allocation.release after with ⟨ending, last⟩
            cases ending <;> rfl

theorem enacts_copy {bytes : List UInt8} {type : AllocType} {next : Phase}
    (reached : plan.At live world phase)
    (asks : plan.demand? phase = some ⟨bytes.length, bufferAlignment, type⟩)
    (goes : plan.granted phase = plan.copied bytes next) :
    plan.Enacts live world phase (fun buffer : Buffer => {buffer.allocation.entry}) (fun _ => next)
      (Buffer.copyOf plan.device.allocator bytes type world) := by
  rw [copyOf_eq]
  refine (enacts_request reached asks).bind fun allocation after done reached => ?_
  obtain rfl := AllocatorRef.request_eq_done (orFail_eq_done.mp done)
  rw [goes, copied] at reached ⊢
  rw [read_bind, reached.heap]
  by_cases fits : plan.heap.hasRoom bytes.length = true
  · simp only [if_pos fits] at reached ⊢
    exact .done (.rest _) (List.append_nil _).symm reached
  · simp only [if_neg fits] at reached ⊢
    obtain ⟨last, released, left, silent⟩ := clears_allocation rfl _ _ _ reached
    rw [bind_done released]
    exact .failed (.rest _) (by simp [silent]) left

theorem enacts_create (reached : plan.At live world .base) :
    plan.Enacts live world .base Base.listing (fun _ => plan.read)
      (Base.create plan.device.allocator plan.device.debug .shader footprint (some plan.info.code)
        world) := by
  refine (enacts_request reached rfl).bind fun allocation after done reached => ?_
  obtain rfl := AllocatorRef.request_eq_done (orFail_eq_done.mp done)
  simp only [granted] at reached ⊢
  cases debug : plan.device.debug with
  | false =>
      simp only [debug, Bool.false_eq_true, if_false] at reached ⊢
      exact .done (.rest _) (List.append_nil _).symm reached
  | true =>
      simp only [debug, if_true] at reached ⊢
      have copies := (enacts_copy reached rfl rfl).orRelease (clears_allocation rfl)
      refine copies.bind fun record last _ reached => .done (.rest _) (List.append_nil _).symm ?_
      exact reached.relist (congrArg (· + live) (add_comm _ _))

theorem select_failed (refused : plan.source = .error error) (world : World) :
    Source.select plan.device plan.info world = (.failed error, world) := by
  unfold Plan.source at refused
  unfold Source.select
  split at refused
  · next asked =>
      rw [if_pos asked]
      cases decoded : Glsl.Request.decode plan.info.code with
      | ok request => simp [decoded, Except.map] at refused
      | error reason =>
          obtain rfl : reason = error := by simpa [decoded, Except.map] using refused
          rfl
  · next other =>
      rw [if_neg other]
      cases decoded : Bil.Module.decode plan.info.code with
      | ok code => simp [decoded, Except.map] at refused
      | error reason =>
          obtain rfl : reason = error := by simpa [decoded, Except.map] using refused
          exact bind_failed (Source.readBil_of_error decoded world)

/-- Code that is accepted is read without a question, and the compilers stay as they are. -/
theorem select_settled {source : Source} (accepted : plan.source = .ok source)
    (faultless : world.logger.faultless = true) :
    ∃ after, Source.select plan.device plan.info world = (.done source, after) ∧
      world.Silent after ∧ after.compilers = world.compilers := by
  unfold Plan.source at accepted
  unfold Source.select
  split at accepted
  · next asked =>
      rw [if_pos asked]
      cases decoded : Glsl.Request.decode plan.info.code with
      | error reason => simp [decoded, Except.map] at accepted
      | ok request =>
          obtain rfl : Source.glsl request = source := by simpa [decoded, Except.map] using accepted
          exact ⟨world, rfl, .refl world, rfl⟩
  · next other =>
      rw [if_neg other]
      cases decoded : Bil.Module.decode plan.info.code with
      | error reason => simp [decoded, Except.map] at accepted
      | ok code =>
          obtain rfl : Source.bil code = source := by simpa [decoded, Except.map] using accepted
          have read := Source.readBil_of_ok decoded world
          split at read
          · exact ⟨world, bind_done read, .refl world, rfl⟩
          · rw [bind_done (log_faultless faultless _)] at read
            exact ⟨_, bind_done read, .event rfl world, rfl⟩

theorem enacts_select (reached : plan.At live world plan.read) :
    plan.Enacts live world plan.read (fun _ => 0) plan.form
      ((Source.select plan.device plan.info).onFailure (rejection plan.info.code) world) := by
  unfold Act.onFailure
  cases found : plan.source with
  | ok source =>
      obtain ⟨after, done, silent, compilers⟩ := select_settled found reached.logger
      have read : plan.read = plan.form source := by rw [Plan.read, found]
      rw [done, read]
      rw [read] at reached
      exact .rested silent rfl (reached.silent silent fun _ => compilers)
  | error error =>
      have read : plan.read = .failed error := by rw [Plan.read, found]
      rw [select_failed found, read]
      rw [read] at reached
      obtain ⟨after, told, silent, compilers⟩ := note_silent reached.logger .warn "xgl::Shader"
        ("Rejected shader code (" ++ toString plan.info.code.length ++ " bytes): " ++ error.message)
      simp only [rejection, Act.bind, told]
      exact .failed (.rest _) (by rw [silent.exchanges, List.append_nil])
        (reached.silent silent fun _ => compilers)

theorem enacts_translate {code : Bil.Module} (reached : plan.At live world (.roomForKernel code)) :
    plan.Enacts live world (.roomForKernel code) Ir.listing .formed
      (Ir.translate plan.device.allocator code world) := by
  unfold Ir.translate Ir.requestContainer
  refine (enacts_request reached rfl).bind fun room after done reached => ?_
  obtain rfl := AllocatorRef.request_eq_done (orFail_eq_done.mp done)
  have copies := (enacts_copy reached rfl rfl).orRelease (clears_allocation rfl)
  refine copies.bind fun kernel last copied reached => ?_
  obtain rfl := Buffer.copyOf_eq_done (orRelease_eq_done.mp copied)
  refine .done (.rest _) (List.append_nil _).symm ?_
  exact reached.relist (congrArg (· + live) (add_comm _ _))

/-- A program is asked for just once. -/
theorem enacts_program {compiler : CompilerRef} {request : Glsl.Request}
    (calm : (plan.compilers compiler.serial).panicsAt (some plan.verdict) request = false)
    (reached : plan.At live world (.program compiler request)) :
    plan.Enacts live world (.program compiler request) (fun _ => 0)
      (fun program => plan.answered request (some program))
      (Ir.requireProgram compiler plan.base request plan.verdict world) := by
  have same := reached.compilers rfl
  rw [← same] at calm
  obtain ⟨after, done, silent⟩ :=
    CompilerRef.createProgram_settles plan.base reached.logger calm
  have exchanges : after.exchanges =
      world.exchanges ++ [.compiling compiler request plan.base] := by
    rw [silent.exchanges, World.exchanges_event rfl]
  have left : plan.allocatorIn after = plan.allocatorIn world := by
    rw [allocatorIn, silent.allocators, allocatorIn]
  have stopped {following : Phase} (last : following.isLast = true) :
      plan.At live after following := reached.stopped silent.heap silent.logger silent.allocators last
  have step : plan.step (plan.allocatorIn world, .program compiler request) = _ :=
    step_program _ _ _
  unfold Ir.requireProgram
  rw [bind_done done, same]
  rw [Plan.answer] at step
  cases answer : (plan.compilers compiler.serial).program? compiler request plan.verdict with
  | some program =>
      rw [answer] at step
      refine .done (.step step ?_) exchanges ?_
      · rw [left]
        exact .rest _
      · rw [zero_add]
        exact stopped rfl
  | none =>
      rw [answer] at step
      have failed : plan.At live after (.failed .badShaderCode) := stopped rfl
      obtain ⟨last, told, further, compilers⟩ := note_silent failed.logger .warn "xgl::Glsl"
        (request.stage.name ++ " shader failed to compile")
      simp only
      rw [bind_done told]
      exact .failed (.step step (.rest _)) (by rw [further.exchanges, exchanges])
        (failed.silent further fun _ => compilers)

/-- The compiler of the device does not panic at what it can be asked. -/
def Calm (plan : Plan) : Prop :=
  ∀ compiler request, plan.device.compiler = some compiler →
    Source.Of plan.device plan.info (.glsl request) →
      (plan.compilers compiler.serial).panicsAt (some plan.verdict) request = false

theorem enacts_source (calm : plan.Calm) {source : Source}
    (accepted : Source.Of plan.device plan.info source) (reached : plan.At live world (plan.form source)) :
    plan.Enacts live world (plan.form source) Ir.listing .formed
      (Ir.ofSource plan.device plan.base source plan.verdict world) := by
  cases source with
  | bil code => exact enacts_translate reached
  | glsl request =>
      unfold form at reached ⊢
      unfold Ir.ofSource Ir.compile Ir.requestContainer
      cases found : plan.device.compiler with
      | none =>
          simp only [found] at reached ⊢
          exact .fails reached
      | some compiler =>
          simp only [found] at reached ⊢
          refine (enacts_request reached rfl).bind fun room after done reached => ?_
          obtain rfl := AllocatorRef.request_eq_done (orFail_eq_done.mp done)
          have programs := (enacts_program (calm compiler request found accepted) reached).orRelease
            (clears_allocation rfl)
          refine programs.bind fun program last _ reached =>
            .done (.rest _) (List.append_nil _).symm ?_
          exact reached.relist (congrArg (· + live) (zero_add _))

theorem enacts_complete (calm : plan.Calm) (reached : plan.At live world plan.read) :
    plan.Enacts live world plan.read (fun shader : Shader => shader.ir.listing)
      (fun shader => .formed shader.ir)
      (complete plan.device plan.base plan.info plan.verdict world) := by
  refine (enacts_select reached).bind fun source selected done reached => ?_
  have accepted := Source.select_eq_done (onFailure_eq_done.mp done)
  refine (enacts_source calm accepted (reached.relist (zero_add _))).bind fun ir formed _ reached => ?_
  obtain ⟨told, announced, silent, _⟩ := note_silent reached.logger .debug "xgl::Shader"
    ("Created shader on " ++ plan.device.gpuName ++ " (" ++ toString ir.size ++
      " bytes of IR, flags " ++ Text.flagWord plan.info.flags.toNat ++ ")")
  have kept : (announce plan.device ir plan.info.flags).orRelease ir.release formed =
      (.done (), told) := orRelease_eq_done.mpr announced
  have left : plan.allocatorIn told = plan.allocatorIn formed := plan.allocatorIn_silent silent
  rw [bind_done kept]
  have unasked : told.exchanges = formed.exchanges ++ [] := by
    rw [silent.exchanges, List.append_nil]
  refine .done ?_ unasked (reached.stopped silent.heap silent.logger silent.allocators rfl)
  rw [← left]
  exact .rest _

/-- A shader is made as the machine says. -/
theorem enacts_shader (calm : plan.Calm) (reached : plan.At live world .base) :
    plan.Enacts live world .base
      (fun shader : Shader => shader.ir.listing + plan.base.listing)
      (fun shader => .formed shader.ir)
      (Shader.create plan.device plan.info plan.verdict world) := by
  refine (enacts_create reached).bind fun base after created reached => ?_
  obtain rfl : base = plan.base := Base.create_eq_done created
  exact (enacts_complete calm reached).orRelease clears_base

end Plan

/-- The code of a shader with a program was a compile request. -/
theorem MadeFrom.program_size {shader : Shader} {device : Device} {info : CreateInfo}
    (made : shader.MadeFrom device info) {program : Program}
    (found : shader.ir.program? = some program) : shader.ir.size = info.code.length := by
  obtain ⟨source, asked, formed⟩ := made.form
  cases source with
  | bil code =>
      rw [show shader.ir = _ from formed] at found
      cases found
  | glsl request =>
      obtain ⟨made, form⟩ := formed
      rw [form]
      exact (Glsl.Request.decode_eq_ok.mp asked.2).2.codeSize

namespace Plan

variable {plan : Plan} {live : Multiset (Nat × AllocType)} {world after : World}

/-- A creation is what the machine does in its place, and nothing else is asked of the allocator and
of the compiler. -/
structure Governs (plan : Plan) (world : World) (exit : Exit Shader) (after : World)
    (events : List Event) (left : Allocator) (last : Phase) : Prop where
  runs : plan.Runs (plan.allocatorIn world, .base) events (left, last)
  only : ∀ more other, plan.Runs (plan.allocatorIn world, .base) more other →
    other.2.isLast = true → more = events ∧ other = (left, last)
  asked : after.exchanges = world.exchanges ++ events
  ends : match last with
    | .formed ir => plan.allocatorIn after = left ∧ ∃ id, exit = .done
        { id, maker := plan.device.id, ir, base := plan.base, flags := plan.info.flags }
    | .failed error => exit = .failed error
    | _ => False
  once : events.countP Event.asksCompiler ≤ 1
  program : ∀ ir program, last = .formed ir → ir.program? = some program →
    events.countP Event.asksCompiler = 1 ∧ ir.size = plan.info.code.length
  /-- Without the extension every shader holds a kernel. -/
  binary : plan.device.has .compileGlsl = false →
    (∀ event ∈ events, event.asksCompiler = false) ∧
      ∀ ir, last = .formed ir → ∃ kernel, ir.kernel? = some kernel

theorem unasked_without_extension (missing : plan.device.has .compileGlsl = false)
    (request : Glsl.Request) : plan.source ≠ .ok (.glsl request) := by
  intro found
  have asked := (source_eq_ok.mp found).1.1
  rw [missing] at asked
  cases asked

theorem governs_of_enacts {holds : Shader → Multiset (Nat × AllocType)} {exit : Exit Shader}
    (ran : Shader.create plan.device plan.info plan.verdict world = (exit, after))
    (enacts : plan.Enacts live world .base holds (fun shader => .formed shader.ir) (exit, after)) :
    ∃ events left last, plan.Governs world exit after events left last := by
  have binary {events : List Event} {last : Allocator × Phase}
      (runs : plan.Runs (plan.allocatorIn world, .base) events last)
      (missing : plan.device.has .compileGlsl = false) :
      (∀ event ∈ events, event.asksCompiler = false) ∧
        ∀ ir, last.2 = .formed ir → ∃ kernel, ir.kernel? = some kernel := by
    obtain ⟨unasked, ends⟩ := runs.binary (unasked_without_extension missing) trivial
    refine ⟨unasked, fun ir formed => ?_⟩
    rw [formed] at ends
    cases payload : ir.payload with
    | kernel buffer => exact ⟨buffer, by rw [Ir.kernel?, payload]⟩
    | program made => simp [Phase.Binary, Ir.program?, payload] at ends
  cases enacts with
  | failed runs asked reached =>
      refine ⟨_, _, _, runs, fun more other further ends => further.unique runs ends rfl, asked, rfl,
        ?_, fun _ _ impossible => (by cases impossible), binary runs⟩
      have calls := runs.calls.1
      exact Nat.le_trans (Nat.le_add_right _ _) calls
  | @done shader _ events runs asked reached =>
      obtain ⟨made, _, _⟩ := create_eq_done ran
      refine ⟨_, _, _, runs, fun more other further ends => further.unique runs ends rfl, asked,
        ⟨rfl, shader.id, ?_⟩, ?_, ?_, binary runs⟩
      · obtain ⟨id, maker, ir, base, flags⟩ := shader
        cases made.base
        cases made.maker
        cases made.flags
        rfl
      · exact Nat.le_trans (Nat.le_add_right _ _) runs.calls.1
      · rintro ir program ⟨rfl⟩ found
        have calls := runs.calls
        have one : (Phase.formed shader.ir).programs = 1 := by simp [Phase.programs, found]
        refine ⟨Nat.le_antisymm (Nat.le_trans (Nat.le_add_right _ _) calls.1) ?_, ?_⟩
        · have least := calls.2
          rw [one] at least
          exact least
        · exact made.program_size found

end Plan

/-- A shader is made step by step as the machine goes, for all answers of the allocator, if neither the
logger nor the compiler panics. An account has to be in order; an allocator whose answers are given
beforehand keeps none. -/
theorem creation_is_run_of_machine (device : Device) (info : CreateInfo) (verdict : Verdict)
    (world : World) (live : Multiset (Nat × AllocType))
    (accounts : (world.allocators device.allocator.serial).Accounts live)
    (faultless : world.logger.faultless = true)
    (calm : ∀ compiler request, device.compiler = some compiler →
      Source.Of device info (.glsl request) →
        (world.compilers compiler.serial).panicsAt (some verdict) request = false) :
    (∀ config earlier later, Device.create config earlier = (.done device, later) →
      device.has .compileGlsl = true → ∃ compiler, device.compiler = some compiler) ∧
    ∃ events left last, Plan.Governs
      { device, info, verdict, heap := world.heap, compilers := world.compilers } world
      (create device info verdict world).1 (create device info verdict world).2 events left last := by
  refine ⟨fun config earlier later created extension => ?_, ?_⟩
  · exact Device.compiler_of_extension created extension
  · exact Plan.governs_of_enacts rfl (Plan.enacts_shader calm ⟨rfl, faultless, accounts, fun _ => rfl⟩)

/-- A device that records and compiles. -/
def compilingDevice : Device :=
  { id := 0
    base := .made ⟨0, none⟩ true .device Device.footprint none
    gpuName := "Intel GPU"
    extensions := .compileGlsl
    debug := true
    allocator := ⟨0, none⟩
    compiler := some ⟨0, none⟩ }

/-- The allocator grants three requests, and the compiler answers every request with a program. -/
def threeGrants : World :=
  { World.initial with
    allocators := fun _ => .answering [true, true, true]
    compilers := fun _ => .scripted
      { mode := .delivers .vertex "main", entryPoint := "main", calls := 0, live := 0 } }

theorem three_grants_lead_to_program :
    let info := CreateInfo.glsl (Glsl.Request.encode .vertex 0 "")
    (threeGrants.allocators 0).Accounts 0 ∧ threeGrants.logger.faultless = true ∧
      (∀ compiler request, compilingDevice.compiler = some compiler →
        Source.Of compilingDevice info (.glsl request) →
          (threeGrants.compilers compiler.serial).panicsAt (some .panics) request = false) ∧
      (create compilingDevice info .panics threeGrants).1.isDone = true ∧
      ∃ events left last, Plan.Governs
        { device := compilingDevice, info, verdict := .panics, heap := threeGrants.heap,
          compilers := threeGrants.compilers }
        threeGrants (create compilingDevice info .panics threeGrants).1
        (create compilingDevice info .panics threeGrants).2 events left last := by
  intro info
  have accounts : (threeGrants.allocators 0).Accounts 0 := Allocator.answering_accounts _
  have calm : ∀ compiler request, compilingDevice.compiler = some compiler →
      Source.Of compilingDevice info (.glsl request) →
        (threeGrants.compilers compiler.serial).panicsAt (some .panics) request = false :=
    fun _ _ _ _ => rfl
  refine ⟨accounts, rfl, calm, by decide +kernel, ?_⟩
  exact (creation_is_run_of_machine compilingDevice info .panics threeGrants 0 accounts rfl calm).2

end Shader

end ShaderDriver
