import Mathlib.Algebra.GroupWithZero.Nat
import ShaderDriver.Proofs.Memory.Bookkeeping
import ShaderDriver.Proofs.Object.Enactment

namespace ShaderDriver

open Memory Container Act

/-! A shader takes several grants. With an allocator that keeps an account, one inequality and the
countdown decide whether all of them are given. -/

namespace Memory.Tracker

variable {tracker next last : Tracker} {live : Multiset (Nat × AllocType)} {size : Nat}
  {sizes rest : List Nat}

/-- The most that can be live at one time. -/
def ceiling (tracker : Tracker) : Nat :=
  match tracker.budget with
  | none => addressSpace - 1
  | some budget => min budget (addressSpace - 1)

theorem hasRoom_iff : tracker.hasRoom size = true ↔
    tracker.liveBytes + size ≤ tracker.ceiling := by
  have positive : 0 < addressSpace := by decide
  unfold hasRoom ceiling
  cases tracker.budget with
  | none => simp only [Bool.and_true, decide_eq_true_eq]; omega
  | some budget => simp only [Bool.and_eq_true, decide_eq_true_eq]; omega

/-- There is room for all the sizes together, and no request for one of them is to be refused. -/
structure Affords (tracker : Tracker) (sizes : List Nat) : Prop where
  room : tracker.liveBytes + sizes.sum ≤ tracker.ceiling
  waits : ∀ left, tracker.countdown = some left → sizes.length ≤ left

theorem affords_iff (usable : tracker.poisoned = false) {sizes : List Nat} :
    tracker.Affords sizes ↔ tracker.totalBytes + sizes.sum ≤ tracker.ceiling ∧
      ∀ left, tracker.countdown = some left → sizes.length ≤ left := by
  have bytes : tracker.totalBytes = tracker.liveBytes := by simp [Tracker.totalBytes, usable]
  rw [bytes]
  constructor
  · exact fun affords => ⟨affords.room, affords.waits⟩
  · rintro ⟨room, waits⟩
    exact ⟨room, waits⟩

/-- What is left of an account after grants of these sizes. -/
structure Charged (tracker next : Tracker) (sizes : List Nat) : Prop where
  budget : next.budget = tracker.budget
  liveBytes : next.liveBytes = tracker.liveBytes + sizes.sum
  granted : next.granted = tracker.granted + sizes.length
  countdown : next.countdown = tracker.countdown.map fun left => left - sizes.length

theorem Charged.refl (tracker : Tracker) : tracker.Charged tracker [] where
  budget := rfl
  liveBytes := rfl
  granted := rfl
  countdown := by cases tracker.countdown <;> rfl

/-- An account after one grant, by `alloc_outcome`. -/
def Granted (tracker next : Tracker) (size : Nat) : Prop :=
  next = { tracker with
    usage := next.usage
    liveBytes := tracker.liveBytes + size
    granted := tracker.granted + 1
    countdown := countDown tracker.countdown }

theorem Charged.cons (lets : ¬ tracker.Refuses size) (granted : tracker.Granted next size)
    (later : next.Charged last rest) : tracker.Charged last (size :: rest) where
  budget := by rw [later.budget, granted]
  liveBytes := by
    rw [later.liveBytes, granted, List.sum_cons]
    exact Nat.add_assoc _ _ _
  granted := by
    rw [later.granted, granted, List.length_cons]
    exact Nat.add_right_comm _ _ _
  countdown := by
    rw [later.countdown, granted]
    rcases waits : tracker.countdown with _ | _ | left
    · rfl
    · exact absurd (.inl waits) lets
    · simp only [countDown, Option.bind_some, Nat.add_one_ne_zero, if_false, Option.map_some,
        List.length_cons, Nat.add_sub_cancel, Nat.add_sub_add_right]

theorem refuses_iff : tracker.Refuses size ↔
    tracker.countdown = some 0 ∨ tracker.ceiling < tracker.liveBytes + size := by
  rw [Refuses, ← Bool.not_eq_true, hasRoom_iff, Nat.not_le]

/-- All the grants can be given just if the first can be, and then the others. -/
theorem affords_cons (granted : tracker.Granted next size) :
    tracker.Affords (size :: rest) ↔ ¬ tracker.Refuses size ∧ next.Affords rest := by
  have ceiling : next.ceiling = tracker.ceiling := by rw [granted]; rfl
  have bytes : next.liveBytes = tracker.liveBytes + size := by rw [granted]
  have countdown : next.countdown = countDown tracker.countdown := by rw [granted]
  rw [refuses_iff]
  constructor
  · intro affords
    have room := affords.room
    rw [List.sum_cons] at room
    refine ⟨fun refuses => ?_, ?_, fun left waits => ?_⟩
    · rcases refuses with due | past
      · exact absurd (affords.waits 0 due) (Nat.not_succ_le_zero _)
      · omega
    · omega
    · rw [countdown] at waits
      cases before : tracker.countdown with
      | none => simp [before, countDown] at waits
      | some n =>
          have enough := affords.waits n before
          rw [List.length_cons] at enough
          rw [before, countDown, Option.bind_some, if_neg (by omega), Option.some.injEq] at waits
          omega
  · rintro ⟨lets, later⟩
    have room := later.room
    refine ⟨by rw [List.sum_cons]; omega, fun left waits => ?_⟩
    have due : left ≠ 0 := by
      rintro rfl
      exact lets (.inl waits)
    have enough := later.waits (left - 1) (by
      rw [countdown, waits, countDown, Option.bind_some, if_neg due])
    rw [List.length_cons]
    omega

theorem affords_refused (refuses : tracker.Refuses size) : ¬ tracker.Affords (size :: rest) := by
  intro affords
  have room := affords.room
  rw [List.sum_cons] at room
  rcases refuses_iff.mp refuses with due | past
  · exact absurd (affords.waits 0 due) (Nat.not_succ_le_zero _)
  · omega

theorem granted_affords_nothing (lets : ¬ tracker.Refuses size) (granted : tracker.Granted next size) :
    next.Affords [] := by
  rw [refuses_iff, not_or, Nat.not_lt] at lets
  refine ⟨?_, fun _ _ => Nat.zero_le _⟩
  rw [granted]
  exact lets.2

/-- What is live has had room. -/
theorem Matched.affords_nothing (matched : tracker.Matched live) : tracker.Affords [] := by
  suffices within : tracker.liveBytes ≤ tracker.ceiling from ⟨within, fun _ _ => Nat.zero_le _⟩
  induction matched with
  | new budget => exact Nat.zero_le _
  | @granted tracker next live size type before answer ih =>
      obtain ⟨_, refused⟩ | ⟨lets, last, granted, _, shape⟩ :=
        alloc_outcome before.accounts size type
      · cases answer.symm.trans refused
      · cases answer.symm.trans granted
        exact (granted_affords_nothing lets shape).room
  | @refused tracker next live size type before answer ih =>
      obtain ⟨_, refused⟩ | ⟨_, last, granted, _⟩ := alloc_outcome before.accounts size type
      · cases answer.symm.trans refused
        exact ih
      · cases answer.symm.trans granted
  | @freed tracker live size type before ih =>
      obtain ⟨usage, shape⟩ := free_keeps before.accounts
      rw [shape]
      exact Nat.le_trans (Nat.sub_le _ _) ih
  | @failNth tracker live before n ih =>
      unfold Tracker.failNth
      split
      · exact ih
      · exact ih

end Memory.Tracker

/-- The requests for the form of a shader, in order. -/
def Source.requests : Source → List (Nat × AllocType)
  | .bil code => [(Ir.footprint, .internalShader), (code.payload.length, .internalShader)]
  | .glsl _ => [(Ir.footprint, .internalShader)]

/-- The heap has room for the copies that the form of a shader needs. -/
def Source.InHeap (heap : Heap) : Source → Prop
  | .bil code => heap.hasRoom code.payload.length = true
  | .glsl _ => True

namespace Shader

/-- The requests for a shader, in order. -/
def requests (device : Device) (info : CreateInfo) (source : Source) : List (Nat × AllocType) :=
  (footprint, .apiObject) ::
    ((if device.debug then [(info.code.length, .debug)] else []) ++ source.requests)

/-- The heap has room for the copies that a shader needs. -/
def InHeap (heap : Heap) (device : Device) (info : CreateInfo) (source : Source) : Prop :=
  (device.debug = true → heap.hasRoom info.code.length = true) ∧ source.InHeap heap

namespace Plan

variable {plan : Plan} {source : Source} {phase : Phase} {tracker : Tracker}
  {live : Multiset (Nat × AllocType)} {events : List Event} {last : Allocator × Phase}

/-- The phases on the way to a shader, if its code is accepted and leads to a program. -/
inductive Course (plan : Plan) (source : Source) : Phase → Prop
  | base : Course plan source .base
  | record : Course plan source .record
  | roomForKernel {code : Bil.Module} (same : source = .bil code) : Course plan source (.roomForKernel code)
  | kernel {code : Bil.Module} (same : source = .bil code) : Course plan source (.kernel code)
  | roomForProgram {compiler : CompilerRef} {request : Glsl.Request} {program : Program}
      (answered : plan.answer compiler request = some program) :
      Course plan source (.roomForProgram compiler request)
  | program {compiler : CompilerRef} {request : Glsl.Request} {program : Program}
      (answered : plan.answer compiler request = some program) :
      Course plan source (.program compiler request)
  | formed (ir : Ir) : Course plan source (.formed ir)

/-- The requests that are still to come in a phase. -/
def ahead (plan : Plan) (source : Source) : Phase → List (Nat × AllocType)
  | .base => requests plan.device plan.info source
  | .record => (plan.info.code.length, .debug) :: source.requests
  | .roomForKernel _ => source.requests
  | .kernel code => [(code.payload.length, .internalShader)]
  | .roomForProgram _ _ => [(Ir.footprint, .internalShader)]
  | _ => []

/-- The heap has room for the copies that are still to come. -/
def Roomy (plan : Plan) (source : Source) : Phase → Prop
  | .base => InHeap plan.heap plan.device plan.info source
  | .record => plan.heap.hasRoom plan.info.code.length = true ∧ source.InHeap plan.heap
  | .roomForKernel code => plan.heap.hasRoom code.payload.length = true
  | .kernel code => plan.heap.hasRoom code.payload.length = true
  | _ => True

/-- The code is accepted, and a compile request leads to a program. -/
structure Accepts (plan : Plan) (source : Source) : Prop where
  accepted : plan.source = .ok source
  compiles : ∀ request, source = .glsl request → ∃ compiler program,
    plan.device.compiler = some compiler ∧ plan.answer compiler request = some program

theorem Accepts.read (accepts : plan.Accepts source) :
    plan.Course source plan.read ∧ plan.ahead source plan.read = source.requests ∧
      (plan.Roomy source plan.read ↔ source.InHeap plan.heap) := by
  rw [Plan.read, accepts.accepted]
  cases source with
  | bil code => exact ⟨.roomForKernel rfl, rfl, .rfl⟩
  | glsl request =>
      obtain ⟨compiler, program, found, answered⟩ := accepts.compiles request rfl
      simp only [form, found]
      exact ⟨.roomForProgram answered, rfl, .rfl⟩

/-- A grant leads on, unless the heap has no room for the copy. -/
theorem Course.granted (course : plan.Course source phase) (accepts : plan.Accepts source)
    {demand : Demand} (asks : plan.demand? phase = some demand) :
    ∃ rest, plan.ahead source phase = (demand.size, demand.type) :: rest ∧
      (plan.granted phase = .failed .outOfMemory ∧ ¬ plan.Roomy source phase ∨
        plan.Course source (plan.granted phase) ∧ plan.ahead source (plan.granted phase) = rest ∧
          (plan.Roomy source phase ↔ plan.Roomy source (plan.granted phase))) := by
  obtain ⟨reads, left, room⟩ := accepts.read
  cases course with
  | base =>
      cases asks
      refine ⟨_, rfl, .inr ?_⟩
      simp only [Plan.granted]
      cases debug : plan.device.debug with
      | true => exact ⟨.record, by simp [ahead], by simp [Roomy, InHeap, debug]⟩
      | false =>
          simp only [Bool.false_eq_true, if_false]
          exact ⟨reads, left, by rw [room]; simp [Roomy, InHeap, debug]⟩
  | record =>
      cases asks
      refine ⟨_, rfl, ?_⟩
      simp only [Plan.granted, copied]
      by_cases fits : plan.heap.hasRoom plan.info.code.length = true
      · rw [if_pos fits]
        exact .inr ⟨reads, left, by rw [room]; simp [Roomy, fits]⟩
      · rw [if_neg fits]
        exact .inl ⟨rfl, fun roomy => fits roomy.1⟩
  | roomForKernel same =>
      cases asks
      subst same
      exact ⟨_, rfl, .inr ⟨.kernel rfl, rfl, .rfl⟩⟩
  | @kernel code same =>
      cases asks
      refine ⟨_, rfl, ?_⟩
      simp only [Plan.granted, copied]
      by_cases fits : plan.heap.hasRoom code.payload.length = true
      · rw [if_pos fits]
        exact .inr ⟨.formed _, rfl, by simp [Roomy, fits]⟩
      · rw [if_neg fits]
        exact .inl ⟨rfl, fits⟩
  | roomForProgram answered =>
      cases asks
      exact ⟨_, rfl, .inr ⟨.program answered, rfl, .rfl⟩⟩
  | program answered => cases asks
  | formed ir => cases asks

theorem Runs.stopped {state : Allocator × Phase} (runs : plan.Runs state events last)
    (stops : state.2.isLast = true) : last = state := by
  cases runs with
  | rest => rfl
  | step first => cases (step_last stops).symm.trans first

/-- How a run ends that begins on the way to a shader: all requests that were still to come are granted,
or one was too many. -/
inductive Pays (plan : Plan) (source : Source) (tracker : Tracker) (live : Multiset (Nat × AllocType))
    (phase : Phase) : Allocator × Phase → Prop
  | formed {ir : Ir} {next : Tracker}
      (affords : tracker.Affords ((plan.ahead source phase).map Prod.fst))
      (roomy : plan.Roomy source phase)
      (charged : tracker.Charged next ((plan.ahead source phase).map Prod.fst))
      (accounts : next.Accounts (↑(plan.ahead source phase) + live)) :
      Pays plan source tracker live phase (.tracking next, .formed ir)
  | failed {left : Allocator}
      (unpaid : ¬ (tracker.Affords ((plan.ahead source phase).map Prod.fst) ∧
        plan.Roomy source phase)) :
      Pays plan source tracker live phase (left, .failed .outOfMemory)

theorem Pays.of_formed {left : Allocator} {ir : Ir}
    (pays : plan.Pays source tracker live phase (left, .formed ir)) :
    ∃ next, left = .tracking next ∧ tracker.Affords ((plan.ahead source phase).map Prod.fst) ∧
      plan.Roomy source phase ∧ tracker.Charged next ((plan.ahead source phase).map Prod.fst) ∧
      next.Accounts (↑(plan.ahead source phase) + live) := by
  cases pays with
  | formed affords roomy charged accounts => exact ⟨_, rfl, affords, roomy, charged, accounts⟩

theorem Pays.of_failed {left : Allocator} {error : Error}
    (pays : plan.Pays source tracker live phase (left, .failed error)) :
    error = .outOfMemory ∧ ¬ (tracker.Affords ((plan.ahead source phase).map Prod.fst) ∧
      plan.Roomy source phase) := by
  cases pays with
  | failed unpaid => exact ⟨rfl, unpaid⟩

theorem Runs.pays {state : Allocator × Phase} (runs : plan.Runs state events last)
    (begins : state = (.tracking tracker, phase)) (ends : last.2.isLast = true)
    (accepts : plan.Accepts source) (course : plan.Course source phase)
    (accounts : tracker.Accounts live) (within : tracker.Affords []) :
    plan.Pays source tracker live phase last := by
  induction runs generalizing tracker live phase with
  | rest state =>
      subst begins
      cases course with
      | formed ir => exact .formed within trivial (.refl tracker) (by simpa [ahead] using accounts)
      | _ => cases ends
  | step first later ih =>
      subst begins
      rcases step_cases first with ⟨demand, left, asks, answered⟩ | ⟨compiler, request, rfl, rfl, rfl⟩
      · obtain ⟨rest, requests, leads⟩ := course.granted accepts asks
        have sizes : (plan.ahead source phase).map Prod.fst = demand.size :: rest.map Prod.fst := by
          rw [requests, List.map_cons]
        obtain ⟨refuses, refused⟩ | ⟨lets, next, granted, listed, shape⟩ :=
          Tracker.alloc_outcome accounts demand.size demand.type
        · have answer : (Allocator.tracking tracker).alloc demand.size demand.type =
              (.refused, .tracking { tracker with countdown := countDown tracker.countdown }) := by
            simp only [Allocator.alloc, refused]
          obtain ⟨reply, _, _⟩ | ⟨_, _, rfl⟩ := answered
          · cases answer.symm.trans reply
          · rw [later.stopped rfl]
            have short : ¬ tracker.Affords (demand.size :: rest.map Prod.fst) :=
              Tracker.affords_refused refuses
            rw [← sizes] at short
            exact .failed fun paid => short paid.1
        · have answer : (Allocator.tracking tracker).alloc demand.size demand.type =
              (.granted, .tracking next) := by
            simp only [Allocator.alloc, granted]
          have cons : tracker.Affords (demand.size :: rest.map Prod.fst) ↔
              ¬ tracker.Refuses demand.size ∧ next.Affords (rest.map Prod.fst) :=
            Tracker.affords_cons shape
          obtain ⟨reply, _, rfl⟩ | ⟨reply, _, _⟩ := answered
          · cases answer.symm.trans reply
            rcases leads with ⟨full, crowded⟩ | ⟨following, left, room⟩
            · rw [full] at later
              rw [later.stopped rfl]
              exact .failed fun paid => crowded paid.2
            · have paid := ih rfl ends following listed (Tracker.granted_affords_nothing lets shape)
              cases paid with
              | formed affords roomy charged accounts =>
                  rw [left] at affords charged accounts
                  refine .formed ?_ (room.mpr roomy) ?_ ?_
                  · rw [sizes]
                    exact cons.mpr ⟨lets, affords⟩
                  · rw [sizes]
                    exact charged.cons lets shape
                  · rw [requests, ← Multiset.cons_coe, Multiset.cons_add, ← Multiset.add_cons]
                    exact accounts
              | failed unpaid =>
                  rw [left] at unpaid
                  refine .failed fun paid => unpaid ⟨?_, room.mp paid.2⟩
                  rw [sizes] at paid
                  exact (cons.mp paid.1).2
          · cases answer.symm.trans reply
      · cases course with
        | program answered =>
            rw [answered] at later ih
            have paid := ih rfl ends (.formed _) accounts within
            cases paid with
            | formed affords roomy charged listed => exact .formed affords roomy charged listed
            | failed unpaid => exact .failed unpaid

end Plan

/-- What comes of a creation, if the allocator keeps an account. -/
structure Bill (before after : Tracker) (sizes : List Nat) : Prop where
  bytes : after.totalBytes = before.totalBytes + sizes.sum
  granted : after.totalGranted = before.totalGranted + sizes.length
  live : after.liveCount = before.liveCount + sizes.length
  countdown : after.countdown = before.countdown.map fun left => left - sizes.length

/-- The account lists the same as before. -/
structure Restored (before after : Tracker) : Prop where
  usage : after.liveUsage = before.liveUsage
  bytes : after.totalBytes = before.totalBytes
  live : after.liveCount = before.liveCount

end Shader

namespace Memory.Tracker

variable {tracker next : Tracker} {live : Multiset (Nat × AllocType)}
  {requests : List (Nat × AllocType)}

theorem Charged.bill (charged : tracker.Charged next (requests.map Prod.fst))
    (before : tracker.Accounts live) (after : next.Accounts (↑requests + live)) :
    Shader.Bill tracker next (requests.map Prod.fst) where
  bytes := by
    simp only [totalBytes, before.usable, after.usable, Bool.false_eq_true, if_false]
    exact charged.liveBytes
  granted := by
    simp only [totalGranted, before.usable, after.usable, Bool.false_eq_true, if_false]
    exact charged.granted
  live := by
    rw [after.liveCount, before.liveCount, Multiset.card_add, Multiset.coe_card, List.length_map]
    exact Nat.add_comm _ _
  countdown := charged.countdown

theorem restored_of_accounts (before : tracker.Accounts live) (after : next.Accounts live) :
    Shader.Restored tracker next where
  usage := by
    funext type
    rw [after.liveUsage, before.liveUsage]
  bytes := by rw [after.totalBytes, before.totalBytes]
  live := by rw [after.liveCount, before.liveCount]

end Memory.Tracker

theorem Compiler.calm_of_program {compiler : Compiler} {self : CompilerRef} {request : Glsl.Request}
    {verdict : Verdict} {program : Program}
    (answered : compiler.program? self request verdict = some program) :
    compiler.panicsAt (some verdict) request = false := by
  cases compiler with
  | scripted state =>
      rw [← Bool.not_eq_true]
      intro panics
      have mode : state.mode = .panics := by simpa [Compiler.panicsAt] using panics
      simp [Compiler.program?, ScriptedCompiler.answer?, mode] at answered
  | frontEnd state =>
      cases verdict with
      | panics =>
          cases supported : FrontEnd.supports request.stage <;>
            simp [program?, supported] at answered
      | _ => simp [Compiler.panicsAt]

theorem Source.Of.unique {device : Device} {info : CreateInfo} {first second : Source}
    (one : Source.Of device info first) (other : Source.Of device info second) : first = second := by
  cases first with
  | bil code =>
      cases second with
      | bil same => exact congrArg Source.bil (Except.ok.inj (one.2.symm.trans other.2))
      | glsl request => exact absurd other.1 one.1
  | glsl request =>
      cases second with
      | bil code => exact absurd one.1 other.1
      | glsl same => exact congrArg Source.glsl (Except.ok.inj (one.2.symm.trans other.2))

namespace Shader

/-- A compiler that makes a program of the code does not panic at it. -/
theorem Plan.Accepts.calm {plan : Plan} {source : Source} (accepts : plan.Accepts source) :
    plan.Calm := by
  intro compiler request found asked
  obtain ⟨other, program, same, answered⟩ :=
    accepts.compiles request (asked.unique (source_eq_ok.mp accepts.accepted)).symm
  cases found.symm.trans same
  exact Compiler.calm_of_program answered

variable {device : Device} {info : CreateInfo} {verdict : Verdict} {world : World} {tracker : Tracker}
  {live : Multiset (Nat × AllocType)} {source : Source}

/-- A shader whose code is accepted is made just if all that it takes is granted, by the allocator
and by the heap. -/
theorem creation_follows_grants (keeps : world.allocators device.allocator.serial = .tracking tracker)
    (matched : tracker.Matched live) (faultless : world.logger.faultless = true)
    (accepts : Plan.Accepts
      { device, info, verdict, heap := world.heap, compilers := world.compilers } source) :
    let sizes := (requests device info source).map Prod.fst
    let granted := tracker.Affords sizes ∧ InHeap world.heap device info source
    ∃ next, (create device info verdict world).2.allocators device.allocator.serial = .tracking next ∧
      ((∃ shader, (create device info verdict world).1 = .done shader) ↔ granted) ∧
      (granted → Bill tracker next sizes) ∧
      (¬ granted → (create device info verdict world).1 = .failed .outOfMemory ∧
        Restored tracker next) := by
  intro sizes granted
  let plan : Plan := { device, info, verdict, heap := world.heap, compilers := world.compilers }
  have accounts : (plan.allocatorIn world).Accounts live := by
    rw [Plan.allocatorIn, keeps]
    exact Allocator.tracking_accounts.mpr matched.accounts
  have begins : (plan.allocatorIn world, Phase.base) = (.tracking tracker, .base) := by
    rw [Plan.allocatorIn, keeps]
  have enacts := Plan.enacts_shader accepts.calm ⟨rfl, faultless, accounts, fun _ => rfl⟩
  have kept := ((create_moves device info verdict).retains world).accounts _ tracker keeps
  change plan.Enacts live world .base _ _ (create device info verdict world) at enacts
  generalize create device info verdict world = ran at enacts kept ⊢
  obtain ⟨next, left⟩ := kept
  refine ⟨next, left, ?_⟩
  cases enacts with
  | @done shader after events runs _ last =>
      obtain ⟨paid, same, affords, roomy, charged, listed⟩ :=
        (runs.pays begins rfl accepts .base matched.accounts matched.affords_nothing).of_formed
      obtain rfl : next = paid := by
        rw [Plan.allocatorIn, left] at same
        exact Allocator.tracking.inj same
      refine ⟨⟨fun _ => ⟨affords, roomy⟩, fun _ => ⟨shader, rfl⟩⟩, fun _ => ?_,
        fun unpaid => absurd ⟨affords, roomy⟩ unpaid⟩
      exact charged.bill matched.accounts listed
  | @failed error after events allocator runs _ last =>
      obtain ⟨rfl, unpaid⟩ :=
        (runs.pays begins rfl accepts .base matched.accounts matched.affords_nothing).of_failed
      refine ⟨⟨?_, fun paid => absurd paid unpaid⟩, fun paid => absurd paid unpaid,
        fun _ => ⟨rfl, Tracker.restored_of_accounts matched.accounts (last.accounts next left)⟩⟩
      rintro ⟨shader, impossible⟩
      cases impossible

/-- On a heap with room for its copies, a shader whose code is accepted can be made just if there is
room for the whole of it and no request for a part of it is to be refused. -/
theorem creation_succeeds_iff_affordable (device : Device) (info : CreateInfo) (verdict : Verdict)
    (world : World) (tracker : Tracker) (live : Multiset (Nat × AllocType)) (source : Source)
    (keeps : world.allocators device.allocator.serial = .tracking tracker)
    (matched : tracker.Matched live) (faultless : world.logger.faultless = true)
    (accepted : Source.Of device info source)
    (compiles : ∀ request, source = .glsl request → ∃ compiler program,
      device.compiler = some compiler ∧
        (world.compilers compiler.serial).program? compiler request verdict = some program)
    (roomy : InHeap world.heap device info source) :
    let sizes := (requests device info source).map Prod.fst
    let payable := tracker.totalBytes + sizes.sum ≤ tracker.ceiling ∧
      ∀ left, tracker.countdown = some left → sizes.length ≤ left
    ∃ next, (create device info verdict world).2.allocators device.allocator.serial = .tracking next ∧
      ((∃ shader, (create device info verdict world).1 = .done shader) ↔ payable) ∧
      (payable → Bill tracker next sizes) ∧
      (¬ payable → (create device info verdict world).1 = .failed .outOfMemory ∧
        Restored tracker next) := by
  intro sizes payable
  have granted : payable ↔ tracker.Affords sizes ∧ InHeap world.heap device info source := by
    rw [Tracker.affords_iff matched.accounts.usable, and_iff_left roomy]
  rw [granted]
  exact creation_follows_grants keeps matched faultless ⟨Plan.source_eq_ok.mpr accepted, compiles⟩

def withTracker (tracker : Tracker) : World :=
  { World.initial with allocators := fun _ => .tracking tracker }

/-- A shader with an empty kernel takes four grants and 308 bytes, and fails if one grant fewer is let
through. -/
theorem empty_kernel_takes_a_grant :
    let info := CreateInfo.bil (Bil.Header.current 7).toBytes
    let source := Source.bil { header := Bil.Header.current 7, payload := [] }
    let four := (Tracker.withBudget (some 308)).failNth 4
    let three := (Tracker.withBudget (some 308)).failNth 3
    four.Matched 0 ∧ three.Matched 0 ∧ Source.Of compilingDevice info source ∧
      InHeap .standard compilingDevice info source ∧
      (∃ next, (create compilingDevice info .panics (withTracker four)).2.allocators 0 =
          .tracking next ∧
        (∃ shader, (create compilingDevice info .panics (withTracker four)).1 = .done shader) ∧
        Bill four next [200, 12, 96, 0]) ∧
      (create compilingDevice info .panics (withTracker three)).1 = .failed .outOfMemory := by
  intro info source four three
  have enough : four.Matched 0 := .failNth (.new (some 308)) 4
  have fewer : three.Matched 0 := .failNth (.new (some 308)) 3
  have accepted : Source.Of compilingDevice info source :=
    ⟨by decide, Bil.Module.decode_eq_ok.mpr ⟨rfl, rfl⟩⟩
  have sizes : (requests compilingDevice info source).map Prod.fst = [200, 12, 96, 0] := rfl
  have roomy : InHeap .standard compilingDevice info source := ⟨fun _ => rfl, rfl⟩
  obtain ⟨next, left, succeeds, bill, _⟩ := creation_succeeds_iff_affordable compilingDevice info
    .panics (withTracker four) four 0 source rfl enough rfl accepted nofun roomy
  obtain ⟨_, _, _, _, refused⟩ := creation_succeeds_iff_affordable compilingDevice info
    .panics (withTracker three) three 0 source rfl fewer rfl accepted nofun roomy
  rw [sizes] at succeeds bill refused
  have payable : four.totalBytes + [200, 12, 96, 0].sum ≤ four.ceiling ∧
      ∀ left, four.countdown = some left → [200, 12, 96, 0].length ≤ left := by
    refine ⟨by decide, ?_⟩
    rintro left ⟨rfl⟩
    decide
  refine ⟨enough, fewer, accepted, roomy, ⟨next, left, succeeds.mpr payable, bill payable⟩, ?_⟩
  exact (refused fun ⟨_, waits⟩ => absurd (waits 3 rfl) (by decide)).1

end Shader

end ShaderDriver
