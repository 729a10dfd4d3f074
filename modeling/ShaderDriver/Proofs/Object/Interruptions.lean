import ShaderDriver.Proofs.Object.Judgements

namespace ShaderDriver

open Container Act Log

/-! Panics while the parser of a front end is in use. Every one of them is made up for by a recovery, or
will be by the next call that uses the parser. -/

namespace FrontEnd

/-- Where a panic can strike while the parser is in use. -/
inductive Interruption where
  /-- The logger panics at the entry about a poisoned parser. -/
  | atRecovery
  | inParser
  /-- The logger panics at the entry about a source that the parser refuses. -/
  | atComplaint
deriving DecidableEq, Repr

/-- What the logger does about the flags of a request. -/
def remark (request : Glsl.Request) (logger : Logger) : Bool × Logger :=
  if request.flags ≠ 0 then logger.receive .debug else (false, logger)

/-- What the logger does about the parser being poisoned. -/
def recovery (state : FrontEnd) (logger : Logger) : Bool × Logger :=
  if state.poisoned then logger.receive .warn else (false, logger)

/-- What interrupts the parser at a source once it is in use. -/
def judging? (logger : Logger) : Verdict → Option Interruption
  | .panics => some .inParser
  | .unparsed _ => if (logger.receive .warn).1 then some .atComplaint else none
  | .invalid _ => none
  | .accepted _ => none

/-- What interrupts the parser at a source. -/
def parsing? (state : FrontEnd) (logger : Logger) (verdict : Verdict) : Option Interruption :=
  if (state.recovery logger).1 then some .atRecovery
  else judging? (state.recovery logger).2 verdict

/-- What interrupts the parser in a call. It is not in use when the stage is not supported, nor when
the logger has panicked about the flags. -/
def interruption? (state : FrontEnd) (logger : Logger) (request : Glsl.Request)
    (verdict : Verdict) : Option Interruption :=
  if supports request.stage then
    if (remark request logger).1 then none
    else state.parsing? (remark request logger).2 verdict
  else none

/-- All interruptions of a run of calls. -/
def interruptions (self : CompilerRef) (world : World) : List Call → List Interruption
  | [] => []
  | call :: rest =>
      let later := interruptions self
        (self.createProgram call.base call.request call.verdict world).2 rest
      match world.compilers self.serial with
      | .scripted _ => later
      | .frontEnd state =>
          (state.interruption? world.logger call.request call.verdict).toList ++ later

/-- What the parser does with a source once it is in use. -/
def judge (self : CompilerRef) : Verdict → Act Unit
  | .panics => Act.unwind
  | .unparsed reason => do
      count self fun counts => { counts with parseErrors := counts.parseErrors + 1 }
      Act.note .warn source ("GLSL parse failed: " ++ reason)
  | .invalid _ => pure ()
  | .accepted _ => pure ()

theorem parse_eq (self : CompilerRef) (verdict : Verdict) :
    parse self verdict = usingParser self (recover self >>= fun _ => judge self verdict) := by
  cases verdict <;> rfl

/-- The recoveries, and the one to come if the parser is poisoned. -/
def due (state : FrontEnd) : UInt32 :=
  state.counts.recoveries + if state.poisoned then 1 else 0

end FrontEnd

namespace Act

theorem note_runs (severity : Severity) (source message : String) (world : World) :
    ∃ after, note severity source message world =
        (if (world.logger.receive severity).1 then .unwound else .done (), after) ∧
      after.logger = (world.logger.receive severity).2 ∧ after.compilers = world.compilers := by
  unfold note log
  rcases world.logger.receive severity with ⟨panics, next⟩
  exact ⟨_, rfl, rfl, rfl⟩

end Act

namespace FrontEnd

variable {self : CompilerRef} {state : FrontEnd} {world after : World} {base : Base}
  {request : Glsl.Request} {verdict : Verdict}

/-! What does not use the parser. -/

/-- The parser is as poisoned as before, and was not recovered. -/
def steady (self : CompilerRef) : Frame where
  related world after := ∀ state, world.compilers self.serial = .frontEnd state →
    ∃ later, after.compilers self.serial = .frontEnd later ∧
      later.counts.recoveries = state.counts.recoveries ∧ later.poisoned = state.poisoned
  refl _ state found := ⟨state, found, rfl, rfl⟩
  trans earlier later state found := by
    obtain ⟨middle, known, recoveries, poisoned⟩ := earlier state found
    obtain ⟨last, left, again, still⟩ := later middle known
    exact ⟨last, left, again.trans recoveries, still.trans poisoned⟩

theorem log_steady (record : Record) : (steady self).Holds (log record) :=
  fun _ state found => ⟨state, found, rfl, rfl⟩

theorem change_steady {update : FrontEnd → FrontEnd}
    (same : ∀ state, (update state).counts.recoveries = state.counts.recoveries ∧
      (update state).poisoned = state.poisoned) : (steady self).Holds (change self update) := by
  intro world state found
  obtain ⟨after, changed, left, _⟩ := change_turns found update
  exact ⟨update state, by rw [changed, left], same state⟩

theorem count_steady {update : CompileCounts → CompileCounts}
    (same : ∀ counts, (update counts).recoveries = counts.recoveries) :
    (steady self).Holds (count self update) :=
  change_steady fun state => ⟨same state.counts, rfl⟩

theorem conclude_steady (base : Base) (request : Glsl.Request) (verdict : Verdict) :
    (steady self).Holds (conclude self base request verdict) := by
  cases verdict with
  | panics => exact .pure none
  | unparsed reason => exact .pure none
  | invalid reason =>
      refine .bind (count_steady fun _ => by rfl) fun _ => ?_
      exact .bind (log_steady _) fun _ => .pure none
  | accepted parsed =>
      refine .bind (count_steady fun _ => by rfl) fun _ => ?_
      refine .bind (change_steady fun _ => ⟨rfl, rfl⟩) fun _ => .bind (log_steady _) fun _ => ?_
      exact .bind (fun _ state found => ⟨state, found, rfl, rfl⟩) fun _ => .pure _

/-! The parser in use. -/

section

variable (found : world.compilers self.serial = .frontEnd state)

include found

/-- Whether or not the logger lets the entry pass, a recovery that was due is counted. -/
theorem recover_runs :
    ∃ after later, recover self world =
        (if (state.recovery world.logger).1 then .unwound else .done (), after) ∧
      after.logger = (state.recovery world.logger).2 ∧
      after.compilers self.serial = .frontEnd later ∧ later.counts.recoveries = state.due ∧
      later.poisoned = (state.recovery world.logger).1 := by
  have view : isPoisoned self world = state.poisoned := by
    simp only [isPoisoned, found]
  have ran : recover self world = (if state.poisoned then do
      count self fun counts => { counts with recoveries := counts.recoveries + 1 }
      Act.note .warn source "GLSL front-end lock poisoned, recovering"
      change self fun state => { state with poisoned := false }
    else pure ()) world := by
    simp only [recover, bind_apply, Act.read, view]
  rw [ran]
  unfold recovery due
  cases poisoned : state.poisoned with
  | false => exact ⟨world, state, rfl, rfl, found, (UInt32.add_zero _).symm, poisoned⟩
  | true =>
      obtain ⟨counted, changed, known, kept⟩ := count_turns found fun counts =>
        { counts with recoveries := counts.recoveries + 1 }
      obtain ⟨told, noted, logger, compilers⟩ :=
        note_runs .warn source "GLSL front-end lock poisoned, recovering" counted
      rw [kept] at noted logger
      rw [← compilers] at known
      simp only [if_true]
      rw [bind_done changed]
      cases panics : (world.logger.receive .warn).1 with
      | true =>
          rw [panics] at noted
          exact ⟨told, _, bind_unwound noted, logger, known, rfl, poisoned⟩
      | false =>
          rw [panics] at noted
          obtain ⟨after, cleared, left, same⟩ :=
            change_turns known fun state => { state with poisoned := false }
          exact ⟨after, _, (bind_done noted).trans cleared, same.trans logger, left, rfl, rfl⟩

/-- A panic while the parser is in use leaves it poisoned. -/
theorem usingParser_unwound {act : Act Unit} {start : World}
    (unwound : act start = (.unwound, world)) : ∃ after, usingParser self act start = (.unwound, after) ∧
      after.compilers self.serial = .frontEnd { state with poisoned := true } := by
  obtain ⟨after, changed, left, _⟩ :=
    change_turns found fun state => { state with poisoned := true }
  exact ⟨after, by simp only [usingParser, unwound, changed], left⟩

theorem judge_runs (verdict : Verdict) :
    ∃ after later, judge self verdict world =
        (if (judging? world.logger verdict).isSome then .unwound else .done (), after) ∧
      after.compilers self.serial = .frontEnd later ∧
      later.counts.recoveries = state.counts.recoveries ∧ later.poisoned = state.poisoned := by
  cases verdict with
  | panics => exact ⟨world, state, rfl, found, rfl, rfl⟩
  | invalid reason => exact ⟨world, state, rfl, found, rfl, rfl⟩
  | accepted parsed => exact ⟨world, state, rfl, found, rfl, rfl⟩
  | unparsed reason =>
      obtain ⟨counted, changed, known, kept⟩ := count_turns found fun counts =>
        { counts with parseErrors := counts.parseErrors + 1 }
      obtain ⟨told, noted, _, compilers⟩ :=
        note_runs .warn source ("GLSL parse failed: " ++ reason) counted
      rw [kept] at noted
      rw [← compilers] at known
      refine ⟨told, _, (bind_done changed).trans ?_, known, rfl, rfl⟩
      rw [noted]
      unfold judging?
      cases (world.logger.receive .warn).1 <;> rfl

/-- What is due grows by one with each interruption, and only then. -/
theorem parse_runs (verdict : Verdict) :
    ∃ after later, parse self verdict world =
        (if (state.parsing? world.logger verdict).isSome then .unwound else .done (), after) ∧
      after.compilers self.serial = .frontEnd later ∧
      later.due = state.due + if (state.parsing? world.logger verdict).isSome then 1 else 0 := by
  obtain ⟨middle, recovered, ran, logger, known, recoveries, poisoned⟩ := recover_runs found
  rw [parse_eq]
  unfold parsing?
  cases struck : (state.recovery world.logger).1 with
  | true =>
      rw [struck] at ran
      have unwound : (recover self >>= fun _ => judge self verdict) world = (.unwound, middle) :=
        bind_unwound ran
      obtain ⟨after, ended, left⟩ := usingParser_unwound known unwound
      exact ⟨after, _, ended, left, congrArg (· + 1) recoveries⟩
  | false =>
      -- The parser is in use, and a recovery that was due has been counted.
      rw [struck] at ran poisoned
      obtain ⟨last, judged, ended, left, same, still⟩ := judge_runs known verdict
      rw [logger] at ended
      have whole : (recover self >>= fun _ => judge self verdict) world =
          (if (judging? (state.recovery world.logger).2 verdict).isSome then .unwound else .done (),
            last) := (bind_done ran).trans ended
      simp only [Bool.false_eq_true, if_false]
      cases interrupted : (judging? (state.recovery world.logger).2 verdict).isSome with
      | true =>
          rw [interrupted] at whole
          obtain ⟨after, unwound, poisons⟩ := usingParser_unwound left whole
          exact ⟨after, _, unwound, poisons, congrArg (· + 1) (same.trans recoveries)⟩
      | false =>
          rw [interrupted] at whole
          refine ⟨last, judged, by simp only [usingParser, whole]; rfl, left, ?_⟩
          rw [due, still, poisoned, same, recoveries]

theorem remarkFlags_runs (request : Glsl.Request) :
    ∃ after, remarkFlags request world =
        (if (remark request world.logger).1 then .unwound else .done (), after) ∧
      after.logger = (remark request world.logger).2 ∧
      after.compilers self.serial = .frontEnd state := by
  unfold remarkFlags remark
  split
  · obtain ⟨after, noted, logger, compilers⟩ := note_runs .debug source
      ("Ignoring compile flags " ++ Text.flagWord request.flags.toNat) world
    exact ⟨after, noted, logger, by rw [compilers, found]⟩
  · exact ⟨world, rfl, rfl, found⟩

/-- The parser is interrupted when it is used and does not return. -/
theorem interruption_iff (request : Glsl.Request) (verdict : Verdict) :
    (state.interruption? world.logger request verdict).isSome = true ↔
      supports request.stage = true ∧ ∃ told, remarkFlags request world = (.done (), told) ∧
        (parse self verdict told).1 = .unwound := by
  unfold interruption?
  cases supports request.stage with
  | false => simp
  | true =>
      obtain ⟨told, remarked, logger, known⟩ := remarkFlags_runs found request
      rw [remarked]
      cases panics : (remark request world.logger).1 with
      | true => simp
      | false =>
          obtain ⟨after, later, parsed, _⟩ := parse_runs known verdict
          rw [logger] at parsed
          simp only [if_true, Bool.false_eq_true, if_false, true_and]
          constructor
          · intro struck
            exact ⟨told, rfl, by rw [parsed, struck]; rfl⟩
          · rintro ⟨_, ⟨⟩, unwound⟩
            rw [parsed] at unwound
            cases struck : (state.parsing? (remark request world.logger).2 verdict).isSome with
            | true => rfl
            | false =>
                rw [struck] at unwound
                cases unwound

theorem compile_due (base : Base) (request : Glsl.Request) (verdict : Verdict) :
    (∃ later, (compile self base request verdict world).2.compilers self.serial = .frontEnd later ∧
      later.due = state.due +
        if (state.interruption? world.logger request verdict).isSome then 1 else 0) ∧
    ((state.interruption? world.logger request verdict).isSome = true →
      (compile self base request verdict world).1 = .unwound) := by
  have unchanged {before : FrontEnd} {act : Act (Option Program)} {start : World}
      (keeps : (steady self).Holds act) (known : start.compilers self.serial = .frontEnd before) :
      ∃ later, (act start).2.compilers self.serial = .frontEnd later ∧ later.due = before.due := by
    obtain ⟨later, left, recoveries, poisoned⟩ := keeps start before known
    exact ⟨later, left, by rw [due, recoveries, poisoned, due]⟩
  unfold compile interruption?
  cases supports request.stage with
  | false =>
      have keeps : (steady self).Holds (do
          count self fun counts => { counts with unsupportedStage := counts.unsupportedStage + 1 }
          Act.note .warn source (request.stage.name ++ " shaders are not supported")
          (pure none : Act (Option Program))) :=
        .bind (count_steady fun _ => by rfl) fun _ => .bind (log_steady _) fun _ => .pure none
      obtain ⟨later, left, same⟩ := unchanged keeps found
      exact ⟨⟨later, left, same.trans (UInt32.add_zero _).symm⟩, nofun⟩
  | true =>
      obtain ⟨told, remarked, logger, known⟩ := remarkFlags_runs found request
      simp only [if_true]
      cases panics : (remark request world.logger).1 with
      | true =>
          rw [panics] at remarked
          rw [bind_unwound remarked]
          exact ⟨⟨state, known, (UInt32.add_zero _).symm⟩, nofun⟩
      | false =>
          obtain ⟨after, later, parsed, left, counted⟩ := parse_runs known verdict
          rw [panics] at remarked
          rw [logger] at parsed counted
          rw [bind_done remarked]
          simp only [Bool.false_eq_true, if_false]
          cases struck : (state.parsing? (remark request world.logger).2 verdict).isSome with
          | true =>
              rw [struck] at parsed counted
              rw [bind_unwound parsed]
              exact ⟨⟨later, left, counted⟩, fun _ => rfl⟩
          | false =>
              rw [struck] at parsed counted
              rw [bind_done parsed]
              refine ⟨?_, nofun⟩
              obtain ⟨last, kept, same⟩ := unchanged (conclude_steady base request verdict) left
              exact ⟨last, kept, same.trans counted⟩

theorem createProgram_due (base : Base) (request : Glsl.Request) (verdict : Verdict) :
    (∃ later, (self.createProgram base request verdict world).2.compilers self.serial =
        .frontEnd later ∧
      later.due = state.due +
        if (state.interruption? world.logger request verdict).isSome then 1 else 0) ∧
    ((state.interruption? world.logger request verdict).isSome = true →
      (self.createProgram base request verdict world).1 = .unwound) := by
  let asked : World := { world with trace := world.trace ++ [.compiling self request base] }
  have ran : self.createProgram base request verdict world =
      compile self base request verdict asked := by
    simp only [CompilerRef.createProgram, emit, Act.change, Act.read, bind_apply, found, asked]
  have known : asked.compilers self.serial = .frontEnd state := found
  rw [ran]
  exact compile_due known base request verdict

theorem callAll_due (calls : List Call) :
    ∃ later, (callAll self world calls).2.compilers self.serial = .frontEnd later ∧
      later.due = state.due + UInt32.ofNat (interruptions self world calls).length := by
  induction calls generalizing world state with
  | nil => exact ⟨state, found, (UInt32.add_zero _).symm⟩
  | cons call rest ih =>
      obtain ⟨⟨middle, known, counted⟩, _⟩ :=
        createProgram_due found call.base call.request call.verdict
      obtain ⟨later, left, further⟩ := ih known
      refine ⟨later, left, ?_⟩
      have grown : UInt32.ofNat (state.interruption? world.logger call.request
          call.verdict).toList.length =
          if (state.interruption? world.logger call.request call.verdict).isSome then 1 else 0 := by
        cases state.interruption? world.logger call.request call.verdict <;> rfl
      simp only [interruptions, found]
      rw [further, counted, ← grown, List.length_append, UInt32.ofNat_add, UInt32.add_assoc]

end

/-- After any number of calls to a new front end, and whatever the logger does, the recoveries that were
counted, and one more if the parser is poisoned, are as many as the calls in which the parser was in
use and did not return: because of the parser itself, or because the logger panicked at the entry about
a source that was refused or at the one about the recovery. Such a call unwinds. -/
theorem recoveries_make_up_for_interruptions (self : CompilerRef) (world : World)
    (fresh : world.compilers self.serial = .frontEnd .fresh) (calls : List Call) :
    (∃ state, (callAll self world calls).2.compilers self.serial = .frontEnd state ∧
      state.counts.recoveries + (if state.poisoned then 1 else 0) =
        UInt32.ofNat (interruptions self world calls).length) ∧
    ∀ before state, before.compilers self.serial = .frontEnd state → ∀ base request verdict,
      ((state.interruption? before.logger request verdict).isSome = true ↔
        supports request.stage = true ∧ ∃ told, remarkFlags request before = (.done (), told) ∧
          (parse self verdict told).1 = .unwound) ∧
      ((state.interruption? before.logger request verdict).isSome = true →
        (self.createProgram base request verdict before).1 = .unwound) := by
  constructor
  · obtain ⟨state, left, counted⟩ := callAll_due fresh calls
    exact ⟨state, left, by rw [← due, counted]; exact UInt32.zero_add _⟩
  · intro before state found base request verdict
    exact ⟨interruption_iff found request verdict, (createProgram_due found base request verdict).2⟩

/-- The logger panics at the first two warnings. -/
def twoWarnings : World :=
  { World.initial with
    logger := .capturing [{ severity := some .warn, skip := 0 }, { severity := some .warn, skip := 0 }] }

/-- A complaint, a recovery that fails, a stage that is not supported, a recovery, and a panic of the
parser. -/
def troubledCalls : List Call :=
  [⟨shaderBase, vertexRequest, .unparsed "no"⟩, ⟨shaderBase, vertexRequest, oneFunction⟩,
    ⟨shaderBase, { vertexRequest with stage := .geometry }, oneFunction⟩,
    ⟨shaderBase, vertexRequest, oneFunction⟩, ⟨shaderBase, vertexRequest, .panics⟩]

theorem troubled_calls_are_made_up_for :
    let self : CompilerRef := { serial := 0, label := none }
    interruptions self twoWarnings troubledCalls = [.atComplaint, .atRecovery, .inParser] ∧
      ∃ state, (callAll self twoWarnings troubledCalls).2.compilers 0 = .frontEnd state ∧
        state.counts.recoveries + (if state.poisoned then 1 else 0) = 3 := by
  intro self
  have struck : interruptions self twoWarnings troubledCalls =
      [.atComplaint, .atRecovery, .inParser] := by decide +kernel
  obtain ⟨⟨state, left, counted⟩, _⟩ :=
    recoveries_make_up_for_interruptions self twoWarnings rfl troubledCalls
  exact ⟨struck, state, left, by rw [counted, struck]; rfl⟩

end FrontEnd

end ShaderDriver
