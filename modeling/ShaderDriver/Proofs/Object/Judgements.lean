import ShaderDriver.Proofs.Object.Answers
import ShaderDriver.Proofs.Object.Programs
import ShaderDriver.Proofs.Object.Reversion

namespace ShaderDriver

open Container Act

/-! What a front end answers and counts, call after call, when the logger does not panic: the stage of
a request and the verdict on its source decide, and nothing that happened before. -/

namespace ParsedModule

/-- The name belongs to the first entry point of a stage, or is the usual one if there is none. -/
def StartsAt (parsed : ParsedModule) (stage : Stage) (name : String) : Prop :=
  (∃ before after, parsed.entryPoints = before ++ (stage, name) :: after ∧
    ∀ entry ∈ before, entry.1 ≠ stage) ∨
  (∀ entry ∈ parsed.entryPoints, entry.1 ≠ stage) ∧ name = "main"

theorem startsAt_entryPoint (parsed : ParsedModule) (stage : Stage) :
    parsed.StartsAt stage (parsed.entryPoint stage) := by
  unfold entryPoint
  cases found : parsed.entryPoints.find? (fun entry => entry.1 = stage) with
  | none =>
      refine .inr ⟨fun entry member => ?_, rfl⟩
      simpa using List.find?_eq_none.mp found entry member
  | some entry =>
      obtain ⟨same, before, after, whole, earlier⟩ := List.find?_eq_some_iff_append.mp found
      have named : entry = (stage, entry.2) := Prod.ext (of_decide_eq_true same) rfl
      refine .inl ⟨before, after, by rw [whole, ← named], fun other member => ?_⟩
      simpa using earlier other member

end ParsedModule

/-- What a call comes to that returns. -/
inductive Fate where
  | unsupportedStage
  | parseError
  | validationError
  | compiled
deriving DecidableEq

/-- The first fate that applies, if the parser does not panic. -/
def Fate.of? (request : Glsl.Request) (verdict : Verdict) : Option Fate :=
  if FrontEnd.supports request.stage then
    match verdict with
    | .panics => none
    | .unparsed _ => some .parseError
    | .invalid _ => some .validationError
    | .accepted _ => some .compiled
  else some .unsupportedStage

namespace CompileCounts

/-- The calls with one fate. -/
def of (counts : CompileCounts) : Fate → UInt32
  | .unsupportedStage => counts.unsupportedStage
  | .parseError => counts.parseErrors
  | .validationError => counts.validationErrors
  | .compiled => counts.compiled

/-- The calls that returned, in all. -/
def ended (counts : CompileCounts) : UInt32 :=
  counts.unsupportedStage + counts.parseErrors + counts.validationErrors + counts.compiled

/-- One call more, counted once by the first thing that was wrong, or as compiled. A panic is not
counted. -/
def judged (counts : CompileCounts) : Bool → Verdict → CompileCounts
  | false, _ => { counts with unsupportedStage := counts.unsupportedStage + 1 }
  | true, .panics => counts
  | true, .unparsed _ => { counts with parseErrors := counts.parseErrors + 1 }
  | true, .invalid _ => { counts with validationErrors := counts.validationErrors + 1 }
  | true, .accepted _ => { counts with compiled := counts.compiled + 1 }

end CompileCounts

namespace FrontEnd

/-- The front end with its parser in use again. -/
def recovered (state : FrontEnd) : FrontEnd :=
  if state.poisoned then
    { state with
      counts := { state.counts with recoveries := state.counts.recoveries + 1 }
      poisoned := false }
  else state

/-- The front end after a call, however it was left by the calls before. -/
def afterCall (state : FrontEnd) (request : Glsl.Request) (verdict : Verdict) : FrontEnd :=
  if supports request.stage then
    { counts := state.recovered.counts.judged true verdict
      live := match verdict with
        | .accepted _ => state.live + 1
        | _ => state.live
      poisoned := verdict == .panics }
  else { state with counts := state.counts.judged false verdict }

/-- How a call ends. -/
def ending (self : CompilerRef) (request : Glsl.Request) (verdict : Verdict) : Exit (Option Program) :=
  if supports request.stage && verdict == .panics then .unwound
  else .done ((Compiler.frontEnd .fresh).program? self request verdict)

/-- What is asked of a front end, with the verdict on the source. -/
structure Call where
  base : Base
  request : Glsl.Request
  verdict : Verdict

/-- One call after the other. -/
def callAll (self : CompilerRef) (world : World) :
    List Call → List (Exit (Option Program)) × World
  | [] => ([], world)
  | call :: rest =>
      let (exit, after) := self.createProgram call.base call.request call.verdict world
      let (exits, last) := callAll self after rest
      (exit :: exits, last)

end FrontEnd

/-- The parser and the validator: their verdict on a source text of a stage, after all the texts that
the same front end was given before. -/
abbrev Parser : Type := List (Stage × String) → Stage × String → Verdict

namespace Parser

/-- The parser does with a text what it would do as if it were new. -/
def Reusable (parser : Parser) : Prop :=
  ∀ earlier text, parser earlier text = parser [] text

/-- The calls for some requests. A text of a stage that is not supported is not given to the
parser. -/
def calls (parser : Parser) (earlier : List (Stage × String)) :
    List (Base × Glsl.Request) → List FrontEnd.Call
  | [] => []
  | (base, request) :: rest =>
      { base, request, verdict := parser earlier (request.stage, request.source) } ::
        parser.calls
          (if FrontEnd.supports request.stage then earlier ++ [(request.stage, request.source)]
            else earlier) rest

end Parser

/-! One call. -/

namespace Act

variable {α β : Type} {act : Act α} {next : α → Act β} {self : CompilerRef} {world : World}
  {exit : Exit β} {later middle : FrontEnd}

/-- The action ends like this and leaves the front end like this, and the logger does not notice. -/
def Turns (act : Act α) (self : CompilerRef) (world : World) (exit : Exit α) (later : FrontEnd) :
    Prop :=
  ∃ after, act world = (exit, after) ∧ after.compilers self.serial = .frontEnd later ∧
    after.logger = world.logger

theorem Turns.bind {value : α} (first : act.Turns self world (.done value) middle)
    (second : ∀ after, after.compilers self.serial = .frontEnd middle → after.logger = world.logger →
      (next value).Turns self after exit later) :
    (act >>= next).Turns self world exit later := by
  obtain ⟨between, done, found, logger⟩ := first
  obtain ⟨after, ended, left, kept⟩ := second between found logger
  exact ⟨after, (bind_done done).trans ended, left, kept.trans logger⟩

theorem Turns.bind_unwound (first : act.Turns self world .unwound later) :
    (act >>= next).Turns self world .unwound later := by
  obtain ⟨after, unwound, left, kept⟩ := first
  exact ⟨after, Act.bind_unwound unwound, left, kept⟩

end Act

namespace FrontEnd

variable {self : CompilerRef} {state : FrontEnd} {world : World} {base : Base}
  {request : Glsl.Request} {verdict : Verdict}

section

variable (found : world.compilers self.serial = .frontEnd state)

include found

theorem pure_turns {α : Type} (value : α) :
    (Pure.pure value : Act α).Turns self world (.done value) state :=
  ⟨world, rfl, found, rfl⟩

theorem change_turns (update : FrontEnd → FrontEnd) :
    (change self update).Turns self world (.done ()) (update state) := by
  refine ⟨{ world with compilers := world.compilers.set self.serial (.frontEnd (update state)) },
    ?_, Cells.set_self _ _ _, rfl⟩
  simp only [change, Act.change, found]

theorem count_turns (update : CompileCounts → CompileCounts) :
    (count self update).Turns self world (.done ()) { state with counts := update state.counts } :=
  change_turns found _

omit found in
theorem usingParser_turns {α : Type} {act : Act α} {value : α} {later : FrontEnd}
    (turns : act.Turns self world (.done value) later) :
    (usingParser self act).Turns self world (.done value) later := by
  obtain ⟨after, done, left, kept⟩ := turns
  exact ⟨after, by simp only [usingParser, done], left, kept⟩

theorem note_turns (faultless : world.logger.faultless = true) (severity : Log.Severity)
    (source message : String) :
    (Act.note severity source message).Turns self world (.done ()) state := by
  obtain ⟨after, told, silent, compilers⟩ := note_silent faultless severity source message
  exact ⟨after, told, by rw [compilers, found], silent.logger⟩

end

theorem recovered_poisoned (state : FrontEnd) : state.recovered.poisoned = false := by
  unfold recovered
  cases poisoned : state.poisoned <;> simp [poisoned]

theorem recovered_live (state : FrontEnd) : state.recovered.live = state.live := by
  unfold recovered
  split <;> rfl

section

variable (found : world.compilers self.serial = .frontEnd state)
  (faultless : world.logger.faultless = true)

include found faultless

theorem recover_turns : (recover self).Turns self world (.done ()) state.recovered := by
  have view : isPoisoned self world = state.poisoned := by
    simp only [isPoisoned, found]
  have asked : (Act.read (isPoisoned self)).Turns self world (.done state.poisoned) state :=
    ⟨world, by simp only [Act.read, view], found, rfl⟩
  refine asked.bind fun after known kept => ?_
  rw [← kept] at faultless
  unfold recovered
  split
  · refine (change_turns known _).bind fun counted known kept => ?_
    rw [← kept] at faultless
    exact (note_turns known faultless _ _ _).bind fun told known _ => change_turns known _
  · exact pure_turns known ()

/-- What the parser leaves of the front end if it does not panic. -/
theorem parse_turns (calm : verdict ≠ .panics) :
    (parse self verdict).Turns self world (.done ())
      (match verdict with
        | .unparsed _ =>
            { state.recovered with counts := state.recovered.counts.judged true verdict }
        | _ => state.recovered) := by
  refine usingParser_turns ((recover_turns found faultless).bind fun after known kept => ?_)
  rw [← kept] at faultless
  cases verdict with
  | panics => exact absurd rfl calm
  | invalid reason => exact pure_turns known ()
  | accepted parsed => exact pure_turns known ()
  | unparsed reason =>
      refine (change_turns known _).bind fun counted known kept => ?_
      rw [← kept] at faultless
      exact note_turns known faultless _ _ _

theorem parse_panics_turns :
    (parse self .panics).Turns self world .unwound { state.recovered with poisoned := true } := by
  obtain ⟨after, done, known, kept⟩ := recover_turns found faultless
  have ran : (recover self >>= fun _ => (Act.unwind : Act Unit)) world = (.unwound, after) :=
    bind_done done
  obtain ⟨last, changed, poisoned, same⟩ :=
    change_turns known fun state => { state with poisoned := true }
  refine ⟨last, ?_, poisoned, same.trans kept⟩
  simp only [parse, usingParser, ran, changed]

theorem remarkFlags_turns : (remarkFlags request).Turns self world (.done ()) state := by
  unfold remarkFlags
  split
  · exact note_turns found faultless _ _ _
  · exact pure_turns found ()

theorem conclude_turns (base : Base) (request : Glsl.Request) (calm : verdict ≠ .panics) :
    (conclude self base request verdict).Turns self world
      (.done (match verdict with
        | .accepted parsed => some
            { stage := request.stage
              entryPoint := parsed.entryPoint request.stage
              compiler := self }
        | _ => none))
      (match verdict with
        | .invalid _ => { state with counts := state.counts.judged true verdict }
        | .accepted _ => state.made
        | _ => state) := by
  cases verdict with
  | panics => exact absurd rfl calm
  | unparsed reason => exact pure_turns found none
  | invalid reason =>
      refine (change_turns found _).bind fun counted known kept => ?_
      rw [← kept] at faultless
      exact (note_turns known faultless _ _ _).bind fun told known _ => pure_turns known none
  | accepted parsed =>
      have concluded := conclude_accepted found base request parsed
      rw [Log.Logger.receive_faultless faultless] at concluded
      exact ⟨_, concluded, Cells.set_self _ _ _, rfl⟩

theorem compile_turns (base : Base) (request : Glsl.Request) (verdict : Verdict) :
    (compile self base request verdict).Turns self world (ending self request verdict)
      (state.afterCall request verdict) := by
  unfold compile ending afterCall Compiler.program?
  cases supported : supports request.stage with
  | false =>
      refine (change_turns found _).bind fun counted known kept => ?_
      rw [← kept] at faultless
      exact (note_turns known faultless _ _ _).bind fun told known _ => pure_turns known none
  | true =>
      simp only [if_true]
      refine (remarkFlags_turns found faultless).bind fun told known kept => ?_
      rw [← kept] at faultless
      by_cases panics : verdict = .panics
      · subst panics
        have left : FrontEnd.mk (state.recovered.counts.judged true .panics) state.live true =
            { state.recovered with poisoned := true } := by
          rw [← state.recovered_live]
          rfl
        simp only [Bool.true_and, beq_self_eq_true, if_true, left]
        exact (parse_panics_turns known faultless).bind_unwound
      · have calm : (verdict == .panics) = false := beq_eq_false_iff_ne.mpr panics
        simp only [calm, Bool.true_and, Bool.false_eq_true, if_false]
        refine (parse_turns known faultless panics).bind fun parsed known kept => ?_
        rw [← kept] at faultless
        have concluded := conclude_turns known faultless base request panics
        rw [← state.recovered_live, ← state.recovered_poisoned]
        cases verdict with
        | panics => exact absurd rfl panics
        | unparsed reason => exact concluded
        | invalid reason => exact concluded
        | accepted parsed => exact concluded

/-- The stage and the verdict decide how a call ends, and the front end is left accordingly. -/
theorem createProgram_turns (base : Base) (request : Glsl.Request) (verdict : Verdict) :
    (self.createProgram base request verdict).Turns self world (ending self request verdict)
      (state.afterCall request verdict) := by
  let asked : World := { world with trace := world.trace ++ [.compiling self request base] }
  have ran : self.createProgram base request verdict world =
      compile self base request verdict asked := by
    simp only [CompilerRef.createProgram, emit, Act.change, Act.read, bind_apply, found, asked]
  have known : asked.compilers self.serial = .frontEnd state := found
  obtain ⟨after, ended, left, kept⟩ := compile_turns known faultless base request verdict
  exact ⟨after, ran.trans ended, left, kept⟩

/-- A run of calls ends call by call as the requests and the verdicts say. -/
theorem callAll_turns (calls : List Call) :
    ∃ after, callAll self world calls =
        (calls.map fun call => ending self call.request call.verdict, after) ∧
      after.compilers self.serial = .frontEnd
        (calls.foldl (fun state call => state.afterCall call.request call.verdict) state) ∧
      after.logger = world.logger := by
  induction calls generalizing world state with
  | nil => exact ⟨world, rfl, found, rfl⟩
  | cons call rest ih =>
      obtain ⟨middle, ended, known, kept⟩ :=
        createProgram_turns found faultless call.base call.request call.verdict
      rw [← kept] at faultless
      obtain ⟨after, ran, left, same⟩ := ih known faultless
      refine ⟨after, ?_, left, same.trans kept⟩
      simp only [callAll, ended, ran, List.map_cons]

end

/-! What is counted, and what the endings say. -/

theorem supports_iff (stage : Stage) :
    supports stage = true ↔ stage = .vertex ∨ stage = .fragment ∨ stage = .compute := by
  cases stage <;> simp [supports]

theorem recovered_of (state : FrontEnd) (fate : Fate) :
    state.recovered.counts.of fate = state.counts.of fate := by
  unfold recovered
  split <;> cases fate <;> rfl

theorem afterCall_of (state : FrontEnd) (request : Glsl.Request) (verdict : Verdict) (fate : Fate) :
    (state.afterCall request verdict).counts.of fate =
      state.counts.of fate + if Fate.of? request verdict = some fate then 1 else 0 := by
  rw [← state.recovered_of fate]
  unfold afterCall Fate.of?
  cases supports request.stage with
  | false =>
      rw [state.recovered_of fate]
      cases fate <;> simp [CompileCounts.judged, CompileCounts.of]
  | true => cases verdict <;> cases fate <;> simp [CompileCounts.judged, CompileCounts.of]

theorem ending_isDone (self : CompilerRef) (request : Glsl.Request) (verdict : Verdict) :
    (ending self request verdict).isDone = (Fate.of? request verdict).isSome := by
  unfold ending Fate.of?
  cases supports request.stage <;> cases verdict <;> rfl

/-- A call is counted once if it returns, and else not at all. -/
theorem afterCall_ended (state : FrontEnd) (self : CompilerRef) (request : Glsl.Request)
    (verdict : Verdict) :
    (state.afterCall request verdict).counts.ended =
      state.counts.ended + UInt32.ofNat (ending self request verdict).isDone.toNat := by
  have sum (counts : CompileCounts) : counts.ended =
      counts.of .unsupportedStage + counts.of .parseError + counts.of .validationError +
        counts.of .compiled := rfl
  rw [ending_isDone, sum, sum, afterCall_of, afterCall_of, afterCall_of, afterCall_of]
  rcases Fate.of? request verdict with _ | fate
  · simp
  · cases fate <;> simp <;> ac_rfl

theorem foldl_ended (self : CompilerRef) (state : FrontEnd) (calls : List Call) :
    (calls.foldl (fun state call => state.afterCall call.request call.verdict) state).counts.ended =
      state.counts.ended + UInt32.ofNat
        ((calls.map fun call => ending self call.request call.verdict).countP Exit.isDone) := by
  induction calls generalizing state with
  | nil => simp
  | cons call rest ih =>
      rw [List.foldl_cons, ih, state.afterCall_ended self, List.map_cons, List.countP_cons,
        UInt32.add_assoc, ← UInt32.ofNat_add, Nat.add_comm]
      cases (ending self call.request call.verdict).isDone <;> rfl

theorem ending_eq_some {program : Program} :
    ending self request verdict = .done (some program) ↔
      supports request.stage = true ∧ ∃ parsed, verdict = .accepted parsed ∧ program =
        { stage := request.stage
          entryPoint := parsed.entryPoint request.stage
          compiler := self } := by
  unfold ending Compiler.program?
  cases supports request.stage with
  | false => simp
  | true =>
      cases verdict with
      | accepted parsed =>
          constructor
          · rintro ⟨⟩
            exact ⟨rfl, parsed, rfl, rfl⟩
          · rintro ⟨_, _, ⟨⟩, rfl⟩
            rfl
      | _ => simp

theorem ending_eq_unwound :
    ending self request verdict = .unwound ↔ Fate.of? request verdict = none := by
  unfold ending Fate.of?
  cases supports request.stage <;> cases verdict <;> simp

theorem ending_ne_failed {error : Error} : ending self request verdict ≠ .failed error := by
  unfold ending
  split <;> nofun

end FrontEnd

theorem Parser.Reusable.calls {parser : Parser} (reusable : parser.Reusable)
    (earlier : List (Stage × String)) (asks : List (Base × Glsl.Request)) :
    parser.calls earlier asks = asks.map fun ask =>
      { base := ask.1, request := ask.2, verdict := parser [] (ask.2.stage, ask.2.source) } := by
  induction asks generalizing earlier with
  | nil => rfl
  | cons ask rest ih => rw [Parser.calls, ih, reusable, List.map_cons]

namespace FrontEnd

/-- However a front end was left, the stage of a request and the verdict on its source say whether
there is a program, and which; a call that returns is counted once, by the first thing that was wrong
or as compiled. A parser that does not mind being used again gives each request the answer that a new
front end would have given it without flags, and all calls of a run that returned are counted. -/
theorem verdicts_alone_decide {self : CompilerRef} {world : World} {state : FrontEnd}
    {parser : Parser} (found : world.compilers self.serial = .frontEnd state)
    (faultless : world.logger.faultless = true) (reusable : parser.Reusable) :
    (∀ base request verdict,
      let ran := self.createProgram base request verdict world
      ((∃ program, ran.1 = .done (some program)) ↔
        (request.stage = .vertex ∨ request.stage = .fragment ∨ request.stage = .compute) ∧
          ∃ parsed, verdict = .accepted parsed) ∧
      (∀ program, ran.1 = .done (some program) →
        program.stage = request.stage ∧ program.compiler = self ∧
          ∃ parsed, verdict = .accepted parsed ∧
            parsed.StartsAt request.stage program.entryPoint) ∧
      (ran.1 = .unwound ↔ Fate.of? request verdict = none) ∧ (∀ error, ran.1 ≠ .failed error) ∧
      ∃ later, ran.2.compilers self.serial = .frontEnd later ∧
        (∀ fate, later.counts.of fate =
          state.counts.of fate + if Fate.of? request verdict = some fate then 1 else 0) ∧
        (supports request.stage = true → (later.poisoned = true ↔ verdict = .panics)) ∧
        (supports request.stage = false → later.poisoned = state.poisoned)) ∧
    ∀ asks,
      let ran := callAll self world (parser.calls [] asks)
      ran.1 = asks.map (fun ask => (self.createProgram ask.1 { ask.2 with flags := 0 }
        (parser [] (ask.2.stage, ask.2.source)) .initial).1) ∧
      ∃ later, ran.2.compilers self.serial = .frontEnd later ∧
        later.counts.ended = state.counts.ended + UInt32.ofNat (ran.1.countP Exit.isDone) := by
  refine ⟨fun base request verdict => ?_, fun asks => ?_⟩
  · obtain ⟨after, ended, left, _⟩ := createProgram_turns found faultless base request verdict
    simp only [ended]
    refine ⟨?_, fun program returned => ?_, ?_, fun error failed => ?_, _, left,
      state.afterCall_of request verdict, fun supported => ?_, fun unsupported => ?_⟩
    · rw [← supports_iff]
      constructor
      · rintro ⟨program, returned⟩
        obtain ⟨supported, parsed, accepted, _⟩ := ending_eq_some.mp returned
        exact ⟨supported, parsed, accepted⟩
      · rintro ⟨supported, parsed, accepted⟩
        exact ⟨_, ending_eq_some.mpr ⟨supported, parsed, accepted, rfl⟩⟩
    · obtain ⟨_, parsed, accepted, rfl⟩ := ending_eq_some.mp returned
      exact ⟨rfl, rfl, parsed, accepted, parsed.startsAt_entryPoint request.stage⟩
    · exact ending_eq_unwound
    · exact ending_ne_failed failed
    · simp [afterCall, supported]
    · simp [afterCall, unsupported]
  · obtain ⟨after, ran, left, _⟩ := callAll_turns found faultless (parser.calls [] asks)
    have fresh (ask : Base × Glsl.Request) : (self.createProgram ask.1 { ask.2 with flags := 0 }
        (parser [] (ask.2.stage, ask.2.source)) .initial).1 =
          ending self ask.2 (parser [] (ask.2.stage, ask.2.source)) := by
      have known : World.initial.compilers self.serial = .frontEnd .fresh := rfl
      obtain ⟨_, ended, _⟩ := createProgram_turns known rfl ask.1 { ask.2 with flags := 0 }
        (parser [] (ask.2.stage, ask.2.source))
      rw [ended]
      rfl
    simp only [ran, fresh]
    refine ⟨?_, _, left, foldl_ended self state _⟩
    rw [reusable.calls, List.map_map]
    rfl

/-- A compute shader, and a text that breaks off. -/
def computeText : String :=
  "#version 450\nlayout(local_size_x = 1) in;\nvoid main() \x7b\n\x7d\n"

def brokenText : String :=
  "#version 450\nvoid main( \x7b\n"

/-- Knows the one text and finds fault with all others. -/
def narrowParser : Parser := fun _ text =>
  if text = (.compute, computeText) then
    .accepted { entryPoints := [(.compute, "main")], functions := 1 }
  else .unparsed "unexpected end of file"

/-- A request as it is written. -/
def asking (stage : Stage) (flags : UInt32) (source : String) : Base × Glsl.Request :=
  (shaderBase, { stage, flags, source, codeSize := Glsl.headerSize + source.utf8ByteSize + 1 })

/-- Some requests, of which the first has flags and the last is for a stage that is not supported. -/
def mixedAsks : List (Base × Glsl.Request) :=
  [asking .compute 0xdeadbeef computeText, asking .vertex 0 brokenText,
    asking .geometry 0 computeText]

/-- Every parser is poisoned. -/
def poisonedParsers : World :=
  { World.initial with compilers := fun _ => .frontEnd { FrontEnd.fresh with poisoned := true } }

theorem poisoned_parser_answers_like_new :
    let self : CompilerRef := { serial := 0, label := none }
    let ran := callAll self poisonedParsers (narrowParser.calls [] mixedAsks)
    ran.1 = [.done (some { stage := .compute, entryPoint := "main", compiler := self }), .done none,
      .done none] ∧
      ∃ later, ran.2.compilers 0 = .frontEnd later ∧ later.counts.ended = 3 := by
  intro self ran
  have known : poisonedParsers.compilers self.serial =
      .frontEnd { FrontEnd.fresh with poisoned := true } := rfl
  have reusable : narrowParser.Reusable := fun _ _ => rfl
  obtain ⟨_, runs⟩ := verdicts_alone_decide known rfl reusable
  obtain ⟨exits, later, left, ended⟩ := runs mixedAsks
  have answers : ran.1 = [.done (some { stage := .compute, entryPoint := "main", compiler := self }),
      .done none, .done none] := exits.trans (by decide +kernel)
  exact ⟨answers, later, left, by rw [ended, answers]; rfl⟩

end FrontEnd

end ShaderDriver
