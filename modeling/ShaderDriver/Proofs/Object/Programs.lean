import ShaderDriver.Object.Compile
import ShaderDriver.Proofs.Act.Frame

namespace ShaderDriver

open Container Act

/-! The programs that a front end has handed out, and what it counts of them. -/

namespace Log.Logger

/-- How often the logger can panic yet. -/
def panicsLeft : Logger → Nat
  | .capturing faults => faults.length
  | .console _ => 0

theorem receive_panicsLeft (logger : Logger) (severity : Severity) :
    (logger.receive severity).2.panicsLeft + (logger.receive severity).1.toNat ≤
      logger.panicsLeft := by
  cases logger with
  | console threshold => simp [receive, panicsLeft]
  | capturing faults =>
      cases faults with
      | nil => simp [receive, panicsLeft]
      | cons fault rest =>
          simp only [receive]
          split
          · split <;> simp [panicsLeft]
          · simp [panicsLeft]

end Log.Logger

/-- Whether the event is this entry in the log. -/
def Event.shows (record : Log.Record) : Event → Bool
  | .logged shown _ => shown == record
  | _ => false

namespace FrontEnd

/-- The entry about a program that was made. -/
def announcement (request : Glsl.Request) (base : Base) (parsed : ParsedModule) : Log.Record :=
  { severity := .debug, source, message := compiledMessage request base parsed, site := none }

/-- What an application does with a front end: it asks for a program, or drops one that it has. -/
inductive Use where
  | create (base : Base) (request : Glsl.Request) (verdict : Verdict)
  | drop (place : Nat)

/-- The programs that were returned and not dropped, how many were returned in all, and how many
calls made the entry about their program and yet returned none. -/
structure Tally where
  programs : List Program
  returned : Nat
  undone : Nat

def Tally.none : Tally :=
  { programs := [], returned := 0, undone := 0 }

/-- The call unwound, though the program was announced. -/
def undoes (base : Base) (request : Glsl.Request) (verdict : Verdict)
    (exit : Exit (Option Program)) (events : List Event) : Bool :=
  match exit, verdict with
  | .unwound, .accepted parsed => events.any (Event.shows (announcement request base parsed))
  | _, _ => false

/-- Programs that a call counts. -/
def counted (base : Base) (request : Glsl.Request) (verdict : Verdict)
    (exit : Exit (Option Program)) (events : List Event) : Nat :=
  match exit with
  | .done (some _) => 1
  | exit => (undoes base request verdict exit events).toNat

def Tally.afterCall (tally : Tally) (base : Base) (request : Glsl.Request) (verdict : Verdict)
    (exit : Exit (Option Program)) (events : List Event) : Tally :=
  match exit with
  | .done (some program) =>
      { tally with programs := tally.programs ++ [program], returned := tally.returned + 1 }
  | exit =>
      { tally with undone := tally.undone + (undoes base request verdict exit events).toNat }

/-- One use, watched from its start. -/
def use (self : CompilerRef) (tally : Tally) (world : World) : Use → Tally × World
  | .create base request verdict =>
      let (exit, after) := self.createProgram base request verdict { world with trace := [] }
      (tally.afterCall base request verdict exit after.trace, after)
  | .drop place =>
      match tally.programs[place]? with
      | none => (tally, world)
      | some program =>
          ({ tally with programs := tally.programs.eraseIdx place }, (program.destroy world).2)

def useAll (self : CompilerRef) (tally : Tally) (world : World) : List Use → Tally × World
  | [] => (tally, world)
  | first :: rest => useAll self (use self tally world first).1 (use self tally world first).2 rest

/-! What leaves the counts of programs as they are. -/

/-- The front end counts as many programs as before, and no program is announced. -/
structure Uncounted (compiler : CompilerRef) (record : Log.Record) (world after : World) :
    Prop where
  counts : ∀ state, world.compilers compiler.serial = .frontEnd state →
    ∃ later, after.compilers compiler.serial = .frontEnd later ∧
      later.live = state.live ∧ later.counts.compiled = state.counts.compiled
  trace : ∃ events, after.trace = world.trace ++ events ∧
    events.any (Event.shows record) = false
  panics : after.logger.panicsLeft ≤ world.logger.panicsLeft

variable {self : CompilerRef} {record : Log.Record} {state : FrontEnd} {world after : World}
  {base : Base} {request : Glsl.Request} {verdict : Verdict} {parsed : ParsedModule}

theorem Uncounted.refl (world : World) : Uncounted self record world world where
  counts state found := ⟨state, found, rfl, rfl⟩
  trace := ⟨[], (List.append_nil _).symm, rfl⟩
  panics := Nat.le_refl _

theorem Uncounted.trans {first second third : World} (earlier : Uncounted self record first second)
    (later : Uncounted self record second third) : Uncounted self record first third where
  counts state found := by
    obtain ⟨middle, held, live, compiled⟩ := earlier.counts state found
    obtain ⟨last, kept, same, equal⟩ := later.counts middle held
    exact ⟨last, kept, same.trans live, equal.trans compiled⟩
  trace := by
    obtain ⟨events, start, silent⟩ := earlier.trace
    obtain ⟨more, finish, still⟩ := later.trace
    exact ⟨events ++ more, by rw [finish, start, List.append_assoc], by
      rw [List.any_append, silent, still, Bool.or_false]⟩
  panics := Nat.le_trans later.panics earlier.panics

/-- Nothing is announced, and nothing that was made is counted. -/
def uncounted (self : CompilerRef) (record : Log.Record) : Frame where
  related := Uncounted self record
  refl := Uncounted.refl
  trans := Uncounted.trans

theorem log_uncounted {shown : Log.Record} (other : shown ≠ record) :
    (uncounted self record).Holds (log shown) := by
  intro world
  have left := world.logger.receive_panicsLeft shown.severity
  constructor
  case counts => exact fun state found => ⟨state, found, rfl, rfl⟩
  case trace => exact ⟨_, rfl, by simp [Event.shows, other]⟩
  case panics => exact Nat.le_trans (Nat.le_add_right _ _) left

theorem change_uncounted {update : FrontEnd → FrontEnd}
    (same : ∀ state, (update state).live = state.live ∧
      (update state).counts.compiled = state.counts.compiled) :
    (uncounted self record).Holds (change self update) := by
  intro world
  cases found : world.compilers self.serial with
  | scripted state =>
      simp only [change, Act.change, found]
      exact .refl world
  | frontEnd state =>
      simp only [change, Act.change, found]
      constructor
      case counts =>
        intro other known
        rw [found, Compiler.frontEnd.injEq] at known
        subst known
        exact ⟨update state, Cells.set_self _ _ _, same state⟩
      case trace => exact ⟨[], (List.append_nil _).symm, rfl⟩
      case panics => exact Nat.le_refl _

theorem usingParser_uncounted {α : Type} {act : Act α} (holds : (uncounted self record).Holds act) :
    (uncounted self record).Holds (usingParser self act) := by
  intro world
  have start := holds world
  unfold usingParser
  generalize act world = ran at start ⊢
  obtain ⟨exit, after⟩ := ran
  cases exit with
  | done value => exact start
  | failed error => exact start
  | unwound =>
      have kept : (uncounted self record).Holds
          (change self fun state => { state with poisoned := true }) :=
        change_uncounted fun _ => ⟨rfl, rfl⟩
      exact start.trans (kept after)

/-- An announcement begins with this letter, and no other entry of a front end does. -/
def Announces (record : Log.Record) : Prop :=
  record.message.toList.head? = some 'C'

theorem announcement_announces (request : Glsl.Request) (base : Base) (parsed : ParsedModule) :
    Announces (announcement request base parsed) := by
  unfold Announces announcement
  delta compiledMessage
  simp

theorem note_uncounted {severity : Log.Severity} {message : String} (announces : Announces record)
    (start : message.toList.head? ≠ some 'C') :
    (uncounted self record).Holds (note severity source message) := by
  apply log_uncounted
  rintro rfl
  exact start announces

theorem count_uncounted {update : CompileCounts → CompileCounts}
    (same : ∀ counts, (update counts).compiled = counts.compiled) :
    (uncounted self record).Holds (count self update) :=
  change_uncounted fun state => ⟨rfl, same state.counts⟩

theorem recover_uncounted (announces : Announces record) :
    (uncounted self record).Holds (recover self) := by
  refine .bind (.read _) fun poisoned => ?_
  split
  · refine .bind (count_uncounted fun _ => by rfl) fun _ => ?_
    refine .bind (note_uncounted announces (by decide)) fun _ => ?_
    exact change_uncounted fun _ => ⟨rfl, rfl⟩
  · exact .pure ()

theorem parse_uncounted (announces : Announces record) (verdict : Verdict) :
    (uncounted self record).Holds (parse self verdict) := by
  apply usingParser_uncounted
  refine .bind (recover_uncounted announces) fun _ => ?_
  cases verdict with
  | panics => exact .unwind
  | invalid reason => exact .pure ()
  | accepted parsed => exact .pure ()
  | unparsed reason =>
      refine .bind (count_uncounted fun _ => by rfl) fun _ => ?_
      exact note_uncounted announces (by simp)

theorem remarkFlags_uncounted (announces : Announces record) (request : Glsl.Request) :
    (uncounted self record).Holds (remarkFlags request) := by
  unfold remarkFlags
  split
  · exact note_uncounted announces (by simp)
  · exact .pure ()

theorem conclude_uncounted (announces : Announces record) (base : Base) (request : Glsl.Request)
    (refused : ∀ parsed, verdict ≠ .accepted parsed) :
    (uncounted self record).Holds (conclude self base request verdict) := by
  cases verdict with
  | panics => exact .pure none
  | unparsed reason => exact .pure none
  | accepted parsed => exact absurd rfl (refused parsed)
  | invalid reason =>
      refine .bind (count_uncounted fun _ => by rfl) fun _ => ?_
      exact .bind (note_uncounted announces (by simp)) fun _ => .pure none

/-- Only an accepted source of a supported stage is counted as a program. -/
theorem compile_uncounted (announces : Announces record) (base : Base) (request : Glsl.Request)
    (unmade : supports request.stage = true → ∀ parsed, verdict ≠ .accepted parsed) :
    (uncounted self record).Holds (compile self base request verdict) := by
  unfold compile
  split
  · next supported =>
      refine .bind (remarkFlags_uncounted announces request) fun _ => ?_
      refine .bind (parse_uncounted announces verdict) fun _ => ?_
      exact conclude_uncounted announces base request (unmade supported)
  · next unsupported =>
      have start : (request.stage.name ++ " shaders are not supported").toList.head? ≠ some 'C' := by
        cases stage : request.stage <;> simp_all [supports, Stage.name]
      refine .bind (count_uncounted fun _ => by rfl) fun _ => ?_
      exact .bind (note_uncounted announces start) fun _ => .pure none

theorem conclude_ne_some {program : Program} (refused : ∀ parsed, verdict ≠ .accepted parsed) :
    conclude self base request verdict world ≠ (.done (some program), after) := by
  intro finished
  cases verdict with
  | panics => cases finished
  | unparsed reason => cases finished
  | accepted parsed => exact refused parsed rfl
  | invalid reason =>
      obtain ⟨_, _, _, counted⟩ := bind_eq_done.mp finished
      obtain ⟨_, _, _, noted⟩ := bind_eq_done.mp counted
      cases noted

theorem compile_eq_some {program : Program}
    (finished : compile self base request verdict world = (.done (some program), after)) :
    supports request.stage = true ∧ ∃ parsed, verdict = .accepted parsed := by
  unfold compile at finished
  split at finished
  · next supported =>
      obtain ⟨_, _, _, remarked⟩ := bind_eq_done.mp finished
      obtain ⟨_, _, _, concluded⟩ := bind_eq_done.mp remarked
      refine ⟨supported, Classical.byContradiction fun refused => ?_⟩
      exact conclude_ne_some (fun parsed same => refused ⟨parsed, same⟩) concluded
  · obtain ⟨_, _, _, counted⟩ := bind_eq_done.mp finished
    obtain ⟨_, _, _, noted⟩ := bind_eq_done.mp counted
    cases noted

/-- One program more. -/
def made (state : FrontEnd) : FrontEnd :=
  { state with
    counts := { state.counts with compiled := state.counts.compiled + 1 }
    live := state.live + 1 }

/-- The program is counted before it is announced, and there is none if the logger panics at the
announcement. -/
theorem conclude_accepted (found : world.compilers self.serial = .frontEnd state)
    (base : Base) (request : Glsl.Request) (parsed : ParsedModule) :
    conclude self base request (.accepted parsed) world =
      let told := { world with
        compilers := world.compilers.set self.serial (.frontEnd state.made)
        logger := (world.logger.receive .debug).2
        trace := world.trace ++
          [.logged (announcement request base parsed) (world.logger.sink .debug)] }
      if (world.logger.receive .debug).1 then (.unwound, told)
      else
        (.done (some
          { stage := request.stage
            entryPoint := parsed.entryPoint request.stage
            compiler := self }),
          { told with trace := told.trace ++ [.programMade self] }) := by
  simp only [conclude, count, change, Act.change, bind_apply, found, Cells.set_self, Cells.set_set]
  unfold note log
  simp only [announcement, made]
  cases world.logger.receive .debug with
  | mk panics next => cases panics <;> rfl

variable {exit : Exit (Option Program)} {events : List Event}

theorem undoes_of_silent
    (silent : ∀ parsed, events.any (Event.shows (announcement request base parsed)) = false) :
    undoes base request verdict exit events = false := by
  unfold undoes
  split
  · exact silent _
  · rfl

theorem counted_of_silent (unfinished : ∀ program, exit ≠ .done (some program))
    (silent : ∀ parsed, events.any (Event.shows (announcement request base parsed)) = false) :
    counted base request verdict exit events = 0 := by
  unfold counted
  split
  · next program => exact absurd rfl (unfinished program)
  · rw [undoes_of_silent silent, Bool.toNat_false]

/-- What a call leaves of the front end, by how it ends. -/
structure Outcome (compiler : CompilerRef) (base : Base) (request : Glsl.Request)
    (verdict : Verdict) (state : FrontEnd) (panics : Nat) (exit : Exit (Option Program))
    (after : World) : Prop where
  counts : ∃ later, after.compilers compiler.serial = .frontEnd later ∧
    later.live = state.live + counted base request verdict exit after.trace ∧
    later.counts.compiled =
      state.counts.compiled + UInt32.ofNat (counted base request verdict exit after.trace)
  maker : ∀ program, exit = .done (some program) → program.compiler = compiler
  panics : (undoes base request verdict exit after.trace).toNat + after.logger.panicsLeft ≤ panics

theorem outcome_of_uncounted (found : world.compilers self.serial = .frontEnd state)
    (unannounced : ∀ record, world.trace.any (Event.shows record) = false)
    (same : ∀ record, Announces record → Uncounted self record world after)
    (unfinished : ∀ program, exit ≠ .done (some program)) :
    Outcome self base request verdict state world.logger.panicsLeft exit after := by
  have silent : ∀ parsed,
      after.trace.any (Event.shows (announcement request base parsed)) = false := by
    intro parsed
    obtain ⟨events, trace, none⟩ := (same _ (announcement_announces request base parsed)).trace
    rw [trace, List.any_append, unannounced, none, Bool.or_false]
  have kept := same _ (announcement_announces request base { entryPoints := [], functions := 0 })
  constructor
  case counts =>
    obtain ⟨later, known, live, compiled⟩ := kept.counts state found
    refine ⟨later, known, ?_, ?_⟩
    · rw [counted_of_silent unfinished silent, live, Nat.add_zero]
    · rw [counted_of_silent unfinished silent, compiled]
      exact (UInt32.add_zero _).symm
  case maker => exact fun program finished => absurd finished (unfinished program)
  case panics =>
    rw [undoes_of_silent silent, Bool.toNat_false, Nat.zero_add]
    exact kept.panics

theorem conclude_outcome (found : world.compilers self.serial = .frontEnd state)
    (base : Base) (request : Glsl.Request) (parsed : ParsedModule) :
    Outcome self base request (.accepted parsed) state world.logger.panicsLeft
      (conclude self base request (.accepted parsed) world).1
      (conclude self base request (.accepted parsed) world).2 := by
  have left := world.logger.receive_panicsLeft .debug
  rw [conclude_accepted found]
  cases panics : (world.logger.receive .debug).1
  case false =>
    rw [panics] at left
    constructor
    case counts => exact ⟨state.made, Cells.set_self _ _ _, rfl, rfl⟩
    case maker => rintro program ⟨rfl⟩; rfl
    case panics => simpa [undoes] using left
  case true =>
    rw [panics] at left
    have announced : (world.trace ++ [Event.logged (announcement request base parsed)
        (world.logger.sink .debug)]).any (Event.shows (announcement request base parsed)) = true := by
      simp [Event.shows]
    constructor
    case counts =>
      refine ⟨state.made, Cells.set_self _ _ _, ?_, ?_⟩ <;> simp [counted, undoes, announced, made]
    case maker => simp
    case panics => simpa [undoes, announced, Nat.add_comm] using left

theorem compile_outcome (found : world.compilers self.serial = .frontEnd state)
    (unannounced : ∀ record, world.trace.any (Event.shows record) = false)
    (base : Base) (request : Glsl.Request) (verdict : Verdict) :
    Outcome self base request verdict state world.logger.panicsLeft
      (compile self base request verdict world).1 (compile self base request verdict world).2 := by
  by_cases makes : supports request.stage = true ∧ ∃ parsed, verdict = .accepted parsed
  · obtain ⟨supported, parsed, rfl⟩ := makes
    have same : ∀ record, Announces record → Uncounted self record world
        ((remarkFlags request >>= fun _ => parse self (.accepted parsed)) world).2 :=
      fun record announces => (Frame.Holds.bind (remarkFlags_uncounted announces request)
        fun _ => parse_uncounted announces _) world
    rw [compile, if_pos supported, ← Act.bind_assoc, bind_apply]
    generalize (remarkFlags request >>= fun _ => parse self (.accepted parsed)) world = ran at same
    obtain ⟨exit, middle⟩ := ran
    cases exit with
    | failed error => exact outcome_of_uncounted found unannounced same (by simp)
    | unwound => exact outcome_of_uncounted found unannounced same (by simp)
    | done value =>
        -- What comes before the conclusion counts nothing, so its outcome is that of the call.
        have kept := same _ (announcement_announces request base parsed)
        obtain ⟨middleState, known, live, compiled⟩ := kept.counts state found
        obtain ⟨⟨later, last, lives, compiles⟩, maker, panics⟩ :=
          conclude_outcome known base request parsed
        refine ⟨⟨later, last, ?_, ?_⟩, maker, Nat.le_trans panics kept.panics⟩
        · rw [← live, lives]
        · rw [← compiled, compiles]
  · apply outcome_of_uncounted found unannounced
    · intro record announces
      apply compile_uncounted announces base request
      exact fun supported parsed accepted => makes ⟨supported, parsed, accepted⟩
    · intro program finished
      have ran : compile self base request verdict world =
          (.done (some program), (compile self base request verdict world).2) :=
        Prod.ext finished rfl
      exact makes (compile_eq_some ran)

theorem createProgram_outcome (found : world.compilers self.serial = .frontEnd state)
    (base : Base) (request : Glsl.Request) (verdict : Verdict) :
    Outcome self base request verdict state world.logger.panicsLeft
      (self.createProgram base request verdict { world with trace := [] }).1
      (self.createProgram base request verdict { world with trace := [] }).2 := by
  let asked : World := { world with trace := [.compiling self request base] }
  have ran : self.createProgram base request verdict { world with trace := [] } =
      compile self base request verdict asked := by
    simp only [CompilerRef.createProgram, emit, Act.change, Act.read, bind_apply, found,
      List.nil_append, asked]
  have reads : asked.compilers self.serial = .frontEnd state := found
  rw [ran]
  exact compile_outcome reads (fun _ => rfl) base request verdict

/-- What the front end counts of the programs on the tally. -/
structure Agrees (compiler : CompilerRef) (panics : Nat) (tally : Tally) (world : World) : Prop where
  counts : ∃ state, world.compilers compiler.serial = .frontEnd state ∧
    state.live = tally.programs.length + tally.undone ∧
    state.counts.compiled = UInt32.ofNat (tally.returned + tally.undone)
  maker : ∀ program ∈ tally.programs, program.compiler = compiler
  panics : tally.undone + world.logger.panicsLeft ≤ panics

variable {tally : Tally} {panics : Nat}

theorem Agrees.call (agrees : Agrees self panics tally world) (base : Base)
    (request : Glsl.Request) (verdict : Verdict) :
    Agrees self panics (use self tally world (.create base request verdict)).1
      (use self tally world (.create base request verdict)).2 := by
  obtain ⟨state, found, live, compiled⟩ := agrees.counts
  have left := agrees.panics
  have outcome := createProgram_outcome found base request verdict
  simp only [use]
  generalize self.createProgram base request verdict { world with trace := [] } = ran at outcome ⊢
  obtain ⟨exit, after⟩ := ran
  obtain ⟨⟨later, known, lives, compiles⟩, maker, fewer⟩ := outcome
  rw [live] at lives
  rw [compiled, ← UInt32.ofNat_add] at compiles
  simp only at known lives compiles fewer maker ⊢
  rcases exit with (_ | program) | error | _
  case done.some =>
    constructor
    case counts =>
      refine ⟨later, known, ?_, ?_⟩
      · rw [lives]
        simp only [Tally.afterCall, counted, List.length_append, List.length_singleton]
        omega
      · rw [compiles]
        simp only [Tally.afterCall, counted, Nat.add_right_comm]
    case maker =>
      intro other member
      rcases List.mem_append.mp member with earlier | new
      · exact agrees.maker other earlier
      · rw [List.mem_singleton.mp new]
        exact maker program rfl
    case panics =>
      simp only [Tally.afterCall]
      omega
  all_goals
    constructor
    case counts =>
      refine ⟨later, known, ?_, ?_⟩
      · rw [lives]
        simp only [Tally.afterCall, counted]
        omega
      · rw [compiles]
        simp only [Tally.afterCall, counted, Nat.add_assoc]
    case maker => exact agrees.maker
    case panics =>
      simp only [Tally.afterCall]
      omega

theorem Agrees.drop (agrees : Agrees self panics tally world) (place : Nat) :
    Agrees self panics (use self tally world (.drop place)).1
      (use self tally world (.drop place)).2 := by
  cases found : tally.programs[place]? with
  | none => simpa only [use, found] using agrees
  | some program =>
      obtain ⟨state, known, live, compiled⟩ := agrees.counts
      obtain ⟨inside, _⟩ := List.getElem?_eq_some_iff.mp found
      have mine := agrees.maker program (List.mem_of_getElem? found)
      simp only [use, found]
      constructor
      case counts =>
        refine ⟨{ state with live := state.live - 1 }, ?_, ?_, compiled⟩
        · simp [Program.destroy, emit, Act.change, bind_apply, mine, known, Compiler.forget]
        · change state.live - 1 = (tally.programs.eraseIdx place).length + tally.undone
          rw [List.length_eraseIdx_of_lt inside, live]
          omega
      case maker =>
        intro other member
        exact agrees.maker other (List.mem_of_mem_eraseIdx member)
      case panics => exact agrees.panics

theorem Agrees.use (agrees : Agrees self panics tally world) (next : Use) :
    Agrees self panics (FrontEnd.use self tally world next).1
      (FrontEnd.use self tally world next).2 := by
  cases next with
  | create base request verdict => exact agrees.call base request verdict
  | drop place => exact agrees.drop place

theorem Agrees.useAll (agrees : Agrees self panics tally world) (uses : List Use) :
    Agrees self panics (FrontEnd.useAll self tally world uses).1
      (FrontEnd.useAll self tally world uses).2 := by
  induction uses generalizing tally world with
  | nil => exact agrees
  | cons next rest ih => exact ih (agrees.use next)

/-- Of a front end that begins with nothing, the programs that are alive and those made in all are
counted exactly, except that a call which announced its program and then unwound is counted for
good; the counts are right just as long as there was no such call, and there are no more of them than
the logger panics. -/
theorem programs_are_counted_unless_undone (self : CompilerRef) (world : World)
    (fresh : world.compilers self.serial = .frontEnd .fresh) (uses : List Use) :
    let ran := useAll self .none world uses
    ∃ state, ran.2.compilers self.serial = .frontEnd state ∧
      state.live = ran.1.programs.length + ran.1.undone ∧
      state.counts.compiled = UInt32.ofNat (ran.1.returned + ran.1.undone) ∧
      (state.live = ran.1.programs.length ∧
        state.counts.compiled = UInt32.ofNat ran.1.returned ↔ ran.1.undone = 0) ∧
      ran.1.undone ≤ world.logger.panicsLeft := by
  intro ran
  have start : Agrees self world.logger.panicsLeft .none world := by
    constructor
    case counts => exact ⟨.fresh, fresh, rfl, rfl⟩
    case maker => simp [Tally.none]
    case panics => simp [Tally.none]
  obtain ⟨⟨state, known, live, compiled⟩, _, panics⟩ := start.useAll uses
  refine ⟨state, known, live, compiled, ⟨fun right => ?_, fun none => ?_⟩,
    Nat.le_trans (Nat.le_add_right _ _) panics⟩
  · have same := right.1
    rw [live] at same
    exact Nat.left_eq_add.mp same.symm
  · rw [live, compiled, none]
    exact ⟨rfl, rfl⟩

/-- A request for a vertex shader, and the verdict on a source with a function. -/
def vertexRequest : Glsl.Request :=
  { stage := .vertex, flags := 1, source := "void main() {}", codeSize := 23 }

def oneFunction : Verdict :=
  .accepted { entryPoints := [(.vertex, "main")], functions := 1 }

def shaderBase : Base :=
  { kind := .shader
    allocation := { allocator := { serial := 0, label := none }, size := 64, type := .apiObject }
    record := none }

/-- Before anything else is there. -/
def withPanicAt (severity : Option Log.Severity) (skip : Nat) : World :=
  { World.initial with logger := .capturing [{ severity, skip }] }

/-- The logger panics about the flags of the second request; the other two lead to programs. -/
theorem two_programs_are_counted_after_panic :
    ∃ state, (useAll { serial := 0, label := none } .none (withPanicAt (some .debug) 2)
        [.create shaderBase vertexRequest oneFunction, .create shaderBase vertexRequest oneFunction,
          .create shaderBase vertexRequest (.unparsed "no"), .drop 0,
          .create shaderBase vertexRequest oneFunction]).2.compilers 0 = .frontEnd state ∧
      state.live = 1 ∧ state.counts.compiled = 2 := by
  obtain ⟨state, known, live, compiled, _⟩ := programs_are_counted_unless_undone
    { serial := 0, label := none } (withPanicAt (some .debug) 2) rfl
    [.create shaderBase vertexRequest oneFunction, .create shaderBase vertexRequest oneFunction,
      .create shaderBase vertexRequest (.unparsed "no"), .drop 0,
      .create shaderBase vertexRequest oneFunction]
  refine ⟨state, known, ?_, ?_⟩
  · rw [live]
    decide +kernel
  · rw [compiled]
    decide +kernel

/-- The logger panics at the announcement, after the program was counted: the call returns none, and
yet one is alive for good. -/
theorem program_announced_in_vain_is_counted :
    let ran := useAll { serial := 0, label := none } .none (withPanicAt (some .debug) 1)
      [.create shaderBase vertexRequest oneFunction]
    ran.1.programs = [] ∧ ran.1.returned = 0 ∧
      ∃ state, ran.2.compilers 0 = .frontEnd state ∧ state.live = 1 ∧ state.counts.compiled = 1 := by
  refine ⟨by decide +kernel, by decide +kernel, ?_⟩
  exact ⟨FrontEnd.fresh.made, rfl, rfl, rfl⟩

end FrontEnd

end ShaderDriver
