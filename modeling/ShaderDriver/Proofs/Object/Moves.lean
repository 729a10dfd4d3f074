import ShaderDriver.Proofs.Object.Assets

namespace ShaderDriver

open Memory

/-! What actions on objects do to a balance: the assets that they use up, and those that they hand
over. Only an action that finishes hands anything over. -/

variable {α β : Type}

/-- What is handed over at an end of an action. -/
def Exit.carried (gained : α → Multiset Asset) : Exit α → Multiset Asset
  | .done value => gained value
  | .failed _ => 0
  | .unwound => 0

@[simp] theorem Exit.carried_done (gained : α → Multiset Asset) (value : α) :
    (Exit.done value).carried gained = gained value := rfl

@[simp] theorem Exit.carried_failed (gained : α → Multiset Asset) (error : Error) :
    (Exit.failed error).carried gained = 0 := rfl

@[simp] theorem Exit.carried_unwound (gained : α → Multiset Asset) :
    Exit.unwound.carried gained = 0 := rfl

@[simp] theorem Exit.carried_nothing (exit : Exit α) :
    (exit.carried fun _ => (0 : Multiset Asset)) = 0 := by
  cases exit <;> rfl

namespace World

/-- What is registered and held stays as it is, an account stays an account, and there are only more
serial numbers and events. -/
structure Retains (world after : World) : Prop where
  registries : after.registries = world.registries
  held : after.held = world.held
  serials : world.nextSerial ≤ after.nextSerial
  accounts : ∀ serial tracker, world.allocators serial = .tracking tracker →
    ∃ next, after.allocators serial = .tracking next
  trace : ∃ events, after.trace = world.trace ++ events

theorem Retains.refl (world : World) : world.Retains world where
  registries := rfl
  held := rfl
  serials := Nat.le_refl _
  accounts _ tracker found := ⟨tracker, found⟩
  trace := ⟨[], by simp⟩

theorem Retains.trans {first second third : World} (earlier : first.Retains second)
    (later : second.Retains third) : first.Retains third where
  registries := later.registries.trans earlier.registries
  held := later.held.trans earlier.held
  serials := Nat.le_trans earlier.serials later.serials
  accounts serial tracker found := by
    obtain ⟨next, kept⟩ := earlier.accounts serial tracker found
    exact later.accounts serial next kept
  trace := by
    obtain ⟨events, start⟩ := earlier.trace
    obtain ⟨more, finish⟩ := later.trace
    exact ⟨events ++ more, by rw [finish, start, List.append_assoc]⟩

theorem Retains.compilers (world : World) (compilers : Cells Compiler) :
    world.Retains { world with compilers } where
  registries := rfl
  held := rfl
  serials := Nat.le_refl _
  accounts _ tracker found := ⟨tracker, found⟩
  trace := ⟨[], by simp⟩

theorem Retains.event (world : World) (event : Event) :
    world.Retains { world with trace := world.trace ++ [event] } where
  registries := rfl
  held := rfl
  serials := Nat.le_refl _
  accounts _ tracker found := ⟨tracker, found⟩
  trace := ⟨[event], rfl⟩

theorem Retains.cell (world : World) {serial : Nat} {cell : Allocator} (events : List Event)
    (kind : ∀ tracker, world.allocators serial = .tracking tracker → ∃ next, cell = .tracking next) :
    world.Retains { world with
      allocators := world.allocators.set serial cell
      trace := world.trace ++ events } where
  registries := rfl
  held := rfl
  serials := Nat.le_refl _
  accounts other tracker found := by
    by_cases own : other = serial
    · subst other
      obtain ⟨next, same⟩ := kind tracker found
      exact ⟨next, (Cells.set_self _ _ _).trans same⟩
    · exact ⟨tracker, (Cells.set_other _ _ own).trans found⟩
  trace := ⟨events, rfl⟩

end World

namespace Act

variable {act : Act α} {next : α → Act β} {spent owned : Multiset Asset}
  {gained : α → Multiset Asset}

def retaining : Frame where
  related := World.Retains
  refl := World.Retains.refl
  trans := World.Retains.trans

/-- Whatever else there is, the action turns what it spends into what it gains, or into nothing if
it does not finish. -/
structure Moves (act : Act α) (spent : Multiset Asset) (gained : α → Multiset Asset) : Prop where
  retains : retaining.Holds act
  balances : ∀ {serial earlier rest world}, world.Balances serial earlier (rest + spent) →
    (act world).2.Balances serial earlier (rest + (act world).1.carried gained)

/-- The action ends with what it began with. -/
abbrev Idle (act : Act α) : Prop :=
  act.Moves 0 fun _ => 0

/-- The action uses up what it owns. -/
abbrev Releases (act : Act Unit) (owned : Multiset Asset) : Prop :=
  act.Moves owned fun _ => 0

namespace Moves

theorem retained {exit : Exit α} {world after : World} (moves : act.Moves spent gained)
    (ran : act world = (exit, after)) : world.Retains after := by
  have kept := moves.retains world
  rwa [ran] at kept

protected theorem pure (value : α) (same : gained value = spent) :
    (Pure.pure value : Act α).Moves spent gained where
  retains := .pure value
  balances start := by
    rw [← same] at start
    exact start

theorem idle (value : α) : (Pure.pure value : Act α).Idle :=
  .pure value rfl

theorem recast {needed : Multiset Asset} {others : α → Multiset Asset}
    (moves : act.Moves spent gained) (start : needed = spent)
    (finish : ∀ {world value after}, act world = (.done value, after) →
      others value = gained value) : act.Moves needed others where
  retains := moves.retains
  balances {serial earlier rest world} balances := by
    rw [start] at balances
    have finished := moves.balances balances
    rcases ran : act world with ⟨exit, after⟩
    rw [ran] at finished
    cases exit with
    | done value =>
        rw [Exit.carried_done, finish ran]
        exact finished
    | failed error => exact finished
    | unwound => exact finished

theorem pointwise (each : ∀ world, ∃ other : Act α, other.Moves spent gained ∧
    act world = other world) : act.Moves spent gained where
  retains world := by
    obtain ⟨other, moves, same⟩ := each world
    rw [same]
    exact moves.retains world
  balances {serial earlier rest world} balances := by
    obtain ⟨other, moves, same⟩ := each world
    rw [same]
    exact moves.balances balances

theorem fail (error : Error) : (Act.fail error : Act α).Moves 0 gained :=
  ⟨.fail error, fun start => start⟩

theorem unwind : (Act.unwind : Act α).Moves 0 gained :=
  ⟨.unwind, fun start => start⟩

theorem read (view : World → α) : (Act.read view).Idle :=
  ⟨.read view, fun start => start⟩

theorem change {update : World → World}
    (compilers : ∀ world, ∃ compilers, update world = { world with compilers }) :
    (Act.change update).Idle where
  retains world := by
    obtain ⟨cells, same⟩ := compilers world
    change world.Retains (update world)
    rw [same]
    exact .compilers world cells
  balances {serial earlier rest world} start := by
    obtain ⟨cells, same⟩ := compilers world
    change (update world).Balances serial earlier (rest + 0)
    rw [same]
    exact start.transfer rfl rfl

theorem emit {event : Event} (plain : event.Plain) : (Act.emit event).Idle where
  retains world := .event world event
  balances start := start.remark plain rfl rfl

theorem freshSerial : Act.freshSerial.Idle where
  retains world := { World.Retains.refl world with serials := Nat.le_succ _ }
  balances start := start.transfer rfl rfl

theorem bind {middle : α → Multiset Asset} {gained : β → Multiset Asset}
    (first : act.Moves spent middle) (second : ∀ value, (next value).Moves (middle value) gained) :
    (act >>= next).Moves spent gained where
  retains := first.retains.bind fun value => (second value).retains
  balances {serial earlier rest world} balances := by
    have start := first.balances balances
    rw [bind_apply]
    generalize act world = ran at start ⊢
    obtain ⟨exit, between⟩ := ran
    cases exit with
    | done value => exact (second value).balances start
    | failed error => exact start
    | unwound => exact start

theorem after {gained : β → Multiset Asset} (first : act.Idle)
    (finishes : ∀ world, ∃ value after, act world = (.done value, after))
    (second : ∀ value, (next value).Moves spent gained) : (act >>= next).Moves spent gained where
  retains := first.retains.bind fun value => (second value).retains
  balances {serial earlier rest world} balances := by
    obtain ⟨value, between, ran⟩ := finishes world
    have start := first.balances (by rwa [add_zero])
    rw [ran, Exit.carried_done, add_zero] at start
    rw [bind_done ran]
    exact (second value).balances start

theorem afterChange {update : World → World} {next : Unit → Act β} {gained : β → Multiset Asset}
    (compilers : ∀ world, ∃ compilers, update world = { world with compilers })
    (second : (next ()).Moves spent gained) : (Act.change update >>= next).Moves spent gained :=
  (change compilers).after (fun _ => ⟨(), _, rfl⟩) fun _ => second

theorem afterEmit {event : Event} {next : Unit → Act β} {gained : β → Multiset Asset}
    (plain : event.Plain) (second : (next ()).Moves spent gained) :
    (Act.emit event >>= next).Moves spent gained :=
  (emit plain).after (fun _ => ⟨(), _, rfl⟩) fun _ => second

theorem programMade (compiler : CompilerRef) :
    (Act.emit (.programMade compiler)).Moves 0 fun _ => {.program compiler} where
  retains world := .event world _
  balances {serial earlier rest world} start := by
    rw [add_zero] at start
    change World.Balances _ serial earlier (rest + {.program compiler})
    refine start.proceed rfl ?_ ?_
    · rw [memoryAt_add, memoryAt_program, add_zero]
      exact start.memory
    · rw [programsIn_add, add_comm]
      exact (zero_add _).symm

theorem programDestroyed (compiler : CompilerRef) :
    (Act.emit (.programDestroyed compiler)).Releases {.program compiler} where
  retains world := .event world _
  balances {serial earlier rest world} start := by
    rw [Exit.carried_nothing, add_zero]
    refine start.proceed rfl ?_ ?_
    · have memory := start.memory
      rwa [memoryAt_add, memoryAt_program, add_zero] at memory
    · rw [programsIn_add, add_comm (programsIn rest)]
      exact zero_add _

theorem leave {release : Act Unit} (released : release.Releases owned) {exit : Exit α}
    (empty : exit.carried gained = 0) {serial : Nat} {earlier : Multiset CompilerRef}
    {rest : Multiset Asset} {world : World} (balances : world.Balances serial earlier (rest + owned)) :
    (Act.leave exit release world).2.Balances serial earlier
      (rest + (Act.leave exit release world).1.carried gained) := by
  have finished := released.balances balances
  have same : (Act.leave exit release world).1.carried gained = 0 := by
    rcases leave_exit exit release world with kept | unwound
    · rw [kept, empty]
    · rw [unwound]
      rfl
  rw [leave_world, same]
  rwa [Exit.carried_nothing] at finished

theorem orRelease {release : Act Unit} (first : act.Moves 0 gained)
    (released : release.Releases owned) :
    (act.orRelease release).Moves owned fun value => gained value + owned where
  retains := first.retains.orRelease released.retains
  balances {serial earlier rest world} balances := by
    have start := first.balances (by rwa [add_zero])
    unfold Act.orRelease
    generalize act world = ran at start ⊢
    obtain ⟨exit, between⟩ := ran
    cases exit with
    | done value =>
        change between.Balances serial earlier (rest + (gained value + owned))
        rw [add_comm (gained value), ← add_assoc]
        exact start
    | failed error => exact leave released rfl (by simpa using start)
    | unwound => exact leave released rfl (by simpa using start)

theorem thenRelease {release : Act Unit} (first : act.Moves spent fun _ => 0)
    (released : release.Releases owned) :
    (act.thenRelease release).Moves (spent + owned) fun _ => 0 where
  retains := first.retains.thenRelease released.retains
  balances {serial earlier rest world} balances := by
    rw [add_comm spent, ← add_assoc] at balances
    have start := first.balances balances
    unfold Act.thenRelease
    generalize act world = ran at start ⊢
    obtain ⟨exit, between⟩ := ran
    exact leave released (Exit.carried_nothing exit) (by simpa using start)

theorem onFailure {remark : Error → Act Unit} (first : act.Moves spent gained)
    (remarked : ∀ error, (remark error).Idle) : (act.onFailure remark).Moves spent gained where
  retains := first.retains.onFailure fun error => (remarked error).retains
  balances {serial earlier rest world} balances := by
    have start := first.balances balances
    unfold Act.onFailure
    generalize act world = ran at start ⊢
    obtain ⟨exit, between⟩ := ran
    cases exit with
    | done value => exact start
    | unwound => exact start
    | failed error => exact ((remarked error).bind fun _ => fail error).balances start

theorem orFail {search : Act (Option α)} {found : Option α → Multiset Asset}
    (first : search.Moves spent found) (nothing : found none = 0) (error : Error) :
    (search.orFail error).Moves spent fun value => found (some value) := by
  refine first.bind fun answer => ?_
  cases answer with
  | none =>
      rw [nothing]
      exact fail error
  | some value => exact .pure value rfl

theorem ofExcept (result : Except Error α) : (Act.ofExcept result).Idle := by
  cases result with
  | error error => exact fail error
  | ok value => exact idle value

theorem log (record : Log.Record) : (Act.log record).Idle where
  retains world := { World.Retains.event world _ with }
  balances {serial earlier rest world} start := by
    have plain : (Event.logged record (world.logger.sink record.severity)).Plain := ⟨rfl, rfl⟩
    rw [Exit.carried_nothing]
    exact start.remark plain rfl rfl

theorem note (severity : Log.Severity) (source message : String) :
    (Act.note severity source message).Idle :=
  log _

theorem failLogged (error : Error) : (Act.failLogged error : Act α).Moves 0 gained :=
  (log (errorRecord error)).bind fun _ => fail error

end Moves

end Act

end ShaderDriver
