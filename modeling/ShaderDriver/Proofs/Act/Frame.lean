import ShaderDriver.Log.Report

namespace ShaderDriver.Act

open Log

/-! How actions end, and what holds between the worlds before and after them. -/

variable {α β : Type} {act : Act α} {next : α → Act β} {world after : World}

theorem bind_apply (act : Act α) (next : α → Act β) (world : World) :
    (act >>= next) world =
      match act world with
      | (.done value, after) => next value after
      | (.failed error, after) => (.failed error, after)
      | (.unwound, after) => (.unwound, after) := rfl

theorem read_bind (view : World → α) (next : α → Act β) (world : World) :
    (read view >>= next) world = next (view world) world := rfl

theorem bind_eq_done {value : β} :
    (act >>= next) world = (.done value, after) ↔
      ∃ first middle, act world = (.done first, middle) ∧
        next first middle = (.done value, after) := by
  rw [bind_apply]
  rcases act world with ⟨exit, middle⟩
  cases exit with
  | failed error => simp
  | unwound => simp
  | done first =>
      constructor
      · exact fun finished => ⟨first, middle, rfl, finished⟩
      · rintro ⟨_, _, same, finished⟩
        cases same
        exact finished

theorem bind_keeps (kept : World → Prop) (first : kept (act world).2)
    (second : ∀ value after, act world = (.done value, after) → kept after →
      kept (next value after).2) : kept ((act >>= next) world).2 := by
  rw [bind_apply]
  rcases ran : act world with ⟨exit, after⟩
  rw [ran] at first
  cases exit with
  | done value => exact second value after ran first
  | failed error => exact first
  | unwound => exact first

theorem map_world (act : Act α) (view : α → β) (world : World) :
    ((act >>= fun value => Pure.pure (view value)) world).2 = (act world).2 := by
  rw [bind_apply]
  rcases act world with ⟨exit, after⟩
  cases exit <;> rfl

theorem leave_world (exit : Exit α) (release : Act Unit) (world : World) :
    (leave exit release world).2 = (release world).2 := by
  unfold leave
  rcases release world with ⟨ending, last⟩
  cases ending <;> rfl

theorem thenRelease_world (act : Act α) (release : Act Unit) (world : World) :
    (act.thenRelease release world).2 = (release (act world).2).2 :=
  leave_world (act world).1 release (act world).2

theorem leave_exit (exit : Exit α) (release : Act Unit) (world : World) :
    (leave exit release world).1 = exit ∨ (leave exit release world).1 = .unwound := by
  unfold leave
  rcases release world with ⟨ending, last⟩
  cases ending
  · exact .inl rfl
  · exact .inl rfl
  · exact .inr rfl

theorem thenRelease_exit (act : Act α) (release : Act Unit) (world : World) :
    (act.thenRelease release world).1 = (act world).1 ∨
      (act.thenRelease release world).1 = .unwound :=
  leave_exit (act world).1 release (act world).2

theorem orRelease_eq_done {release : Act Unit} {value : α} :
    act.orRelease release world = (.done value, after) ↔ act world = (.done value, after) := by
  unfold orRelease leave
  rcases act world with ⟨exit, middle⟩
  rcases finished : release middle with ⟨released, last⟩
  cases exit <;> cases released <;> simp [finished]

theorem onFailure_eq_done {remark : Error → Act Unit} {value : α} :
    act.onFailure remark world = (.done value, after) ↔ act world = (.done value, after) := by
  unfold onFailure
  rcases act world with ⟨exit, middle⟩
  cases exit with
  | done value => simp
  | unwound => simp
  | failed error =>
      change ((remark error >>= fun _ => fail error) middle = _) ↔ _
      rw [bind_apply]
      rcases remark error middle with ⟨remarked, last⟩
      cases remarked <;> simp [fail]

theorem orFail_eq_done {search : Act (Option α)} {error : Error} {value : α} :
    search.orFail error world = (.done value, after) ↔
      search world = (.done (some value), after) := by
  change (search >>= _) world = _ ↔ _
  rw [bind_apply]
  rcases search world with ⟨exit, middle⟩
  cases exit with
  | failed error => simp
  | unwound => simp
  | done found => cases found <;> simp [fail, Act.pure]

theorem ofExcept_eq_done {result : Except Error α} {value : α} :
    ofExcept result world = (.done value, after) ↔ result = .ok value ∧ world = after := by
  cases result <;> simp [ofExcept, fail, Act.pure]

/-! Ends other than failures. -/

/-- The action finishes or unwinds. -/
def Unfailing (act : Act α) : Prop :=
  ∀ world error, (act world).1 ≠ .failed error

theorem thenRelease_unfailing {act : Act α} {world : World}
    (unfailing : ∀ error, (act world).1 ≠ .failed error) (release : Act Unit) (error : Error) :
    (act.thenRelease release world).1 ≠ .failed error := by
  intro failed
  rcases thenRelease_exit act release world with kept | unwound
  · exact unfailing error (kept.symm.trans failed)
  · cases unwound.symm.trans failed

theorem Unfailing.thenRelease {act : Act α} (unfailing : act.Unfailing) (release : Act Unit) :
    (act.thenRelease release).Unfailing :=
  fun world => thenRelease_unfailing (unfailing world) release

theorem Unfailing.emit {event : Event} {next : Act β} (unfailing : next.Unfailing) :
    (Act.emit event >>= fun _ => next).Unfailing :=
  fun _ => unfailing _

theorem log_unfailing (record : Log.Record) : (Act.log record).Unfailing := by
  intro world error
  unfold Act.log
  rcases world.logger.receive record.severity with ⟨panics, next⟩
  cases panics <;> nofun

/-- A relation between worlds that actions carried out in a row keep. -/
structure Frame where
  related : World → World → Prop
  refl : ∀ world, related world world
  trans : ∀ {first second third : World},
    related first second → related second third → related first third

namespace Frame

/-- However the action ends, it ends in a world that is related to the one it began in. -/
def Holds (frame : Frame) (act : Act α) : Prop :=
  ∀ world, frame.related world (act world).2

variable {frame : Frame}

theorem Holds.pure (value : α) : frame.Holds (Pure.pure value : Act α) :=
  frame.refl

theorem Holds.fail (error : Error) : frame.Holds (Act.fail error : Act α) :=
  frame.refl

theorem Holds.unwind : frame.Holds (Act.unwind : Act α) :=
  frame.refl

theorem Holds.read (view : World → α) : frame.Holds (Act.read view) :=
  frame.refl

theorem Holds.bind (first : frame.Holds act) (second : ∀ value, frame.Holds (next value)) :
    frame.Holds (act >>= next) := by
  intro world
  have start := first world
  rw [bind_apply]
  generalize act world = ran at start ⊢
  obtain ⟨exit, middle⟩ := ran
  cases exit with
  | done value => exact frame.trans start (second value middle)
  | failed error => exact start
  | unwound => exact start

theorem Holds.leave {release : Act Unit} (released : frame.Holds release) (exit : Exit α) :
    frame.Holds (Act.leave exit release) := by
  intro world
  rw [leave_world]
  exact released world

theorem Holds.orRelease {release : Act Unit} (first : frame.Holds act)
    (released : frame.Holds release) : frame.Holds (act.orRelease release) := by
  intro world
  have start := first world
  unfold Act.orRelease
  generalize act world = ran at start ⊢
  obtain ⟨exit, middle⟩ := ran
  cases exit with
  | done value => exact start
  | failed error => exact frame.trans start (released.leave _ middle)
  | unwound => exact frame.trans start (released.leave _ middle)

theorem Holds.thenRelease {release : Act Unit} (first : frame.Holds act)
    (released : frame.Holds release) : frame.Holds (act.thenRelease release) := by
  intro world
  have start := first world
  unfold Act.thenRelease
  generalize act world = ran at start ⊢
  obtain ⟨exit, middle⟩ := ran
  exact frame.trans start (released.leave exit middle)

theorem Holds.onFailure {remark : Error → Act Unit} (first : frame.Holds act)
    (remarked : ∀ error, frame.Holds (remark error)) : frame.Holds (act.onFailure remark) := by
  intro world
  have start := first world
  unfold Act.onFailure
  generalize act world = ran at start ⊢
  obtain ⟨exit, middle⟩ := ran
  cases exit with
  | done value => exact start
  | unwound => exact start
  | failed error =>
      exact frame.trans start (((remarked error).bind fun _ => .fail error) middle)

theorem Holds.orFail {search : Act (Option α)} (first : frame.Holds search) (error : Error) :
    frame.Holds (search.orFail error) := by
  refine first.bind fun found => ?_
  cases found with
  | none => exact .fail error
  | some value => exact .pure value

theorem Holds.ofExcept (result : Except Error α) : frame.Holds (Act.ofExcept result) := by
  cases result with
  | error error => exact .fail error
  | ok value => exact .pure value

theorem Holds.releaseEach {release : α → Act Unit} {items : List α}
    (each : ∀ item ∈ items, frame.Holds (release item)) :
    frame.Holds (Act.releaseEach release items) := by
  induction items with
  | nil => exact .pure ()
  | cons item rest ih =>
      exact (each item (by simp)).thenRelease (ih fun other member => each other (by simp [member]))

end Frame

end ShaderDriver.Act
