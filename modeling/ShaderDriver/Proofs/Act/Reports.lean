import ShaderDriver.Proofs.Act.Frame

namespace ShaderDriver

open Log

/-! What an action tells the log about errors: which of those it fails with are entered, and that
nothing else is entered as an error. -/

/-- The entry of an error. -/
def Event.reported? : Event → Option Record
  | .logged record _ => if record.severity = .error then some record else none
  | _ => none

/-- The entries of errors, in the order in which they were made. -/
def reports (events : List Event) : List Record :=
  events.filterMap Event.reported?

theorem reports_append (events more : List Event) :
    reports (events ++ more) = reports events ++ reports more :=
  List.filterMap_append

/-- The errors about handles and about the state of the driver; the others are about the code and the
memory that a caller provides. -/
def Error.isDriverError : Error → Bool
  | .invalidHandle _ => true
  | .initializationFailed _ => true
  | .outOfMemory => false
  | .invalidMemorySize => false
  | .badShaderCode => false

/-- The entries are those of this end: one for an error that is to be told, and none otherwise. How an
unwinding came about is not looked at. -/
def Exit.Reported {α : Type} (told : Error → Bool) (entries : List Record) : Exit α → Prop
  | .done _ => entries = []
  | .failed error => entries = if told error then [Act.errorRecord error] else []
  | .unwound => True

namespace Act

variable {α β : Type} {act : Act α} {next : α → Act β} {world : World} {told : Error → Bool}

/-- No error is entered in the log. -/
def discreet : Frame where
  related first second := ∃ events, second.trace = first.trace ++ events ∧ reports events = []
  refl world := ⟨[], (List.append_nil _).symm, rfl⟩
  trans := by
    rintro first second third ⟨events, start, none⟩ ⟨more, finish, further⟩
    refine ⟨events ++ more, by rw [finish, start, List.append_assoc], ?_⟩
    rw [reports_append, none, further, List.nil_append]

theorem change_discreet {update : World → World} (same : ∀ world, (update world).trace = world.trace) :
    discreet.Holds (change update) :=
  fun world => ⟨[], by rw [List.append_nil]; exact same world, rfl⟩

theorem emit_discreet {event : Event} (silent : event.reported? = none) :
    discreet.Holds (emit event) :=
  fun _ => ⟨[event], rfl, by simp [reports, silent]⟩

theorem log_discreet {record : Record} (lesser : record.severity ≠ .error) :
    discreet.Holds (log record) :=
  fun world => ⟨[.logged record (world.logger.sink record.severity)], rfl, by
    simp [reports, Event.reported?, lesser]⟩

theorem note_discreet (severity : Severity) (source message : String)
    (lesser : severity ≠ .error := by decide) : discreet.Holds (note severity source message) :=
  log_discreet lesser

/-- However the action ends, the log has been told of the errors as it should be. -/
def Reports (told : Error → Bool) (act : Act α) : Prop :=
  ∀ world, ∃ events, (act world).2.trace = world.trace ++ events ∧
    (act world).1.Reported told (reports events)

namespace Reports

/-- An action that tells nothing fails only with errors that are not to be told. -/
theorem of_discreet (quiet : discreet.Holds act)
    (untold : ∀ world error, (act world).1 = .failed error → told error = false) :
    Reports told act := by
  intro world
  obtain ⟨events, trace, none⟩ := quiet world
  refine ⟨events, trace, ?_⟩
  cases exit : (act world).1 with
  | done value => exact none
  | unwound => trivial
  | failed error =>
      change reports events = _
      rw [none, untold world error exit]
      rfl

theorem pure (value : α) : Reports told (Pure.pure value : Act α) :=
  of_discreet (.pure value) (fun _ _ impossible => by cases impossible)

theorem read (view : World → α) : Reports told (Act.read view) :=
  of_discreet (.read view) (fun _ _ impossible => by cases impossible)

theorem unwind : Reports told (Act.unwind : Act α) :=
  of_discreet .unwind (fun _ _ impossible => by cases impossible)

theorem fail {error : Error} (untold : told error = false) :
    Reports told (Act.fail error : Act α) :=
  of_discreet (.fail error) (fun _ _ failed => by cases failed; exact untold)

theorem ofExcept {result : Except Error α}
    (untold : ∀ error, result = .error error → told error = false) :
    Reports told (Act.ofExcept result) := by
  cases result with
  | error error => exact fail (untold error rfl)
  | ok value => exact pure value

theorem change {update : World → World} (same : ∀ world, (update world).trace = world.trace) :
    Reports told (Act.change update) :=
  of_discreet (change_discreet same) (fun _ _ impossible => by cases impossible)

theorem emit {event : Event} (silent : event.reported? = none) : Reports told (Act.emit event) :=
  of_discreet (emit_discreet silent) (fun _ _ impossible => by cases impossible)

theorem freshSerial : Reports told Act.freshSerial :=
  of_discreet (fun _ => ⟨[], (List.append_nil _).symm, rfl⟩) (fun _ _ impossible => by cases impossible)

theorem log {record : Record} (lesser : record.severity ≠ .error) : Reports told (Act.log record) :=
  of_discreet (log_discreet lesser) fun world error failed =>
    absurd failed (log_unfailing record world error)

theorem note (severity : Severity) (source message : String)
    (lesser : severity ≠ .error := by decide) : Reports told (Act.note severity source message) :=
  log lesser

/-- What comes after an action adds its entries to those of a success, of which there are none. -/
theorem bind (first : Reports told act) (second : ∀ value, Reports told (next value)) :
    Reports told (act >>= next) := by
  intro world
  obtain ⟨events, start, entered⟩ := first world
  rw [bind_apply]
  generalize act world = ran at start entered
  obtain ⟨exit, middle⟩ := ran
  cases exit with
  | failed error => exact ⟨events, start, entered⟩
  | unwound => exact ⟨events, start, entered⟩
  | done value =>
      have none : reports events = [] := entered
      obtain ⟨more, finish, further⟩ := second value middle
      refine ⟨events ++ more, by rw [finish, start, List.append_assoc], ?_⟩
      rwa [reports_append, none, List.nil_append]

/-- What is released on the way out tells nothing. -/
theorem left {release : Act Unit} (quiet : discreet.Holds release) {exit : Exit α}
    {middle : World} {events : List Event} (start : middle.trace = world.trace ++ events)
    (entered : exit.Reported told (reports events)) :
    ∃ events, (leave exit release middle).2.trace = world.trace ++ events ∧
      (leave exit release middle).1.Reported told (reports events) := by
  obtain ⟨more, finish, none⟩ := quiet middle
  refine ⟨events ++ more, by rw [leave_world, finish, start, List.append_assoc], ?_⟩
  rw [reports_append, none, List.append_nil]
  rcases leave_exit exit release middle with same | unwound
  · rwa [same]
  · rw [unwound]
    trivial

theorem orRelease {release : Act Unit} (first : Reports told act) (quiet : discreet.Holds release) :
    Reports told (act.orRelease release) := by
  intro world
  obtain ⟨events, start, entered⟩ := first world
  unfold Act.orRelease
  generalize act world = ran at start entered ⊢
  obtain ⟨exit, middle⟩ := ran
  cases exit with
  | done value => exact ⟨events, start, entered⟩
  | failed error => exact left quiet start entered
  | unwound => exact left quiet start entered

theorem thenRelease {release : Act Unit} (first : Reports told act)
    (quiet : discreet.Holds release) : Reports told (act.thenRelease release) := by
  intro world
  obtain ⟨events, start, entered⟩ := first world
  unfold Act.thenRelease
  generalize act world = ran at start entered ⊢
  obtain ⟨exit, middle⟩ := ran
  exact left quiet start entered

/-- A remark between a failure and its being passed on is not about the error. -/
theorem onFailure {remark : Error → Act Unit} (first : Reports told act)
    (remarked : ∀ error, discreet.Holds (remark error))
    (unfailing : ∀ error, (remark error).Unfailing) :
    Reports told (act.onFailure remark) := by
  intro world
  obtain ⟨events, start, entered⟩ := first world
  unfold Act.onFailure
  generalize act world = ran at start entered ⊢
  obtain ⟨exit, middle⟩ := ran
  cases exit with
  | done value => exact ⟨events, start, entered⟩
  | unwound => exact ⟨events, start, entered⟩
  | failed error =>
      obtain ⟨more, finish, none⟩ := remarked error middle
      have calm := unfailing error middle
      change ∃ events, ((remark error >>= fun _ => (Act.fail error : Act α)) middle).2.trace = _ ∧
        Exit.Reported told _ ((remark error >>= fun _ => (Act.fail error : Act α)) middle).1
      rw [bind_apply]
      generalize remark error middle = said at finish calm
      obtain ⟨ending, last⟩ := said
      refine ⟨events ++ more, ?_⟩
      rw [reports_append, none, List.append_nil]
      have trace : last.trace = world.trace ++ (events ++ more) := by
        rw [← List.append_assoc, ← start, ← finish]
      cases ending with
      | done _ => exact ⟨trace, entered⟩
      | failed other => exact absurd rfl (calm other)
      | unwound => exact ⟨trace, trivial⟩

end Reports

end Act

end ShaderDriver
