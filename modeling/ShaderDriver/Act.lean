import ShaderDriver.World

namespace ShaderDriver

/-! Actions of the driver. An action finishes, fails with an error, or unwinds because something
panicked; whatever it does to the world stays done, and owners on its way out release what they own.
-/

inductive Exit (α : Type) where
  | done (value : α)
  | failed (error : Error)
  | unwound
deriving DecidableEq, Repr

def Act (α : Type) : Type := World → Exit α × World

namespace Act

variable {α β : Type}

protected def pure (value : α) : Act α :=
  fun world => (.done value, world)

protected def bind (act : Act α) (next : α → Act β) : Act β := fun world =>
  match act world with
  | (.done value, after) => next value after
  | (.failed error, after) => (.failed error, after)
  | (.unwound, after) => (.unwound, after)

instance : Monad Act where
  pure := Act.pure
  bind := Act.bind

variable {act : Act α} {next : α → Act β} {world after : World}

@[simp] theorem pure_run (value : α) (world : World) :
    (pure value : Act α) world = (.done value, world) := rfl

theorem bind_done {value : α} (finished : act world = (.done value, after)) :
    (act >>= next) world = next value after := by
  change Act.bind act next world = _
  unfold Act.bind
  rw [finished]

theorem bind_failed {error : Error} (failed : act world = (.failed error, after)) :
    (act >>= next) world = (.failed error, after) := by
  change Act.bind act next world = _
  unfold Act.bind
  rw [failed]

theorem bind_unwound (unwound : act world = (.unwound, after)) :
    (act >>= next) world = (.unwound, after) := by
  change Act.bind act next world = _
  unfold Act.bind
  rw [unwound]

protected theorem map_id (act : Act α) : id <$> act = act := by
  funext world
  change Act.bind act _ world = act world
  unfold Act.bind
  rcases act world with ⟨exit, after⟩
  cases exit <;> rfl

protected theorem bind_assoc {γ : Type} (act : Act α) (first : α → Act β) (second : β → Act γ) :
    act >>= first >>= second = act >>= fun value => first value >>= second := by
  funext world
  change Act.bind (Act.bind act first) second world = Act.bind act _ world
  unfold Act.bind
  rcases act world with ⟨exit, after⟩
  cases exit <;> rfl

instance : LawfulMonad Act :=
  LawfulMonad.mk' Act Act.map_id (fun _ _ => rfl) Act.bind_assoc

def fail (error : Error) : Act α :=
  fun world => (.failed error, world)

/-- Panics. -/
def unwind : Act α :=
  fun world => (.unwound, world)

def read (view : World → α) : Act α :=
  fun world => (.done (view world), world)

def change (update : World → World) : Act Unit :=
  fun world => (.done (), update world)

def emit (event : Event) : Act Unit :=
  change fun world => { world with trace := world.trace ++ [event] }

/-- A serial number that nothing has had before. -/
def freshSerial : Act Nat :=
  fun world => (.done world.nextSerial, { world with nextSerial := world.nextSerial + 1 })

/-- What is left to do on the way out of an action: the release runs, and the action ends as it did
or by the panic of the release. -/
def leave (exit : Exit α) (release : Act Unit) : Act α := fun world =>
  match release world with
  | (.unwound, after) => (.unwound, after)
  | (_, after) => (exit, after)

/-- An action during which something is owned that has to be released unless the action finishes. -/
def orRelease (act : Act α) (release : Act Unit) : Act α := fun world =>
  match act world with
  | (.done value, after) => (.done value, after)
  | (exit, after) => leave exit release after

/-- An action after which something is released in any case. -/
def thenRelease (act : Act α) (release : Act Unit) : Act α := fun world =>
  match act world with
  | (exit, after) => leave exit release after

/-- An action with something to be done between a failure and its being passed on. -/
def onFailure (act : Act α) (remark : Error → Act Unit) : Act α := fun world =>
  match act world with
  | (.failed error, after) => Act.bind (remark error) (fun _ => fail error) after
  | finished => finished

/-- An action that fails where it would find nothing. -/
def orFail (act : Act (Option α)) (error : Error) : Act α :=
  Act.bind act fun
    | some value => Act.pure value
    | none => fail error

def ofExcept : Except Error α → Act α
  | .ok value => Act.pure value
  | .error error => fail error

/-- Releases one thing after the other; a panic in one does not keep the others. -/
def releaseEach (release : α → Act Unit) : List α → Act Unit
  | [] => Act.pure ()
  | item :: rest => (release item).thenRelease (releaseEach release rest)

end Act

end ShaderDriver
