import ShaderDriver.Proofs.Act.Frame

namespace ShaderDriver.Act

/-! Actions that take no notice of a part of the world: turning it before they run or after comes to
the same. -/

variable {α β : Type} {turn : World → World} {act : Act α} {next : α → Act β} {release : Act Unit}

/-- The action ends alike in a world that is turned, and leaves what it would have left, turned. -/
def Heedless (turn : World → World) (act : Act α) : Prop :=
  ∀ world, act (turn world) = ((act world).1, turn (act world).2)

namespace Heedless

theorem pure (value : α) : Heedless turn (Pure.pure value : Act α) :=
  fun _ => rfl

theorem fail (error : Error) : Heedless turn (Act.fail error : Act α) :=
  fun _ => rfl

theorem change {update : World → World}
    (commutes : ∀ world, update (turn world) = turn (update world)) :
    Heedless turn (Act.change update) :=
  fun world => congrArg _ (commutes world)

theorem bind (first : Heedless turn act) (second : ∀ value, Heedless turn (next value)) :
    Heedless turn (act >>= next) := by
  intro world
  rw [bind_apply, bind_apply, first world]
  rcases act world with ⟨exit, middle⟩
  cases exit with
  | done value => exact second value middle
  | failed error => rfl
  | unwound => rfl

theorem leave (released : Heedless turn release) (exit : Exit α) :
    Heedless turn (Act.leave exit release) := by
  intro world
  unfold Act.leave
  rw [released world]
  rcases release world with ⟨ending, last⟩
  cases ending <;> rfl

theorem orRelease (first : Heedless turn act) (released : Heedless turn release) :
    Heedless turn (act.orRelease release) := by
  intro world
  unfold Act.orRelease
  rw [first world]
  rcases act world with ⟨exit, middle⟩
  cases exit with
  | done value => rfl
  | failed error => exact released.leave _ middle
  | unwound => exact released.leave _ middle

theorem thenRelease (first : Heedless turn act) (released : Heedless turn release) :
    Heedless turn (act.thenRelease release) := by
  intro world
  unfold Act.thenRelease
  rw [first world]
  rcases act world with ⟨exit, middle⟩
  exact released.leave exit middle

theorem onFailure {remark : Error → Act Unit} (first : Heedless turn act)
    (remarked : ∀ error, Heedless turn (remark error)) : Heedless turn (act.onFailure remark) := by
  intro world
  unfold Act.onFailure
  rw [first world]
  rcases act world with ⟨exit, middle⟩
  cases exit with
  | done value => rfl
  | unwound => rfl
  | failed error => exact (remarked error).bind (fun _ => fail error) middle

theorem orFail {search : Act (Option α)} (first : Heedless turn search) (error : Error) :
    Heedless turn (search.orFail error) := by
  refine first.bind fun found => ?_
  cases found with
  | none => exact fail error
  | some value => exact pure value

end Heedless

end ShaderDriver.Act
