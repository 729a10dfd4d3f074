import ShaderDriver.Proofs.Act.Leeway

namespace ShaderDriver

open Memory

/-! Actions that go on alike from worlds that look alike, provided that no memory is refused, not for
what is not looked at either. -/

variable {α β γ δ : Type} {leeway : Leeway} {heap : Heap} {view : α → γ}

/-- The values look alike, or the errors are the same, or there is neither. -/
inductive Exit.Matches (view : α → γ) : Exit α → Exit α → Prop where
  | done {value image : α} (same : view value = view image) : Matches view (.done value) (.done image)
  | failed (error : Error) : Matches view (.failed error) (.failed error)
  | unwound : Matches view .unwound .unwound

theorem Exit.Matches.refl (exit : Exit α) : exit.Matches view exit := by
  cases exit with
  | done value => exact .done rfl
  | failed error => exact .failed error
  | unwound => exact .unwound

theorem Exit.Matches.recast {glance : α → δ} {exit ending : Exit α} (matched : exit.Matches view ending)
    (less : ∀ value image, view value = view image → glance value = glance image) :
    exit.Matches glance ending := by
  cases matched with
  | done same => exact .done (less _ _ same)
  | failed error => exact .failed error
  | unwound => exact .unwound

def Event.refused : Event → Bool
  | .requested _ _ _ _ granted => !granted
  | _ => false

/-- Where records are not looked at, no memory was refused, and every account is in order. -/
def World.Eased : Leeway → World → Prop
  | .loggers, _ => True
  | .records, world => ¬ world.Faulty ∧ ∀ event ∈ world.trace, event.refused = false

namespace Act

/-! Combinators, as what is done on any end of an action. -/

/-- The action is over, and it ended so. -/
def ended (exit : Exit α) : Act α :=
  fun world => (exit, world)

def proceed (act : Act α) (rest : Exit α → Act β) : Act β :=
  fun world => rest (act world).1 (act world).2

/-- Only a value is gone on with. -/
def goOn (next : α → Act β) : Exit α → Act β
  | .done value => next value
  | .failed error => ended (.failed error)
  | .unwound => ended .unwound

theorem bind_eq_proceed (act : Act α) (next : α → Act β) :
    act >>= next = act.proceed (goOn next) := by
  funext world
  rw [bind_apply, proceed]
  rcases act world with ⟨exit, after⟩
  cases exit <;> rfl

theorem leave_eq_proceed (exit : Exit α) (release : Act Unit) :
    leave exit release = release.proceed fun
      | .unwound => ended .unwound
      | _ => ended exit := by
  funext world
  unfold leave proceed
  rcases release world with ⟨released, after⟩
  cases released <;> rfl

theorem orRelease_eq_proceed (act : Act α) (release : Act Unit) :
    act.orRelease release = act.proceed fun
      | .done value => ended (.done value)
      | exit => leave exit release := by
  funext world
  unfold orRelease proceed
  rcases act world with ⟨exit, after⟩
  cases exit <;> rfl

theorem onFailure_eq_proceed (act : Act α) (remark : Error → Act Unit) :
    act.onFailure remark = act.proceed fun
      | .failed error => remark error >>= fun _ => fail error
      | exit => ended exit := by
  funext world
  unfold onFailure proceed
  rcases act world with ⟨exit, after⟩
  cases exit <;> rfl

/-- A refusal stays in the trace, and a fault in its account. -/
def eased (leeway : Leeway) : Frame where
  related first second := second.Eased leeway → first.Eased leeway
  refl _ := id
  trans first second := first ∘ second

theorem eased_of {first second : World} (lasting : first.Faulty → second.Faulty)
    (grows : first.trace ⊆ second.trace) : (eased leeway).related first second := by
  cases leeway with
  | loggers => exact fun _ => trivial
  | records =>
      exact fun ⟨sane, granted⟩ =>
        ⟨fun faulty => sane (lasting faulty), fun event member => granted event (grows member)⟩

theorem eased_of_same {first second : World} (allocators : second.allocators = first.allocators)
    (trace : second.trace = first.trace) : (eased leeway).related first second :=
  eased_of (fun faulty => faulty.moved allocators) (fun _ member => trace ▸ member)

theorem eased_of_explained {act : Act α} (explained : Explained none True act) :
    (eased leeway).Holds act := by
  intro world
  obtain ⟨events, passes, _⟩ := (explained world).reason
  refine eased_of (explained world).lasting ?_
  rw [passes.trace]
  exact List.subset_append_left _ _

/-- Both actions come to ends that look alike. -/
def Mimics (leeway : Leeway) (heap : Heap) (view : α → γ) (act other : Act α) : Prop :=
  ∀ world image, world.Alike leeway heap image → (act world).2.Eased leeway →
    (other image).2.Eased leeway →
    (act world).1.Matches view (other image).1 ∧ (act world).2.Alike leeway heap (other image).2

structure Mirrors (leeway : Leeway) (heap : Heap) (view : α → γ) (act other : Act α) : Prop where
  first : (eased leeway).Holds act
  second : (eased leeway).Holds other
  mimics : Mimics leeway heap view act other

/-- The actions go on alike and finish with the same values. -/
abbrev Echoes (leeway : Leeway) (heap : Heap) (act other : Act α) : Prop :=
  Mirrors leeway heap id act other

variable {act other : Act α} {next onward : α → Act β} {release undo : Act Unit}

/-- What comes after an action finds the memory granted that was asked for in it. -/
theorem Mimics.proceed {final : β → δ} {rest onward : Exit α → Act β}
    (begun : Mimics leeway heap view act other)
    (goes : ∀ exit ending, exit.Matches view ending →
      Mirrors leeway heap final (rest exit) (onward ending)) :
    Mimics leeway heap final (act.proceed rest) (other.proceed onward) := by
  intro world image alike first second
  have granted := (goes _ _ (.refl (act world).1)).first _ first
  have conceded := (goes _ _ (.refl (other image).1)).second _ second
  obtain ⟨matched, closer⟩ := begun world image alike granted conceded
  exact (goes _ _ matched).mimics _ _ closer first second

namespace Mirrors

theorem ended {exit ending : Exit α} (matched : exit.Matches view ending) :
    Mirrors leeway heap view (Act.ended exit) (Act.ended ending) :=
  ⟨fun _ => id, fun _ => id, fun _ _ alike _ _ => ⟨matched, alike⟩⟩

theorem proceed {final : β → δ} {rest onward : Exit α → Act β}
    (begun : Mirrors leeway heap view act other)
    (goes : ∀ exit ending, exit.Matches view ending →
      Mirrors leeway heap final (rest exit) (onward ending)) :
    Mirrors leeway heap final (act.proceed rest) (other.proceed onward) where
  first world granted := begun.first world ((goes _ _ (.refl _)).first _ granted)
  second world granted := begun.second world ((goes _ _ (.refl _)).second _ granted)
  mimics := begun.mimics.proceed goes

theorem pure {value image : α} (same : view value = view image) :
    Mirrors leeway heap view (Pure.pure value : Act α) (Pure.pure image) :=
  ended (.done same)

theorem fail (error : Error) : Mirrors leeway heap view (Act.fail error : Act α) (Act.fail error) :=
  ended (.failed error)

theorem unwind : Mirrors leeway heap view (Act.unwind : Act α) Act.unwind :=
  ended .unwound

theorem goOn {final : β → δ} (rest : ∀ value image, view value = view image →
    Mirrors leeway heap final (next value) (onward image)) {exit ending : Exit α}
    (matched : exit.Matches view ending) :
    Mirrors leeway heap final (Act.goOn next exit) (Act.goOn onward ending) := by
  cases matched with
  | done same => exact rest _ _ same
  | failed error => exact ended (.failed error)
  | unwound => exact ended .unwound

theorem bind {final : β → δ} (begun : Mirrors leeway heap view act other)
    (rest : ∀ value image, view value = view image →
      Mirrors leeway heap final (next value) (onward image)) :
    Mirrors leeway heap final (act >>= next) (other >>= onward) := by
  rw [bind_eq_proceed, bind_eq_proceed]
  exact begun.proceed fun _ _ => goOn rest

/-- Values that look alike do so to someone who sees less. -/
theorem recast {glance : α → δ} (begun : Mirrors leeway heap view act other)
    (less : ∀ value image, view value = view image → glance value = glance image) :
    Mirrors leeway heap glance act other := by
  refine ⟨begun.first, begun.second, fun world image alike easy fine => ?_⟩
  obtain ⟨matched, closer⟩ := begun.mimics world image alike easy fine
  exact ⟨matched.recast less, closer⟩

theorem andThen {final : β → δ} (begun : Echoes leeway heap act other)
    (rest : ∀ value, Mirrors leeway heap final (next value) (onward value)) :
    Mirrors leeway heap final (act >>= next) (other >>= onward) := by
  refine begun.bind fun value image same => ?_
  cases same
  exact rest value

theorem read {look glance : World → α}
    (same : ∀ world image, World.Alike leeway heap world image →
      view (look world) = view (glance image)) :
    Mirrors leeway heap view (Act.read look) (Act.read glance) :=
  ⟨.read look, .read glance, fun world image alike _ _ => ⟨.done (same world image alike), alike⟩⟩

theorem change {update echo : World → World} (first : (eased leeway).Holds (Act.change update))
    (second : (eased leeway).Holds (Act.change echo))
    (alike : ∀ world image, World.Alike leeway heap world image →
      (update world).Alike leeway heap (echo image)) :
    Echoes leeway heap (Act.change update) (Act.change echo) :=
  ⟨first, second, fun world image same _ _ => ⟨.done rfl, alike world image same⟩⟩

theorem emit {event echo : Event} (same : event.seen? leeway = echo.seen? leeway) :
    Echoes leeway heap (Act.emit event) (Act.emit echo) := by
  refine .change (fun world => eased_of id (List.subset_append_left _ _))
    (fun world => eased_of id (List.subset_append_left _ _)) fun world image alike => ?_
  refine { alike with trace := ?_ }
  change (world.trace ++ [event]).filterMap _ = (image.trace ++ [echo]).filterMap _
  rw [List.filterMap_append, List.filterMap_append, alike.trace]
  simp only [List.filterMap_cons, same]

theorem readHeap : Echoes leeway heap (Act.read World.heap) (Act.read World.heap) :=
  .read fun _ _ alike => alike.here.trans alike.there.symm

theorem freshSerial : Echoes leeway heap Act.freshSerial Act.freshSerial := by
  refine ⟨fun _ => eased_of_same rfl rfl, fun _ => eased_of_same rfl rfl,
    fun world image alike _ _ => ⟨.done alike.nextSerial, ?_⟩⟩
  exact { alike with nextSerial := congrArg (· + 1) alike.nextSerial }

/-- Whether the logger panics does not depend on what is not looked at. -/
theorem log (record : Log.Record) : Echoes leeway heap (Act.log record) (Act.log record) := by
  have grows (world : World) : (eased leeway).related world (Act.log record world).2 :=
    eased_of id (List.subset_append_left _ _)
  refine ⟨grows, grows, fun world image alike _ _ => ?_⟩
  obtain ⟨panics, next⟩ := alike.logger.receive record.severity
  constructor
  · change Exit.Matches id (if (world.logger.receive record.severity).1 then .unwound else .done ()) _
    rw [panics]
    exact .refl _
  · refine { alike with logger := next, trace := ?_ }
    change (world.trace ++ [_]).filterMap _ = (image.trace ++ [_]).filterMap _
    rw [List.filterMap_append, List.filterMap_append, alike.trace]
    simp only [List.filterMap_cons, Event.seen?, alike.logger.sink]

theorem note (severity : Log.Severity) (source message : String) :
    Echoes leeway heap (Act.note severity source message) (Act.note severity source message) :=
  log _

theorem failLogged (error : Error) :
    Mirrors leeway heap view (Act.failLogged error : Act α) (Act.failLogged error) :=
  (log _).andThen fun _ => fail error

theorem ofExcept (result : Except Error α) :
    Echoes leeway heap (Act.ofExcept result) (Act.ofExcept result) := by
  cases result with
  | error error => exact fail error
  | ok value => exact pure rfl

theorem orFail {search find : Act (Option α)} (begun : Echoes leeway heap search find) (error : Error) :
    Echoes leeway heap (search.orFail error) (find.orFail error) := by
  refine begun.andThen fun found => ?_
  cases found with
  | none => exact fail error
  | some value => exact pure rfl

theorem leave {exit ending : Exit α} (matched : exit.Matches view ending)
    (released : Echoes leeway heap release undo) :
    Mirrors leeway heap view (Act.leave exit release) (Act.leave ending undo) := by
  rw [leave_eq_proceed, leave_eq_proceed]
  refine released.proceed fun done undone same => ?_
  cases same with
  | done _ => exact ended matched
  | failed error => exact ended matched
  | unwound => exact ended .unwound

theorem thenRelease (begun : Mirrors leeway heap view act other)
    (released : Echoes leeway heap release undo) :
    Mirrors leeway heap view (act.thenRelease release) (other.thenRelease undo) :=
  begun.proceed fun _ _ matched => leave matched released

theorem orRelease (begun : Mirrors leeway heap view act other)
    (released : Echoes leeway heap release undo) :
    Mirrors leeway heap view (act.orRelease release) (other.orRelease undo) := by
  rw [orRelease_eq_proceed, orRelease_eq_proceed]
  refine begun.proceed fun exit ending matched => ?_
  cases matched with
  | done same => exact ended (.done same)
  | failed error => exact leave (.failed error) released
  | unwound => exact leave .unwound released

theorem onFailure {remark aside : Error → Act Unit} (begun : Mirrors leeway heap view act other)
    (remarked : ∀ error, Echoes leeway heap (remark error) (aside error)) :
    Mirrors leeway heap view (act.onFailure remark) (other.onFailure aside) := by
  rw [onFailure_eq_proceed, onFailure_eq_proceed]
  refine begun.proceed fun exit ending matched => ?_
  cases matched with
  | done same => exact ended (.done same)
  | failed error => exact (remarked error).andThen fun _ => fail error
  | unwound => exact ended .unwound

theorem releaseEach {release : α → Act Unit} {items images : List α}
    (same : items.map view = images.map view)
    (each : ∀ item image, view item = view image → Echoes leeway heap (release item) (release image)) :
    Echoes leeway heap (Act.releaseEach release items) (Act.releaseEach release images) := by
  induction items generalizing images with
  | nil =>
      obtain rfl : images = [] := List.map_eq_nil_iff.mp same.symm
      exact pure rfl
  | cons item rest ih =>
      obtain ⟨image, others, rfl, first, more⟩ := List.map_eq_cons_iff.mp same.symm
      exact (each item image first.symm).thenRelease (ih more.symm)

end Mirrors

theorem Mimics.bind {final : β → δ} (begun : Mimics leeway heap view act other)
    (rest : ∀ value image, view value = view image →
      Mirrors leeway heap final (next value) (onward image)) :
    Mimics leeway heap final (act >>= next) (other >>= onward) := by
  rw [bind_eq_proceed, bind_eq_proceed]
  exact begun.proceed fun _ _ => Mirrors.goOn rest

/-! Actions that one of two worlds can do without. -/

/-- On this heap the action finishes with such a value, and leaves the world looking as it did. -/
def Unseen (leeway : Leeway) (heap : Heap) (such : α → Prop) (act : Act α) : Prop :=
  ∀ world, world.heap = heap → (act world).2.Eased leeway →
    ∃ value, (act world).1 = .done value ∧ such value ∧ (act world).2.heap = heap ∧
      ∀ image, world.Alike leeway heap image → (act world).2.Alike leeway heap image

namespace Unseen

variable {such : α → Prop} {like : β → Prop}

theorem pure {value : α} (fits : such value) : Unseen leeway heap such (Pure.pure value) :=
  fun _ here _ => ⟨value, rfl, fits, here, fun _ alike => alike⟩

theorem readHeap : Unseen leeway heap (fun found => found = heap) (Act.read World.heap) :=
  fun world here _ => ⟨world.heap, rfl, here, here, fun _ alike => alike⟩

theorem proceed {rest : Exit α → Act β} (first : Unseen leeway heap such act)
    (goes : ∀ value, such value → Unseen leeway heap like (rest (.done value)))
    (kept : ∀ exit, (eased leeway).Holds (rest exit)) : Unseen leeway heap like (act.proceed rest) := by
  intro world here easy
  obtain ⟨value, exit, fits, stays, unseen⟩ := first world here (kept _ _ easy)
  unfold Act.proceed at easy ⊢
  rw [exit] at easy ⊢
  obtain ⟨last, finished, fitting, left, hidden⟩ := goes value fits _ stays easy
  exact ⟨last, finished, fitting, left, fun image alike => hidden image (unseen image alike)⟩

theorem bind (first : Unseen leeway heap such act)
    (rest : ∀ value, such value → Unseen leeway heap like (next value))
    (kept : ∀ value, (eased leeway).Holds (next value)) : Unseen leeway heap like (act >>= next) := by
  rw [bind_eq_proceed]
  refine first.proceed rest fun exit => ?_
  cases exit with
  | done value => exact kept value
  | failed error => exact .fail error
  | unwound => exact .unwind

theorem orRelease (first : Unseen leeway heap such act) (kept : (eased leeway).Holds release) :
    Unseen leeway heap such (act.orRelease release) := by
  rw [orRelease_eq_proceed]
  refine first.proceed (fun value fits => pure fits) fun exit => ?_
  cases exit with
  | done value => exact .pure value
  | failed error => exact kept.leave _
  | unwound => exact kept.leave _

end Unseen

theorem Mirrors.of_unseen {such like : α → Prop} (first : Unseen leeway heap such act)
    (second : Unseen leeway heap like other) (kept : (eased leeway).Holds act)
    (held : (eased leeway).Holds other)
    (same : ∀ value image, such value → like image → view value = view image) :
    Mirrors leeway heap view act other := by
  refine ⟨kept, held, fun world image alike easy fine => ?_⟩
  obtain ⟨value, finished, fits, _, unseen⟩ := first world alike.here easy
  obtain ⟨echo, done, fitting, _, hidden⟩ := second image alike.there fine
  rw [finished, done]
  exact ⟨.done (same value echo fits fitting),
    (hidden _ (unseen image alike).symm).symm⟩

end Act

end ShaderDriver
