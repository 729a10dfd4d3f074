import ShaderDriver.Proofs.Memory.Counters

namespace ShaderDriver.Memory

/-! Calls of any kind in any order, frees of what is not live among them: what each call does to an
account, and which of the frees that find nothing live are noticed. -/

/-- The answer of an account that is out of use. -/
def Call.unheeded : Call → Entry
  | .alloc size type => .asked size type .refused
  | .free size type => .freed size type true
  | .failNth n => .armed n

/-- The entry grants an allocation of the type. -/
def Entry.grantsOf (type : AllocType) : Entry → Bool
  | .asked _ wanted .granted => wanted = type
  | _ => false

namespace Tracker

variable {tracker next : Tracker} {call : Call} {entry : Entry} {size : Nat} {type : AllocType}

/-- What a call can do to an account: its answer and what it leaves, case by case. -/
inductive Performs (tracker : Tracker) : Call → Entry → Tracker → Prop where
  | unheeded (call : Call) (poisoned : tracker.poisoned = true) :
      Performs tracker call call.unheeded tracker
  | refused {size : Nat} {type : AllocType} (usable : tracker.poisoned = false)
      (refuses : tracker.Refuses size) :
      Performs tracker (.alloc size type) (.asked size type .refused)
        { tracker with countdown := countDown tracker.countdown }
  | granted {size : Nat} {type : AllocType} (usable : tracker.poisoned = false)
      (lets : ¬ tracker.Refuses size) (fits : (tracker.usageOf type).bytes + size < addressSpace) :
      Performs tracker (.alloc size type) (.asked size type .granted)
        { tracker with
          usage := tracker.usage.set type (some
            { count := (tracker.usageOf type).count + 1
              bytes := (tracker.usageOf type).bytes + size })
          liveBytes := tracker.liveBytes + size
          granted := tracker.granted + 1
          countdown := countDown tracker.countdown }
  | overflow {size : Nat} {type : AllocType} (usable : tracker.poisoned = false)
      (lets : ¬ tracker.Refuses size)
      (exceeds : addressSpace ≤ (tracker.usageOf type).bytes + size) :
      Performs tracker (.alloc size type) (.asked size type .fault)
        { tracker with
          liveBytes := tracker.liveBytes + size
          granted := tracker.granted + 1
          countdown := countDown tracker.countdown
          poisoned := true }
  | unnoticed {size : Nat} {type : AllocType} (usable : tracker.poisoned = false)
      (unknown : tracker.usage.get type = none) :
      Performs tracker (.free size type) (.freed size type true)
        { tracker with liveBytes := tracker.liveBytes - size }
  | noticed {size : Nat} {type : AllocType} {usage : Usage} (usable : tracker.poisoned = false)
      (known : tracker.usage.get type = some usage) (empty : usage.count = 0) :
      Performs tracker (.free size type) (.freed size type false)
        { tracker with liveBytes := tracker.liveBytes - size, poisoned := true }
  | freed {size : Nat} {type : AllocType} {usage : Usage} (usable : tracker.poisoned = false)
      (known : tracker.usage.get type = some usage) (live : usage.count ≠ 0) :
      Performs tracker (.free size type) (.freed size type true)
        { tracker with
          usage := tracker.usage.set type
            (some { count := usage.count - 1, bytes := usage.bytes - size })
          liveBytes := tracker.liveBytes - size }
  | armed (n : Nat) (usable : tracker.poisoned = false) :
      Performs tracker (.failNth n) (.armed n) { tracker with countdown := some n }

theorem perform_poisoned (poisoned : tracker.poisoned = true) (call : Call) :
    tracker.perform call = (call.unheeded, tracker) := by
  cases call with
  | alloc size type => rw [perform, alloc_poisoned poisoned, Call.unheeded]
  | free size type => rw [perform, free_poisoned poisoned, Call.unheeded]
  | failNth n => rw [perform, failNth, if_pos poisoned, Call.unheeded]

theorem alloc_performs (usable : tracker.poisoned = false) (size : Nat) (type : AllocType) :
    tracker.Performs (.alloc size type) (tracker.perform (.alloc size type)).1
      (tracker.perform (.alloc size type)).2 := by
  simp only [perform, alloc_eq usable]
  by_cases refuses : tracker.Refuses size
  · rw [if_pos refuses]
    exact .refused usable refuses
  · rw [if_neg refuses, enter]
    by_cases fits : (tracker.usageOf type).bytes + size < addressSpace
    · have room : (usageOf { tracker with countdown := countDown tracker.countdown } type).bytes +
          size < addressSpace := fits
      rw [if_pos room]
      exact .granted usable refuses fits
    · have full : ¬ (usageOf { tracker with countdown := countDown tracker.countdown } type).bytes +
          size < addressSpace := fits
      rw [if_neg full]
      exact .overflow usable refuses (Nat.le_of_not_lt fits)

theorem free_performs (usable : tracker.poisoned = false) (size : Nat) (type : AllocType) :
    tracker.Performs (.free size type) (tracker.perform (.free size type)).1
      (tracker.perform (.free size type)).2 := by
  have inUse : ¬ tracker.poisoned = true := by simp [usable]
  simp only [perform, free, if_neg inUse]
  cases known : tracker.usage.get type with
  | none => exact .unnoticed usable known
  | some usage =>
      by_cases empty : usage.count = 0
      · simp only [if_pos empty]
        exact .noticed usable known empty
      · simp only [if_neg empty]
        exact .freed usable known empty

theorem performs (tracker : Tracker) (call : Call) :
    tracker.Performs call (tracker.perform call).1 (tracker.perform call).2 := by
  cases usable : tracker.poisoned with
  | true =>
      rw [perform_poisoned usable]
      exact .unheeded call usable
  | false =>
      cases call with
      | alloc size type => exact alloc_performs usable size type
      | free size type => exact free_performs usable size type
      | failNth n =>
          have inUse : ¬ tracker.poisoned = true := by simp [usable]
          rw [perform, failNth, if_neg inUse]
          exact .armed n usable

/-- An account goes out of use with the first fault. -/
theorem Performs.poisoned (performs : tracker.Performs call entry next) :
    next.poisoned = (tracker.poisoned || !entry.faultless) := by
  cases performs with
  | unheeded call poisoned => rw [poisoned, Bool.true_or]
  | refused usable
  | granted usable
  | overflow usable
  | unnoticed usable
  | noticed usable
  | freed usable
  | armed n usable =>
      rw [usable]
      rfl

theorem performAll_usable (usable : tracker.poisoned = false) (calls : List Call)
    (faultless : ∀ entry ∈ (tracker.performAll calls).1, entry.faultless = true) :
    (tracker.performAll calls).2.poisoned = false := by
  induction calls generalizing tracker with
  | nil => exact usable
  | cons call rest ih =>
      have first : (tracker.perform call).1.faultless = true := faultless _ List.mem_cons_self
      have next : (tracker.perform call).2.poisoned = false := by
        rw [(tracker.performs call).poisoned, usable, first]
        rfl
      exact ih next fun entry member => faultless entry (List.mem_cons_of_mem _ member)

/-- A type becomes known with a grant, and stays known. -/
theorem Performs.known (performs : tracker.Performs call entry next) (type : AllocType) :
    (next.usage.get type).isSome = ((tracker.usage.get type).isSome || entry.grantsOf type) := by
  cases performs with
  | unheeded call poisoned => cases call <;> simp [Call.unheeded, Entry.grantsOf]
  | @granted size asked usable lets fits =>
      simp only [ByType.get_set, Entry.grantsOf]
      by_cases same : type = asked
      · simp [same]
      · simp [same, Ne.symm same]
  | @freed size freed usage usable known live =>
      simp only [ByType.get_set, Entry.grantsOf, Bool.or_false]
      by_cases same : type = freed
      · rw [if_pos same, same, known, Option.isSome_some, Option.isSome_some]
      · rw [if_neg same]
  | refused | overflow | unnoticed | noticed | armed => simp [Entry.grantsOf]

theorem performAll_known (tracker : Tracker) (calls : List Call) (type : AllocType) :
    ((tracker.performAll calls).2.usage.get type).isSome =
      ((tracker.usage.get type).isSome ||
        (tracker.performAll calls).1.any (Entry.grantsOf type)) := by
  induction calls generalizing tracker with
  | nil => simp [performAll]
  | cons call rest ih =>
      have first := (tracker.performs call).known type
      rw [performAll, ih, first, List.any_cons, Bool.or_assoc]

theorem any_grantsOf {record : List Entry} :
    record.any (Entry.grantsOf type) = true ↔ ∃ size, .asked size type .granted ∈ record := by
  rw [List.any_eq_true]
  constructor
  · rintro ⟨entry, member, grants⟩
    rcases entry with ⟨size, asked, _ | _ | _⟩ | ⟨size, freed, inOrder⟩ | n
    case asked.granted =>
      have same : asked = type := by simpa [Entry.grantsOf] using grants
      exact ⟨size, same ▸ member⟩
    all_goals cases grants
  · rintro ⟨size, member⟩
    exact ⟨_, member, by simp [Entry.grantsOf]⟩

/-- A free that finds nothing live of its type is noticed just if the account knows the type. -/
theorem free_noticed_iff (usable : tracker.poisoned = false)
    (empty : (tracker.usageOf type).count = 0) (size : Nat) :
    (tracker.free size type).1 = false ↔ (tracker.usage.get type).isSome = true := by
  have inUse : ¬ tracker.poisoned = true := by simp [usable]
  cases known : tracker.usage.get type with
  | none => simp [free, inUse, known]
  | some usage =>
      have none : usage.count = 0 := by simpa [usageOf, known] using empty
      simp [free, inUse, known, none]

theorem free_of_unknown (usable : tracker.poisoned = false)
    (unknown : tracker.usage.get type = none) (size : Nat) :
    tracker.free size type =
      (true, { tracker with liveBytes := tracker.liveBytes - size }) := by
  have inUse : ¬ tracker.poisoned = true := by simp [usable]
  simp only [free, if_neg inUse, unknown]

theorem figures_with_liveBytes (usable : tracker.poisoned = false) (liveBytes : Nat) :
    figures { tracker with liveBytes } = { tracker.figures with liveBytes } := by
  have bytes : totalBytes { tracker with liveBytes } = liveBytes := by simp [totalBytes, usable]
  rw [figures, bytes]
  rfl

/-- Where nothing is live of a type, whatever has been called before without a fault, a free is
noticed if and only if an allocation of the type was granted at some time. One that is not noticed
lowers the total by its size, though all that is live is of other types, and no other figure. -/
theorem empty_free_is_noticed_iff_type_was_granted (limit : Option Nat) (calls : List Call)
    (faultless : ∀ entry ∈ ((withBudget limit).performAll calls).1, entry.faultless = true)
    (type : AllocType)
    (empty : (((withBudget limit).performAll calls).2.liveUsage type).count = 0) (size : Nat) :
    let record := ((withBudget limit).performAll calls).1
    let tracker := ((withBudget limit).performAll calls).2
    ((tracker.free size type).1 = false ↔ ∃ granted, .asked granted type .granted ∈ record) ∧
      ((tracker.free size type).1 = true → (tracker.free size type).2.figures =
        { tracker.figures with liveBytes := tracker.figures.liveBytes - size }) := by
  intro record tracker
  have usable : tracker.poisoned = false := performAll_usable rfl calls faultless
  have none : (tracker.usageOf type).count = 0 := by
    have inUse : ¬ tracker.poisoned = true := by simp [usable]
    rw [← empty, liveUsage, if_neg inUse]
  have known : (tracker.usage.get type).isSome = record.any (Entry.grantsOf type) := by
    have fresh : ((withBudget limit).usage.get type).isSome = false := by cases type <;> rfl
    rw [performAll_known, fresh, Bool.false_or]
  have noticed := free_noticed_iff usable none size
  refine ⟨by rw [noticed, known, any_grantsOf], fun passes => ?_⟩
  have unknown : tracker.usage.get type = Option.none := by
    rw [← Option.not_isSome_iff_eq_none, ← noticed, passes]
    decide
  have bytes : tracker.figures.liveBytes = tracker.liveBytes := by
    simp [figures, totalBytes, usable]
  rw [free_of_unknown usable unknown, figures_with_liveBytes usable, bytes]

/-- An allocation of another size was taken back before; a free of the same type, even of no bytes, is
noticed now. -/
theorem second_free_is_noticed :
    let calls : List Call := [.alloc 8 .internal, .alloc 4 .debug, .free 3 .debug]
    let record := ((withBudget (some 100)).performAll calls).1
    let tracker := ((withBudget (some 100)).performAll calls).2
    (∀ entry ∈ record, entry.faultless = true) ∧ (tracker.liveUsage .debug).count = 0 ∧
      (tracker.free 0 .debug).1 = false := by
  intro calls record tracker
  have faultless : ∀ entry ∈ record, entry.faultless = true := by decide
  have empty : (tracker.liveUsage .debug).count = 0 := by decide
  obtain ⟨noticed, _⟩ :=
    empty_free_is_noticed_iff_type_was_granted (some 100) calls faultless .debug empty 0
  exact ⟨faultless, empty, noticed.mpr ⟨4, by decide⟩⟩

/-- A free of a type that was never granted passes, and the eight bytes that are live of another type
are taken off the total. -/
theorem free_of_unknown_type_passes :
    let record := ((withBudget none).performAll [.alloc 8 .internal]).1
    let tracker := ((withBudget none).performAll [.alloc 8 .internal]).2
    (∀ entry ∈ record, entry.faultless = true) ∧ (tracker.liveUsage .debug).count = 0 ∧
      (tracker.free 8 .debug).1 = true ∧ (tracker.free 8 .debug).2.totalBytes = 0 ∧
      (tracker.free 8 .debug).2.liveUsage .internal = { count := 1, bytes := 8 } := by
  decide

end Tracker

end ShaderDriver.Memory
