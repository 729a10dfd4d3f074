import ShaderDriver.Proofs.Memory.Counters

namespace ShaderDriver.Memory

/-! Accounts without the records that debug devices keep. -/

variable {size : Nat} {type : AllocType}

namespace Tracker

variable {tracker next image echo : Tracker}

/-- The account of everything but records. How much there is to give is not part of it. -/
def withoutRecords (tracker : Tracker) : Tracker :=
  { withBudget none with usage := tracker.usage.set .debug none, poisoned := tracker.poisoned }

theorem withoutRecords_eq_iff : tracker.withoutRecords = image.withoutRecords ↔
    tracker.poisoned = image.poisoned ∧
      ∀ type, type ≠ .debug → tracker.usage.get type = image.usage.get type := by
  constructor
  · intro same
    refine ⟨congrArg (fun seen => seen.poisoned) same, fun type other => ?_⟩
    have usage : tracker.usage.set .debug none = image.usage.set .debug none :=
      congrArg (fun seen => seen.usage) same
    have found := congrArg (ByType.get · type) usage
    simpa only [ByType.get_set, if_neg other] using found
  · rintro ⟨poisoned, same⟩
    have usage : tracker.usage.set .debug none = image.usage.set .debug none := by
      ext1 type
      rw [ByType.get_set, ByType.get_set]
      split
      · rfl
      · next other => exact same type other
    rw [withoutRecords, withoutRecords, usage, poisoned]

theorem liveUsage_eq_of_withoutRecords (alike : tracker.withoutRecords = image.withoutRecords)
    (other : type ≠ .debug) : tracker.liveUsage type = image.liveUsage type := by
  obtain ⟨poisoned, same⟩ := withoutRecords_eq_iff.mp alike
  rw [liveUsage, liveUsage, usageOf, usageOf, poisoned, same type other]

/-- An allocation that is granted is entered under its type. -/
theorem alloc_usage (granted : tracker.alloc size type = (.granted, next)) :
    next.poisoned = tracker.poisoned ∧ ∀ other, next.usage.get other =
      if other = type then some
        { count := (tracker.usageOf type).count + 1, bytes := (tracker.usageOf type).bytes + size }
      else tracker.usage.get other := by
  cases usable : tracker.poisoned with
  | true =>
      rw [alloc_poisoned usable] at granted
      cases granted
  | false =>
      rw [alloc_eq usable] at granted
      split at granted
      · cases granted
      · rw [enter] at granted
        split at granted
        · cases granted
          exact ⟨usable, fun other => ByType.get_set _ _ _ _⟩
        · cases granted

/-- As long as the account is in order, an allocation is taken off its type, if there ever was one. -/
theorem free_usage (sound : (tracker.free size type).2.poisoned = false) :
    (tracker.free size type).1 = true ∧ tracker.poisoned = false ∧
      ∀ other, (tracker.free size type).2.usage.get other =
        if other = type then
          (tracker.usage.get type).map fun usage =>
            { count := usage.count - 1, bytes := usage.bytes - size }
        else tracker.usage.get other := by
  cases usable : tracker.poisoned with
  | true =>
      rw [free_poisoned usable, usable] at sound
      cases sound
  | false =>
      have inUse : ¬ tracker.poisoned = true := by simp [usable]
      cases known : tracker.usage.get type with
      | none =>
          simp only [free, if_neg inUse, known, true_and]
          intro other
          split
          · next same => rw [same, known, Option.map_none]
          · rfl
      | some usage =>
          simp only [free, if_neg inUse, known] at sound ⊢
          by_cases empty : usage.count = 0
          · rw [if_pos empty] at sound
            cases sound
          · simp only [if_neg empty, true_and]
            exact fun other => ByType.get_set _ _ _ _

/-- Accounts that differ in records only go on to do so when an allocation is granted by both. -/
theorem alloc_withoutRecords (alike : tracker.withoutRecords = image.withoutRecords)
    (granted : tracker.alloc size type = (.granted, next))
    (conceded : image.alloc size type = (.granted, echo)) :
    next.withoutRecords = echo.withoutRecords := by
  obtain ⟨poisoned, same⟩ := withoutRecords_eq_iff.mp alike
  obtain ⟨first, entered⟩ := alloc_usage granted
  obtain ⟨second, echoed⟩ := alloc_usage conceded
  refine withoutRecords_eq_iff.mpr ⟨by rw [first, second, poisoned], fun other distinct => ?_⟩
  rw [entered, echoed]
  split
  · next own => rw [usageOf, usageOf, same type (own ▸ distinct)]
  · exact same other distinct

theorem free_withoutRecords (alike : tracker.withoutRecords = image.withoutRecords)
    (sound : (tracker.free size type).2.poisoned = false)
    (sane : (image.free size type).2.poisoned = false) :
    (tracker.free size type).2.withoutRecords = (image.free size type).2.withoutRecords := by
  obtain ⟨_, same⟩ := withoutRecords_eq_iff.mp alike
  obtain ⟨_, _, freed⟩ := free_usage sound
  obtain ⟨_, _, echoed⟩ := free_usage sane
  refine withoutRecords_eq_iff.mpr ⟨by rw [sound, sane], fun other distinct => ?_⟩
  rw [freed, echoed]
  split
  · next own => rw [same type (own ▸ distinct)]
  · exact same other distinct

/-- A record that is granted makes no difference. -/
theorem alloc_record (granted : tracker.alloc size .debug = (.granted, next)) :
    next.withoutRecords = tracker.withoutRecords := by
  obtain ⟨poisoned, entered⟩ := alloc_usage granted
  exact withoutRecords_eq_iff.mpr ⟨poisoned, fun other distinct => by rw [entered, if_neg distinct]⟩

theorem free_record (sound : (tracker.free size .debug).2.poisoned = false) :
    (tracker.free size .debug).2.withoutRecords = tracker.withoutRecords := by
  obtain ⟨_, usable, freed⟩ := free_usage sound
  exact withoutRecords_eq_iff.mpr
    ⟨by rw [sound, usable], fun other distinct => by rw [freed, if_neg distinct]⟩

/-- How many requests are still let through is no part of the account. -/
theorem failNth_withoutRecords (n : Nat) :
    (tracker.failNth n).withoutRecords = tracker.withoutRecords := by
  unfold failNth
  split <;> rfl

end Tracker

namespace Allocator

variable {allocator next image echo : Allocator}

/-- Answers that are given beforehand are no part of an account. -/
def withoutRecords : Allocator → Allocator
  | .tracking tracker => .tracking tracker.withoutRecords
  | .answering _ => .answering []

theorem alloc_granted_cases (granted : allocator.alloc size type = (.granted, next)) :
    (∃ tracker after, allocator = .tracking tracker ∧ next = .tracking after ∧
      tracker.alloc size type = (.granted, after)) ∨
    ∃ answers rest, allocator = .answering answers ∧ next = .answering rest := by
  cases allocator with
  | tracking tracker =>
      rcases ran : tracker.alloc size type with ⟨reply, after⟩
      simp only [alloc, ran, Prod.mk.injEq] at granted
      obtain ⟨rfl, rfl⟩ := granted
      exact .inl ⟨tracker, after, rfl, rfl, ran⟩
  | answering answers =>
      cases answers with
      | nil => cases granted
      | cons answer rest =>
          simp only [alloc, Prod.mk.injEq] at granted
          exact .inr ⟨_, rest, rfl, granted.2.symm⟩

theorem alloc_withoutRecords (alike : allocator.withoutRecords = image.withoutRecords)
    (granted : allocator.alloc size type = (.granted, next))
    (conceded : image.alloc size type = (.granted, echo)) :
    next.withoutRecords = echo.withoutRecords := by
  rcases alloc_granted_cases granted with ⟨tracker, after, rfl, rfl, first⟩ | ⟨_, _, rfl, rfl⟩ <;>
    rcases alloc_granted_cases conceded with ⟨other, last, rfl, rfl, second⟩ | ⟨_, _, rfl, rfl⟩
  · rw [withoutRecords, withoutRecords, tracking.injEq] at alike ⊢
    exact Tracker.alloc_withoutRecords alike first second
  · cases alike
  · cases alike
  · rfl

theorem alloc_record (granted : allocator.alloc size .debug = (.granted, next)) :
    next.withoutRecords = allocator.withoutRecords := by
  rcases alloc_granted_cases granted with ⟨tracker, after, rfl, rfl, entered⟩ | ⟨_, _, rfl, rfl⟩
  · rw [withoutRecords, withoutRecords, Tracker.alloc_record entered]
  · rfl

theorem free_withoutRecords (alike : allocator.withoutRecords = image.withoutRecords)
    (sound : ¬ (allocator.free size type).2.Poisoned) (sane : ¬ (image.free size type).2.Poisoned) :
    (allocator.free size type).2.withoutRecords = (image.free size type).2.withoutRecords := by
  cases allocator <;> cases image
  · rw [withoutRecords, withoutRecords, tracking.injEq] at alike
    rw [free, free, withoutRecords, withoutRecords, tracking.injEq]
    exact Tracker.free_withoutRecords alike (Bool.eq_false_iff.mpr sound) (Bool.eq_false_iff.mpr sane)
  · cases alike
  · cases alike
  · rfl

theorem free_record (sound : ¬ (allocator.free size .debug).2.Poisoned) :
    (allocator.free size .debug).2.withoutRecords = allocator.withoutRecords := by
  cases allocator with
  | tracking tracker =>
      rw [free, withoutRecords, withoutRecords, Tracker.free_record (Bool.eq_false_iff.mpr sound)]
  | answering answers => rfl

theorem failNth_withoutRecords (n : Nat) :
    (allocator.failNth n).withoutRecords = allocator.withoutRecords := by
  cases allocator with
  | tracking tracker => exact congrArg tracking (Tracker.failNth_withoutRecords n)
  | answering answers => rfl

end Allocator

end ShaderDriver.Memory
