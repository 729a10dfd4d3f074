import ShaderDriver.Proofs.Memory.Mismatches

namespace ShaderDriver.Memory

/-! Frees that take more off the total than off their type. The total has its sums checked and the
types have not: as long as no free is of this kind the types add up to the total, and the one check is
enough. -/

/-- A free takes no more off the total than off its type. -/
def Call.Covered (tracker : Tracker) : Call → Prop
  | .free size type => min size tracker.liveBytes ≤ (tracker.usageOf type).bytes
  | _ => True

instance (tracker : Tracker) : DecidablePred (Call.Covered tracker)
  | .alloc _ _ => .isTrue trivial
  | .free _ _ => inferInstanceAs (Decidable (_ ≤ _))
  | .failNth _ => .isTrue trivial

namespace Tracker

variable {tracker next : Tracker} {call : Call} {entry : Entry} {size : Nat} {type : AllocType}

/-- No free among the calls takes more off the total than off its type. -/
def Covered (tracker : Tracker) : List Call → Prop
  | [] => True
  | call :: rest => call.Covered tracker ∧ (tracker.perform call).2.Covered rest

instance decidableCovered (tracker : Tracker) :
    (calls : List Call) → Decidable (tracker.Covered calls)
  | [] => .isTrue trivial
  | call :: rest =>
      have := decidableCovered (tracker.perform call).2 rest
      inferInstanceAs (Decidable (_ ∧ _))

/-- As long as the account is in use, the types add up to the total. -/
def Level (tracker : Tracker) : Prop :=
  tracker.poisoned = false →
    overTypes (fun type => (tracker.usageOf type).bytes) = tracker.liveBytes

theorem withBudget_level (limit : Option Nat) : (withBudget limit).Level :=
  fun _ => rfl

theorem bytes_of_unknown (unknown : tracker.usage.get type = none) :
    (tracker.usageOf type).bytes = 0 := by
  simp [usageOf, unknown]

/-- A grant adds to both sides alike, and a free that is covered takes off both alike: where it takes
less off a type than its size, that is all there is, of the type and of the total. -/
theorem Performs.level (performs : tracker.Performs call entry next) (level : tracker.Level)
    (covered : call.Covered tracker) : next.Level := by
  intro inUse
  cases performs with
  | unheeded => exact level inUse
  | refused usable => exact level usable
  | armed n usable => exact level usable
  | overflow => cases inUse
  | noticed => cases inUse
  | @granted size type usable =>
      have sum := level usable
      have changed := overTypes_set Usage.bytes
        { tracker with countdown := countDown tracker.countdown }
        { count := (tracker.usageOf type).count + 1, bytes := (tracker.usageOf type).bytes + size }
        (tracker.liveBytes + size) (tracker.granted + 1) type
      change _ + (tracker.usageOf type).bytes =
        overTypes (fun other => (tracker.usageOf other).bytes) + _ at changed
      simp only at changed ⊢
      omega
  | @unnoticed size type usable unknown =>
      have sum := level usable
      have bytes := bytes_of_unknown unknown
      simp only [Call.Covered, bytes] at covered
      change overTypes (fun other => (tracker.usageOf other).bytes) = tracker.liveBytes - size
      omega
  | @freed size type usage usable known =>
      have sum := level usable
      have bytes : (tracker.usageOf type).bytes = usage.bytes := by simp [usageOf, known]
      have part := le_overTypes (fun type => (tracker.usageOf type).bytes) type
      have changed := overTypes_set Usage.bytes tracker
        { count := usage.count - 1, bytes := usage.bytes - size } (tracker.liveBytes - size)
        tracker.granted type
      simp only [Call.Covered] at covered
      simp only at part changed ⊢
      -- With `size` past what the type has, `covered` and `sum` leave nothing to the other types.
      omega

theorem alloc_fault_iff : (tracker.alloc size type).1 = .fault ↔
    tracker.poisoned = false ∧ ¬ tracker.Refuses size ∧
      addressSpace ≤ (tracker.usageOf type).bytes + size := by
  have answer : (tracker.perform (.alloc size type)).1 =
      .asked size type (tracker.alloc size type).1 := rfl
  have performs := tracker.performs (.alloc size type)
  rw [answer] at performs
  generalize (tracker.alloc size type).1 = reply at performs
  generalize (tracker.perform (.alloc size type)).2 = next at performs
  constructor
  · rintro rfl
    cases performs with
    | overflow usable lets exceeds => exact ⟨usable, lets, exceeds⟩
  · rintro ⟨usable, lets, exceeds⟩
    cases performs with
    | unheeded _ poisoned => rw [usable] at poisoned; cases poisoned
    | refused _ refuses => exact absurd refuses lets
    | granted _ _ fits => omega
    | overflow => rfl

/-- What is let through fits into the address space beside the total. -/
theorem fits_of_not_refuses (lets : ¬ tracker.Refuses size) :
    tracker.liveBytes + size < addressSpace := by
  by_contra full
  exact lets (.inr (hasRoom_eq_false.mpr (.inr (Nat.le_of_not_lt full))))

theorem exceeds_of_alloc_fault (fault : (tracker.alloc size type).1 = .fault) :
    tracker.liveBytes < (tracker.usageOf type).bytes := by
  obtain ⟨_, lets, exceeds⟩ := alloc_fault_iff.mp fault
  have fits := fits_of_not_refuses lets
  omega

theorem Level.alloc_ne_fault (level : tracker.Level) (size : Nat) (type : AllocType) :
    (tracker.alloc size type).1 ≠ .fault := by
  intro fault
  have sum := level (alloc_fault_iff.mp fault).1
  have part := le_overTypes (fun type => (tracker.usageOf type).bytes) type
  have exceeds := exceeds_of_alloc_fault fault
  omega

theorem Level.performAll (level : tracker.Level) (calls : List Call)
    (covered : tracker.Covered calls) :
    (tracker.performAll calls).2.Level ∧
      ∀ size type, .asked size type .fault ∉ (tracker.performAll calls).1 := by
  induction calls generalizing tracker with
  | nil => exact ⟨level, fun _ _ => List.not_mem_nil⟩
  | cons call rest ih =>
      obtain ⟨first, others⟩ := covered
      obtain ⟨last, later⟩ := ih ((tracker.performs call).level level first) others
      refine ⟨last, fun size type member => ?_⟩
      rcases List.mem_cons.mp member with now | listed
      · cases call with
        | alloc asked wanted =>
            obtain ⟨rfl, rfl, fault⟩ := Entry.asked.inj now
            exact level.alloc_ne_fault _ _ fault.symm
        | free => cases now
        | failNth => cases now
      · exact later size type listed

theorem hasRoom_of_le {more : Nat} (least : size ≤ more) (room : tracker.hasRoom more = true) :
    tracker.hasRoom size = true := by
  revert room
  unfold hasRoom
  cases tracker.budget with
  | none => simp only [Bool.and_true, decide_eq_true_eq]; omega
  | some budget => simp only [Bool.and_eq_true, decide_eq_true_eq]; omega

/-- Some request is a fault just if no request is to be refused now, and the total leaves room for all
that the bytes of a type leave of the address space. -/
theorem exists_alloc_fault_iff :
    (∃ size < addressSpace, ∃ type, (tracker.alloc size type).1 = .fault) ↔
      tracker.poisoned = false ∧ tracker.countdown ≠ some 0 ∧
        ∃ type, tracker.hasRoom (addressSpace - (tracker.usageOf type).bytes) = true := by
  constructor
  · rintro ⟨size, _, type, fault⟩
    obtain ⟨usable, lets, exceeds⟩ := alloc_fault_iff.mp fault
    have room : tracker.hasRoom size = true :=
      Bool.eq_true_of_not_eq_false fun full => lets (.inr full)
    exact ⟨usable, fun due => lets (.inl due), type, hasRoom_of_le (by omega) room⟩
  · rintro ⟨usable, waits, type, room⟩
    have lets : ¬ tracker.Refuses (addressSpace - (tracker.usageOf type).bytes) := by
      rintro (due | full)
      · exact waits due
      · rw [room] at full
        cases full
    -- The size is one a request can have: had the type no bytes, there would be no room for it.
    have fits := fits_of_not_refuses lets
    exact ⟨_, by omega, type, alloc_fault_iff.mpr ⟨usable, lets, by omega⟩⟩

theorem perform_called (tracker : Tracker) (call : Call) :
    Allocator.Called (.tracking tracker) (.tracking (tracker.perform call).2) 1 False := by
  cases call with
  | alloc size type =>
      have called := Allocator.alloc_called (.tracking tracker) size type
      have most : (tracker.alloc size type).1.grants ≤ 1 := by
        cases (tracker.alloc size type).1 <;> decide
      exact ⟨called.modest, called.lasting,
        Nat.le_trans called.granted (Nat.add_le_add_left most _), False.elim⟩
  | free size type =>
      have called := Allocator.free_called (.tracking tracker) size type
      exact ⟨called.modest, called.lasting, Nat.le_succ_of_le called.granted, False.elim⟩
  | failNth n =>
      have called := Allocator.failNth_called (.tracking tracker) n
      exact ⟨called.modest, called.lasting, Nat.le_succ_of_le called.granted, False.elim⟩

theorem performAll_called (tracker : Tracker) (calls : List Call) :
    Allocator.Called (.tracking tracker) (.tracking (tracker.performAll calls).2) calls.length
      False := by
  induction calls generalizing tracker with
  | nil => exact .unchanged _ _
  | cons call rest ih =>
      have first := tracker.perform_called call
      have later := ih (tracker.perform call).2
      refine ⟨fun modest => later.modest (first.modest modest),
        fun faulty => later.lasting (first.lasting faulty), ?_, False.elim⟩
      have most := Nat.le_trans later.granted (Nat.add_le_add_right first.granted _)
      rwa [Nat.add_assoc, Nat.add_comm 1] at most

/-- After fewer calls than there are numbers, of whatever kind, the counters have room for another
grant: a request can only be a fault by the bytes of its type. -/
theorem performAll_allocChecked? (limit : Option Nat) (calls : List Call)
    (few : calls.length + 1 < addressSpace) (size : Nat) (type : AllocType) :
    let tracker := ((withBudget limit).performAll calls).2
    tracker.allocChecked? size type =
      if (tracker.alloc size type).1 = .fault then none else some (tracker.alloc size type) := by
  intro tracker
  have called := performAll_called (withBudget limit) calls
  cases usable : tracker.poisoned with
  | true =>
      rw [alloc_poisoned usable, allocChecked?, if_pos usable]
      rfl
  | false =>
      have ranged : tracker.Ranged := called.modest (fun _ => withBudget_ranged limit) usable
      have total : tracker.totalGranted = tracker.granted := by simp [totalGranted, usable]
      have granted : tracker.granted ≤ 0 + calls.length := by
        rw [← total]
        exact called.granted
      exact ranged.allocChecked?_eq usable (by omega) size type

/-- Whatever is called before, only the bytes of its type can make a request a fault, and only if the
type has more of them than the total. Some request does so just if the total leaves room for what the
bytes of a type leave of the address space. None ever does as long as no free takes more off the total
than off its type. -/
theorem requests_overflow_only_after_overdrafts (limit : Option Nat) (calls : List Call)
    (few : calls.length + 1 < 2 ^ 64) :
    let record := ((withBudget limit).performAll calls).1
    let tracker := ((withBudget limit).performAll calls).2
    (∀ size type, tracker.allocChecked? size type =
      if (tracker.alloc size type).1 = .fault then none else some (tracker.alloc size type)) ∧
    (∀ size type, (tracker.alloc size type).1 = .fault →
      tracker.liveBytes < (tracker.usageOf type).bytes) ∧
    ((∃ size < addressSpace, ∃ type, (tracker.alloc size type).1 = .fault) ↔
      tracker.poisoned = false ∧ tracker.countdown ≠ some 0 ∧
        ∃ type, tracker.hasRoom (addressSpace - (tracker.usageOf type).bytes) = true) ∧
    ((withBudget limit).Covered calls →
      (∀ size type, .asked size type .fault ∉ record) ∧
        ∀ size type, (tracker.alloc size type).1 ≠ .fault) := by
  intro record tracker
  refine ⟨performAll_allocChecked? limit calls few, fun size type => exceeds_of_alloc_fault,
    exists_alloc_fault_iff, fun covered => ?_⟩
  obtain ⟨level, faultless⟩ := (withBudget_level limit).performAll calls covered
  exact ⟨faultless, level.alloc_ne_fault⟩

/-- Frees of too few and of too many bytes, none of which takes more off the total than off its type:
the total is zero in the end, and so is each type, so that a type can have the whole address space. -/
theorem covered_frees_leave_all_to_one_type :
    let calls : List Call := [.alloc 10 .internal, .alloc 20 .debug, .alloc 1 .debug, .free 5 .debug,
      .free 10 .internal, .free 40 .debug]
    let tracker := ((withBudget none).performAll calls).2
    (withBudget none).Covered calls ∧ tracker.liveBytes = 0 ∧
      (tracker.alloc (2 ^ 64 - 1) .debug).1 ≠ .fault := by
  intro calls tracker
  have covered : (withBudget none).Covered calls := by decide
  obtain ⟨_, _, _, sound⟩ := requests_overflow_only_after_overdrafts none calls (by decide)
  exact ⟨covered, by decide, (sound covered).2 _ _⟩

/-- A free that finds nothing to take back takes a byte of another type off the total, or one that is
too large does: there is room for all but one byte of the address space then, and not in the type. -/
theorem byte_taken_off_the_total_leads_to_overflow :
    ((withBudget none).performAll
      [.alloc 1 .apiObject, .free 1 .debug, .alloc (2 ^ 64 - 1) .apiObject]).1 =
        [.asked 1 .apiObject .granted, .freed 1 .debug true, .asked (2 ^ 64 - 1) .apiObject .fault] ∧
    ((withBudget none).performAll
      [.alloc 1 .apiObject, .alloc 1 .debug, .free 2 .debug, .alloc (2 ^ 64 - 1) .apiObject]).1 =
        [.asked 1 .apiObject .granted, .asked 1 .debug .granted, .freed 2 .debug true,
          .asked (2 ^ 64 - 1) .apiObject .fault] := by
  decide

end Tracker

end ShaderDriver.Memory
