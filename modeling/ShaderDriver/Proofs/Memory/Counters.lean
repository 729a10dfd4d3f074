import ShaderDriver.Proofs.Memory.Bookkeeping

namespace ShaderDriver.Memory

/-! Ranges of the counters of an account, in order or not: whatever is freed, there is never more that
is live than was granted, and the bytes fit into the address space. -/

theorem le_overTypes (amount : AllocType → Nat) (type : AllocType) :
    amount type ≤ overTypes amount := by
  cases type <;> simp [overTypes, AllocType.all] <;> omega

namespace Tracker

variable {tracker next : Tracker} {size : Nat} {type : AllocType}

/-- The counters of an account that is in use. -/
structure Ranged (tracker : Tracker) : Prop where
  count : overTypes (fun type => (tracker.usageOf type).count) ≤ tracker.granted
  bytes : tracker.liveBytes < addressSpace

theorem withBudget_ranged (budget : Option Nat) : (withBudget budget).Ranged where
  count := Nat.le_refl 0
  bytes := by simp [withBudget, addressSpace]

/-- A sum over the types changes by what one type changes by. -/
theorem overTypes_set (amount : Usage → Nat) (tracker : Tracker) (usage : Usage)
    (liveBytes granted : Nat) (type : AllocType) :
    overTypes (fun other => amount ({ tracker with
      usage := tracker.usage.set type (some usage), liveBytes, granted }.usageOf other)) +
        amount (tracker.usageOf type) =
      overTypes (fun other => amount (tracker.usageOf other)) + amount usage := by
  simp only [usageOf_set]
  cases type <;> simp [overTypes, AllocType.all] <;> omega

theorem enter_ranged (ranged : tracker.Ranged) (room : tracker.hasRoom size = true)
    (entered : tracker.enter size type = (.granted, next)) : next.Ranged := by
  have fits : tracker.liveBytes + size < addressSpace := by
    simp only [hasRoom, Bool.and_eq_true, decide_eq_true_eq] at room
    exact room.1
  have counted := ranged.count
  rw [enter] at entered
  split at entered
  · cases entered
    constructor
    · have changed := overTypes_set Usage.count tracker
        { count := (tracker.usageOf type).count + 1, bytes := (tracker.usageOf type).bytes + size }
        (tracker.liveBytes + size) (tracker.granted + 1) type
      simp only at changed ⊢
      omega
    · exact fits
  · cases entered

theorem free_ranged (ranged : tracker.Ranged) (size : Nat) (type : AllocType) :
    (tracker.free size type).2.Ranged := by
  have lowered : tracker.liveBytes - size < addressSpace :=
    Nat.lt_of_le_of_lt (Nat.sub_le _ _) ranged.bytes
  have counted := ranged.count
  unfold free
  split
  · exact ranged
  · cases known : tracker.usage.get type with
    | none => exact ⟨counted, lowered⟩
    | some usage =>
        simp only
        split
        · exact ⟨counted, lowered⟩
        · constructor
          · have changed := overTypes_set Usage.count tracker
              { count := usage.count - 1, bytes := usage.bytes - size } (tracker.liveBytes - size)
              tracker.granted type
            have present : (tracker.usageOf type).count = usage.count := by
              simp [usageOf, known]
            simp only at changed ⊢
            omega
          · exact lowered

theorem alloc_poisoned (poisoned : tracker.poisoned = true) (size : Nat) (type : AllocType) :
    tracker.alloc size type = (.refused, tracker) := by
  rw [alloc, if_pos poisoned]

theorem free_poisoned (poisoned : tracker.poisoned = true) (size : Nat) (type : AllocType) :
    tracker.free size type = (true, tracker) := by
  rw [free, if_pos poisoned]

/-- An allocation is entered, or the account is out of order from then on. -/
theorem enter_cases (tracker : Tracker) (size : Nat) (type : AllocType) :
    ∃ next, tracker.enter size type = (.granted, next) ∧ next.poisoned = tracker.poisoned ∧
        next.granted = tracker.granted + 1 ∨
      tracker.enter size type = (.fault, next) ∧ next.poisoned = true := by
  simp only [enter]
  split
  · exact ⟨_, .inl ⟨rfl, rfl, rfl⟩⟩
  · exact ⟨_, .inr ⟨rfl, rfl⟩⟩

theorem free_granted (tracker : Tracker) (size : Nat) (type : AllocType) :
    (tracker.free size type).2.granted = tracker.granted := by
  simp only [free]
  split
  · rfl
  · split
    · rfl
    · split <;> rfl

theorem free_out_of_order (fault : (tracker.free size type).1 = false) :
    (tracker.free size type).2.poisoned = true := by
  simp only [free] at fault ⊢
  split at fault
  · cases fault
  · next usable =>
      rw [if_neg usable]
      split at fault
      · cases fault
      · split at fault
        · next empty => simp only [if_pos empty]
        · cases fault

theorem Ranged.liveCount (ranged : tracker.Ranged) (usable : tracker.poisoned = false) :
    tracker.liveCount ≤ tracker.totalGranted := by
  have counted := ranged.count
  have usages : tracker.liveUsage = tracker.usageOf := by
    funext type
    simp [liveUsage, usable]
  rw [Tracker.liveCount, totalGranted, usages, usable]
  exact counted

/-- A sum of two counters, if it stays in the address space. -/
def sum? (first second : Nat) : Option Nat :=
  if first + second < addressSpace then some (first + second) else none

theorem sum?_of_lt {first second : Nat} (fits : first + second < addressSpace) :
    sum? first second = some (first + second) :=
  if_pos fits

/-- Enters an allocation with every sum checked. -/
def enterChecked? (tracker : Tracker) (size : Nat) (type : AllocType) : Option (Reply × Tracker) := do
  let liveBytes ← sum? tracker.liveBytes size
  let granted ← sum? tracker.granted 1
  let count ← sum? (tracker.usageOf type).count 1
  let bytes ← sum? (tracker.usageOf type).bytes size
  pure (.granted, { tracker with
    usage := tracker.usage.set type (some { count, bytes }), liveBytes, granted })

theorem enterChecked?_eq (fits : tracker.liveBytes + size < addressSpace)
    (few : tracker.granted + 1 < addressSpace)
    (counted : (tracker.usageOf type).count + 1 < addressSpace)
    (bytes : (tracker.usageOf type).bytes + size < addressSpace) :
    tracker.enterChecked? size type = some (tracker.enter size type) := by
  simp only [enterChecked?, sum?_of_lt fits, sum?_of_lt few, sum?_of_lt counted, sum?_of_lt bytes,
    Option.bind_eq_bind, Option.bind_some]
  simp only [enter, if_pos bytes]
  rfl

def allocChecked? (tracker : Tracker) (size : Nat) (type : AllocType) : Option (Reply × Tracker) :=
  if tracker.poisoned then some (.refused, tracker)
  else if tracker.Refuses size then
    some (.refused, { tracker with countdown := countDown tracker.countdown })
  else enterChecked? { tracker with countdown := countDown tracker.countdown } size type

/-- As long as there is a number for the grant, a sum overflows just if the bytes of the type do. -/
theorem Ranged.allocChecked?_eq (ranged : tracker.Ranged) (usable : tracker.poisoned = false)
    (few : tracker.granted + 1 < addressSpace) (size : Nat) (type : AllocType) :
    tracker.allocChecked? size type =
      if (tracker.alloc size type).1 = .fault then none else some (tracker.alloc size type) := by
  have inUse : ¬ tracker.poisoned = true := by simp [usable]
  rw [allocChecked?, alloc_eq usable, if_neg inUse]
  split
  · rfl
  · next room =>
      have fits : tracker.liveBytes + size < addressSpace := by
        by_contra full
        exact room (.inr (hasRoom_eq_false.mpr (.inr (Nat.le_of_not_lt full))))
      have counted : (tracker.usageOf type).count + 1 < addressSpace := by
        have total := ranged.count
        have part := le_overTypes (fun type => (tracker.usageOf type).count) type
        omega
      let waiting := { tracker with countdown := countDown tracker.countdown }
      by_cases bytes : (waiting.usageOf type).bytes + size < addressSpace
      · have entered : waiting.enterChecked? size type = some (waiting.enter size type) :=
          enterChecked?_eq fits few counted bytes
        have granted : (waiting.enter size type).1 ≠ .fault := by simp [enter, if_pos bytes]
        rw [if_neg granted]
        exact entered
      · have fault : (waiting.enter size type).1 = .fault := by simp [enter, if_neg bytes]
        have past : sum? (waiting.usageOf type).bytes size = none := if_neg bytes
        rw [if_pos fault]
        change waiting.enterChecked? size type = none
        simp [enterChecked?, past]

/-- No sum overflows on an account that is in order. -/
theorem Accounts.allocChecked?_eq {live : Multiset (Nat × AllocType)} (accounts : tracker.Accounts live)
    (ranged : tracker.Ranged) (few : tracker.granted + 1 < addressSpace) (size : Nat)
    (type : AllocType) : tracker.allocChecked? size type = some (tracker.alloc size type) := by
  rw [ranged.allocChecked?_eq accounts.usable few]
  obtain ⟨next, ⟨answer, _⟩ | ⟨answer, _⟩⟩ := alloc_accounts accounts size type
  all_goals
    rw [answer]
    rfl

end Tracker

/-- The allocations that a reply grants. -/
def Reply.grants : Reply → Nat
  | .granted => 1
  | .refused => 0
  | .fault => 0

namespace Allocator

/-- The account has been found out of order. -/
def Poisoned : Allocator → Prop
  | .tracking tracker => tracker.poisoned = true
  | .answering _ => False

/-- As long as the account is in use, its counters are in their ranges. -/
def Modest : Allocator → Prop
  | .tracking tracker => tracker.poisoned = false → tracker.Ranged
  | .answering _ => True

/-- The allocations that were granted while the account was in use. -/
def granted : Allocator → Nat
  | .tracking tracker => tracker.totalGranted
  | .answering _ => 0

/-- What a call does to an allocator, whatever is live: so many allocations were granted by it at
most, and if it is a fault the account is out of order. -/
structure Called (before after : Allocator) (grants : Nat) (fault : Prop) : Prop where
  modest : before.Modest → after.Modest
  lasting : before.Poisoned → after.Poisoned
  granted : after.granted ≤ before.granted + grants
  fault : fault → after.Poisoned

theorem Called.unchanged (allocator : Allocator) (grants : Nat) :
    Called allocator allocator grants False where
  modest := id
  lasting := id
  granted := Nat.le_add_right _ _
  fault := False.elim

theorem Called.recast {before after : Allocator} {grants : Nat} {fault other : Prop}
    (called : Called before after grants fault) (weaker : other → fault) :
    Called before after grants other :=
  ⟨called.modest, called.lasting, called.granted, fun given => called.fault (weaker given)⟩

theorem alloc_called (allocator : Allocator) (size : Nat) (type : AllocType) :
    Called allocator (allocator.alloc size type).2 (allocator.alloc size type).1.grants
      ((allocator.alloc size type).1 = .fault) := by
  cases allocator with
  | answering answers =>
      rcases answers with _ | ⟨_ | _, rest⟩ <;>
        exact ⟨fun _ => trivial, False.elim, Nat.zero_le _, fun fault => by cases fault⟩
  | tracking tracker =>
      cases usable : tracker.poisoned with
      | true =>
          simp only [alloc, Tracker.alloc_poisoned usable]
          exact (Called.unchanged _ _).recast (by simp)
      | false =>
          simp only [alloc, Tracker.alloc_eq usable]
          by_cases refuses : tracker.Refuses size
          · rw [if_pos refuses]
            refine ⟨fun modest inUse => ?_, fun faulty => ?_, Nat.le_refl _, by simp⟩
            · exact ⟨(modest usable).count, (modest usable).bytes⟩
            · rw [Poisoned, usable] at faulty
              cases faulty
          · rw [if_neg refuses]
            have room : tracker.hasRoom size = true :=
              Bool.eq_true_of_not_eq_false fun full => refuses (.inr full)
            let counted := { tracker with countdown := countDown tracker.countdown }
            change Called (.tracking tracker) (.tracking (counted.enter size type).2)
              (counted.enter size type).1.grants ((counted.enter size type).1 = .fault)
            obtain ⟨next, ⟨entered, kept, granted⟩ | ⟨fault, poisoned⟩⟩ :=
              counted.enter_cases size type
            · rw [entered]
              refine ⟨fun modest inUse => ?_, fun faulty => ?_, ?_, by simp⟩
              · have ranged : counted.Ranged := ⟨(modest usable).count, (modest usable).bytes⟩
                exact Tracker.enter_ranged ranged room entered
              · rw [Poisoned, usable] at faulty
                cases faulty
              · simp [Allocator.granted, Tracker.totalGranted, kept, granted, counted, usable,
                  Reply.grants]
            · rw [fault]
              refine ⟨fun modest inUse => ?_, fun _ => poisoned, ?_, fun _ => poisoned⟩
              · rw [poisoned] at inUse
                cases inUse
              · simp [Allocator.granted, Tracker.totalGranted, poisoned]

theorem free_called (allocator : Allocator) (size : Nat) (type : AllocType) :
    Called allocator (allocator.free size type).2 0 ((allocator.free size type).1 = false) := by
  cases allocator with
  | answering answers => exact (Called.unchanged _ _).recast (by simp [free])
  | tracking tracker =>
      cases usable : tracker.poisoned with
      | true =>
          simp only [free, Tracker.free_poisoned usable]
          exact (Called.unchanged _ _).recast (by simp)
      | false =>
          simp only [free]
          refine ⟨fun modest _ => Tracker.free_ranged (modest usable) size type, fun faulty => ?_, ?_,
            Tracker.free_out_of_order⟩
          · rw [Poisoned, usable] at faulty
            cases faulty
          · simp only [Allocator.granted, Tracker.totalGranted, Tracker.free_granted, usable]
            split <;> simp

theorem failNth_called (allocator : Allocator) (n : Nat) :
    Called allocator (allocator.failNth n) 0 False := by
  cases allocator with
  | answering answers => exact .unchanged _ _
  | tracking tracker =>
      simp only [failNth, Tracker.failNth]
      split
      · exact .unchanged _ _
      · next usable =>
          refine ⟨fun modest inUse => ?_, fun faulty => absurd faulty usable, Nat.le_refl _,
            False.elim⟩
          exact ⟨(modest inUse).count, (modest inUse).bytes⟩

end Allocator

end ShaderDriver.Memory
