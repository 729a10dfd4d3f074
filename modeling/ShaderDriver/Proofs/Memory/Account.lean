import Mathlib.Algebra.BigOperators.Group.Multiset.Basic
import Mathlib.Algebra.Order.BigOperators.Group.Multiset
import Mathlib.Data.Multiset.Filter
import ShaderDriver.Memory.Tracker

namespace ShaderDriver.Memory

/-! An account against the allocations that it ought to list, each of them a size and a type. -/

variable {tracker next : Tracker} {live : Multiset (Nat × AllocType)} {size : Nat} {type : AllocType}

/-- How many of the allocations are of a type, and how large they are together. -/
def Usage.total (live : Multiset (Nat × AllocType)) (type : AllocType) : Usage :=
  { count := (live.filter fun allocation => allocation.2 = type).card
    bytes := ((live.filter fun allocation => allocation.2 = type).map Prod.fst).sum }

theorem Usage.total_cons (live : Multiset (Nat × AllocType)) (size : Nat) (type other : AllocType) :
    Usage.total ((size, type) ::ₘ live) other =
      if other = type then
        { count := (Usage.total live type).count + 1, bytes := (Usage.total live type).bytes + size }
      else Usage.total live other := by
  by_cases same : other = type
  · subst other
    simp [Usage.total, Nat.add_comm]
  · have distinct : ¬ type = other := fun equal => same equal.symm
    simp [Usage.total, same, distinct]

theorem Usage.total_bytes_le (live : Multiset (Nat × AllocType)) (type : AllocType) :
    (Usage.total live type).bytes ≤ (live.map Prod.fst).sum := by
  have split := congrArg Multiset.sum (congrArg (Multiset.map Prod.fst)
    (Multiset.filter_add_not (fun allocation => allocation.2 = type) live))
  rw [Multiset.map_add, Multiset.sum_add] at split
  change (Multiset.map _ _).sum ≤ _
  omega

namespace Tracker

/-- The account lists exactly the live allocations. -/
structure Accounts (tracker : Tracker) (live : Multiset (Nat × AllocType)) : Prop where
  usable : tracker.poisoned = false
  usage : ∀ type, tracker.usageOf type = Usage.total live type
  bytes : tracker.liveBytes = (live.map Prod.fst).sum

theorem withBudget_accounts (budget : Option Nat) : (withBudget budget).Accounts 0 where
  usable := rfl
  usage type := by cases type <;> rfl
  bytes := rfl

theorem Accounts.countdown (accounts : tracker.Accounts live) (countdown : Option Nat) :
    { tracker with countdown }.Accounts live :=
  ⟨accounts.usable, accounts.usage, accounts.bytes⟩

theorem failNth_accounts (accounts : tracker.Accounts live) (n : Nat) :
    (tracker.failNth n).Accounts live := by
  have usable : ¬ tracker.poisoned = true := by simp [accounts.usable]
  rw [failNth, if_neg usable]
  exact accounts.countdown (some n)

theorem usageOf_set (tracker : Tracker) (usage : Usage) (liveBytes granted : Nat)
    (type other : AllocType) :
    { tracker with usage := tracker.usage.set type (some usage), liveBytes, granted }.usageOf other =
      if other = type then usage else tracker.usageOf other := by
  simp only [usageOf, ByType.get_set]
  split <;> rfl

/-- With room for the total there is room for the type, so entering an allocation is no fault. -/
theorem Accounts.enter (accounts : tracker.Accounts live) (type : AllocType)
    (room : tracker.hasRoom size = true) :
    ∃ next, tracker.enter size type = (.granted, next) ∧ next.Accounts ((size, type) ::ₘ live) := by
  have total : tracker.liveBytes + size < addressSpace := by
    simp only [hasRoom, Bool.and_eq_true, decide_eq_true_eq] at room
    exact room.1
  have part := Usage.total_bytes_le live type
  rw [← accounts.usage, ← accounts.bytes] at part
  have fits : (tracker.usageOf type).bytes + size < addressSpace := by omega
  simp only [Tracker.enter, if_pos fits]
  refine ⟨_, rfl, accounts.usable, fun other => ?_, ?_⟩
  · rw [usageOf_set, Usage.total_cons, ← accounts.usage, ← accounts.usage]
  · rw [Multiset.map_cons, Multiset.sum_cons, accounts.bytes]
    exact Nat.add_comm _ _

theorem alloc_accounts (accounts : tracker.Accounts live) (size : Nat) (type : AllocType) :
    ∃ next, tracker.alloc size type = (.refused, next) ∧ next.Accounts live ∨
      tracker.alloc size type = (.granted, next) ∧ next.Accounts ((size, type) ::ₘ live) := by
  have usable : ¬ tracker.poisoned = true := by simp [accounts.usable]
  unfold alloc
  rw [if_neg usable]
  split
  · exact ⟨_, .inl ⟨rfl, accounts.countdown none⟩⟩
  · have waiting := accounts.countdown (tracker.countdown.map (· - 1))
    by_cases room : hasRoom { tracker with countdown := tracker.countdown.map (· - 1) } size = true
    · obtain ⟨next, entered, listed⟩ := waiting.enter type room
      exact ⟨next, .inr ⟨by rw [if_pos room]; exact entered, listed⟩⟩
    · exact ⟨_, .inl ⟨by rw [if_neg room], waiting⟩⟩

theorem usage_of_listed (accounts : tracker.Accounts ((size, type) ::ₘ live)) :
    tracker.usage.get type =
      some { count := (Usage.total live type).count + 1, bytes := (Usage.total live type).bytes + size } := by
  have usage := accounts.usage type
  rw [Usage.total_cons, if_pos rfl] at usage
  cases known : tracker.usage.get type with
  | none => simp [usageOf, known] at usage
  | some found => simpa only [usageOf, known, Option.getD_some, Option.some.injEq] using usage

/-- Taking a listed allocation off the account is no fault. -/
theorem free_accounts (accounts : tracker.Accounts ((size, type) ::ₘ live)) :
    ∃ next, tracker.free size type = (true, next) ∧ next.Accounts live := by
  have usable : ¬ tracker.poisoned = true := by simp [accounts.usable]
  have bytes := accounts.bytes
  rw [Multiset.map_cons, Multiset.sum_cons] at bytes
  simp only [free, if_neg usable, usage_of_listed accounts, Nat.add_one_ne_zero, if_false,
    Nat.add_sub_cancel]
  refine ⟨_, rfl, accounts.usable, fun other => ?_, ?_⟩
  · rw [usageOf_set]
    split
    · next same => rw [same]
    · next distinct => rw [accounts.usage, Usage.total_cons, if_neg distinct]
  · change tracker.liveBytes - size = _
    omega

/-- The states of an account in a history in which every release takes back an allocation that was
granted and not released yet, with what is live at the time. -/
inductive Matched : Tracker → Multiset (Nat × AllocType) → Prop where
  | new (budget : Option Nat) : Matched (withBudget budget) 0
  | granted {tracker next : Tracker} {live : Multiset (Nat × AllocType)} {size : Nat}
      {type : AllocType} (before : Matched tracker live)
      (answer : tracker.alloc size type = (.granted, next)) : Matched next ((size, type) ::ₘ live)
  | refused {tracker next : Tracker} {live : Multiset (Nat × AllocType)} {size : Nat}
      {type : AllocType} (before : Matched tracker live)
      (answer : tracker.alloc size type = (.refused, next)) : Matched next live
  | freed {tracker : Tracker} {live : Multiset (Nat × AllocType)} {size : Nat} {type : AllocType}
      (before : Matched tracker ((size, type) ::ₘ live)) : Matched (tracker.free size type).2 live
  | failNth {tracker : Tracker} {live : Multiset (Nat × AllocType)} (before : Matched tracker live)
      (n : Nat) : Matched (tracker.failNth n) live

theorem Matched.accounts (matched : tracker.Matched live) : tracker.Accounts live := by
  induction matched with
  | new budget => exact withBudget_accounts budget
  | failNth _ n ih => exact failNth_accounts ih n
  | freed _ ih =>
      obtain ⟨next, freed, listed⟩ := free_accounts ih
      rw [freed]
      exact listed
  | @granted tracker next live size type _ answer ih =>
      obtain ⟨last, ⟨refused, _⟩ | ⟨granted, listed⟩⟩ := alloc_accounts ih size type
      · rw [answer] at refused
        cases refused
      · rw [answer] at granted
        cases granted
        exact listed
  | @refused tracker next live size type _ answer ih =>
      obtain ⟨last, ⟨refused, listed⟩ | ⟨granted, _⟩⟩ := alloc_accounts ih size type
      · rw [answer] at refused
        cases refused
        exact listed
      · rw [answer] at granted
        cases granted

theorem Accounts.liveUsage (accounts : tracker.Accounts live) (type : AllocType) :
    tracker.liveUsage type = Usage.total live type := by
  have usable : ¬ tracker.poisoned = true := by simp [accounts.usable]
  rw [Tracker.liveUsage, if_neg usable, accounts.usage]

theorem Accounts.totalBytes (accounts : tracker.Accounts live) :
    tracker.totalBytes = (live.map Prod.fst).sum := by
  have usable : ¬ tracker.poisoned = true := by simp [accounts.usable]
  rw [Tracker.totalBytes, if_neg usable, accounts.bytes]

end Tracker

namespace Allocator

variable {allocator : Allocator}

/-- An allocator that keeps an account lists exactly the live allocations. -/
def Accounts (allocator : Allocator) (live : Multiset (Nat × AllocType)) : Prop :=
  ∀ tracker, allocator = .tracking tracker → tracker.Accounts live

theorem answering_accounts (answers : List Bool) : (Allocator.answering answers).Accounts live :=
  fun _ impossible => Allocator.noConfusion impossible

theorem tracking_accounts : (Allocator.tracking tracker).Accounts live ↔ tracker.Accounts live := by
  constructor
  · exact fun accounts => accounts tracker rfl
  · rintro accounts _ ⟨rfl⟩
    exact accounts

theorem alloc_listed (accounts : allocator.Accounts live) (size : Nat) (type : AllocType) :
    ∃ next, allocator.alloc size type = (.refused, next) ∧ next.Accounts live ∨
      allocator.alloc size type = (.granted, next) ∧ next.Accounts ((size, type) ::ₘ live) := by
  cases allocator with
  | tracking tracker =>
      obtain ⟨next, answer⟩ := Tracker.alloc_accounts (tracking_accounts.mp accounts) size type
      refine ⟨.tracking next, answer.imp ?_ ?_⟩
      all_goals
        rintro ⟨answered, listed⟩
        exact ⟨by simp only [alloc, answered], tracking_accounts.mpr listed⟩
  | answering answers =>
      cases answers with
      | nil => exact ⟨_, .inl ⟨rfl, answering_accounts _⟩⟩
      | cons answer rest =>
          cases answer
          · exact ⟨_, .inl ⟨rfl, answering_accounts _⟩⟩
          · exact ⟨_, .inr ⟨rfl, answering_accounts _⟩⟩

theorem free_listed (accounts : allocator.Accounts ((size, type) ::ₘ live)) :
    ∃ next, allocator.free size type = (true, next) ∧ next.Accounts live := by
  cases allocator with
  | tracking tracker =>
      obtain ⟨next, freed, listed⟩ := Tracker.free_accounts (tracking_accounts.mp accounts)
      exact ⟨.tracking next, by simp only [free, freed], tracking_accounts.mpr listed⟩
  | answering answers => exact ⟨_, rfl, answering_accounts _⟩

theorem failNth_listed (accounts : allocator.Accounts live) (n : Nat) :
    (allocator.failNth n).Accounts live := by
  cases allocator with
  | tracking tracker =>
      exact tracking_accounts.mpr (Tracker.failNth_accounts (tracking_accounts.mp accounts) n)
  | answering answers => exact answering_accounts _

end Allocator

end ShaderDriver.Memory
