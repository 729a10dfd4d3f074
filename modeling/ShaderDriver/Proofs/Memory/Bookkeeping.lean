import ShaderDriver.Proofs.Memory.Account

namespace ShaderDriver.Memory

/-! The figures of an account against the record of the calls that led to them. -/

variable {size n : Nat} {type : AllocType}

/-- What an application does with an allocator that keeps an account. -/
inductive Call where
  | alloc (size : Nat) (type : AllocType)
  | free (size : Nat) (type : AllocType)
  | failNth (n : Nat)
deriving DecidableEq, Repr

/-- A call to free frees something that is live. -/
def Call.Matches (live : Multiset (Nat × AllocType)) : Call → Prop
  | .free size type => (size, type) ∈ live
  | _ => True

instance (live : Multiset (Nat × AllocType)) : DecidablePred (Call.Matches live)
  | .alloc _ _ => .isTrue trivial
  | .free size type => inferInstanceAs (Decidable ((size, type) ∈ live))
  | .failNth _ => .isTrue trivial

/-- A call with its answer. -/
inductive Entry where
  | asked (size : Nat) (type : AllocType) (reply : Reply)
  | freed (size : Nat) (type : AllocType) (inOrder : Bool)
  | armed (n : Nat)
deriving DecidableEq, Repr

namespace Entry

def faultless : Entry → Bool
  | .asked _ _ reply => reply != .fault
  | .freed _ _ inOrder => inOrder
  | .armed _ => true

def isRequest : Entry → Bool
  | .asked _ _ _ => true
  | _ => false

def isGrant : Entry → Bool
  | .asked _ _ .granted => true
  | _ => false

def isArming : Entry → Bool
  | .armed _ => true
  | _ => false

/-- What is live after a call if so much was live before it. -/
def leaves (live : Multiset (Nat × AllocType)) : Entry → Multiset (Nat × AllocType)
  | .asked size type .granted => (size, type) ::ₘ live
  | .freed size type _ => live.erase (size, type)
  | _ => live

end Entry

/-- The allocations that were granted and not freed yet. -/
def outstanding (record : List Entry) : Multiset (Nat × AllocType) :=
  record.foldl Entry.leaves 0

theorem outstanding_concat (record : List Entry) (entry : Entry) :
    outstanding (record ++ [entry]) = entry.leaves (outstanding record) := by
  simp only [outstanding, List.foldl_append, List.foldl_cons, List.foldl_nil]

/-- So many more requests are let through before one is refused: of those chosen to be let through at
the last time, all but the requests made since. -/
def Pending (record : List Entry) (left : Nat) : Prop :=
  ∃ before n since, record = before ++ .armed n :: since ∧
    (∀ entry ∈ since, entry.isArming = false) ∧ since.countP Entry.isRequest + left = n

/-- The next request is the one that was chosen to be refused. -/
def Due (record : List Entry) : Prop :=
  Pending record 0

theorem not_pending_nil (left : Nat) : ¬ Pending [] left := by
  rintro ⟨before, n, since, split, _⟩
  simp at split

theorem pending_armed (record : List Entry) (n left : Nat) :
    Pending (record ++ [.armed n]) left ↔ left = n := by
  constructor
  · rintro ⟨before, m, since, split, quiet, sum⟩
    cases since using List.reverseRecOn with
    | nil =>
        obtain ⟨_, same⟩ := List.append_inj' split rfl
        simp only [List.cons.injEq, Entry.armed.injEq, and_true] at same
        simp only [List.countP_nil, Nat.zero_add] at sum
        rw [sum, same]
    | append_singleton since last =>
        -- An entry that arms the refusal would be the last one.
        rw [← List.cons_append, ← List.append_assoc] at split
        obtain ⟨_, same⟩ := List.append_inj' split rfl
        have disarmed := quiet last (by simp)
        rw [← List.singleton_inj.mp same] at disarmed
        contradiction
  · rintro rfl
    exact ⟨record, left, [], rfl, by simp, by simp⟩

theorem pending_concat (record : List Entry) {entry : Entry} (quiet : entry.isArming = false)
    (left : Nat) :
    Pending (record ++ [entry]) left ↔
      Pending record ([entry].countP Entry.isRequest + left) := by
  constructor
  · rintro ⟨before, n, since, split, others, sum⟩
    cases since using List.reverseRecOn with
    | nil =>
        obtain ⟨_, same⟩ := List.append_inj' split rfl
        rw [List.singleton_inj.mp same] at quiet
        contradiction
    | append_singleton since last =>
        rw [← List.cons_append, ← List.append_assoc] at split
        obtain ⟨rfl, same⟩ := List.append_inj' split rfl
        rw [List.singleton_inj.mp same]
        rw [List.countP_append] at sum
        have earlier : ∀ entry ∈ since, entry.isArming = false :=
          fun entry member => others entry (List.mem_append_left _ member)
        exact ⟨before, n, since, rfl, earlier, by omega⟩
  · rintro ⟨before, n, since, rfl, others, sum⟩
    refine ⟨before, n, since ++ [entry], by simp, ?_, ?_⟩
    · simpa [or_imp, forall_and] using ⟨others, quiet⟩
    · rw [List.countP_append]
      omega

/-- What a request leaves of a countdown. -/
def countDown (countdown : Option Nat) : Option Nat :=
  countdown.bind fun n => if n = 0 then none else some (n - 1)

def Entry.counts (countdown : Option Nat) : Entry → Option Nat
  | .asked _ _ _ => countDown countdown
  | .freed _ _ _ => countdown
  | .armed n => some n

def waiting (record : List Entry) : Option Nat :=
  record.foldl Entry.counts none

theorem waiting_concat (record : List Entry) (entry : Entry) :
    waiting (record ++ [entry]) = entry.counts (waiting record) := by
  simp only [waiting, List.foldl_append, List.foldl_cons, List.foldl_nil]

/-- The countdown counts the requests since it was set, and ends with the refusal. -/
theorem waiting_eq_some (record : List Entry) (left : Nat) :
    waiting record = some left ↔ Pending record left := by
  induction record using List.reverseRecOn generalizing left with
  | nil => simp [waiting, not_pending_nil]
  | append_singleton record entry ih =>
      rw [waiting_concat]
      cases entry with
      | armed n => simp [Entry.counts, pending_armed, eq_comm]
      | freed size type inOrder =>
          rw [pending_concat record rfl, ← ih]
          simp [Entry.counts, Entry.isRequest]
      | asked size type reply =>
          rw [pending_concat record rfl, ← ih]
          cases waiting record with
          | none => simp [Entry.counts, countDown]
          | some n => cases n <;> simp [Entry.counts, countDown, Entry.isRequest, Nat.add_comm 1]

theorem waiting_eq_zero (record : List Entry) : waiting record = some 0 ↔ Due record :=
  waiting_eq_some record 0

/-- An amount of each type, added up. -/
def overTypes (amount : AllocType → Nat) : Nat :=
  AllocType.all.foldl (fun total type => total + amount type) 0

theorem Usage.count_overTypes (live : Multiset (Nat × AllocType)) :
    overTypes (fun type => (Usage.total live type).count) = live.card := by
  induction live using Multiset.induction with
  | empty => rfl
  | cons allocation live ih =>
      obtain ⟨size, type⟩ := allocation
      rw [Multiset.card_cons, ← ih]
      cases type <;> simp [overTypes, AllocType.all, Usage.total_cons] <;> omega

theorem Usage.bytes_overTypes (live : Multiset (Nat × AllocType)) :
    overTypes (fun type => (Usage.total live type).bytes) = (live.map Prod.fst).sum := by
  induction live using Multiset.induction with
  | empty => rfl
  | cons allocation live ih =>
      obtain ⟨size, type⟩ := allocation
      rw [Multiset.map_cons, Multiset.sum_cons, ← ih]
      cases type <;> simp [overTypes, AllocType.all, Usage.total_cons] <;> omega

namespace Tracker

variable {tracker next : Tracker} {live : Multiset (Nat × AllocType)}

def perform (tracker : Tracker) : Call → Entry × Tracker
  | .alloc size type =>
      let (reply, next) := tracker.alloc size type
      (.asked size type reply, next)
  | .free size type =>
      let (inOrder, next) := tracker.free size type
      (.freed size type inOrder, next)
  | .failNth n => (.armed n, tracker.failNth n)

/-- The record of some calls, and what they leave. -/
def performAll (tracker : Tracker) : List Call → List Entry × Tracker
  | [] => ([], tracker)
  | call :: rest =>
      let (entry, next) := tracker.perform call
      let (record, last) := next.performAll rest
      (entry :: record, last)

/-- Every call to free frees an allocation that was granted and not freed yet. -/
def Matching (tracker : Tracker) (live : Multiset (Nat × AllocType)) : List Call → Prop
  | [] => True
  | call :: rest =>
      call.Matches live ∧
        (tracker.perform call).2.Matching ((tracker.perform call).1.leaves live) rest

instance decidableMatching (tracker : Tracker) (live : Multiset (Nat × AllocType)) :
    (calls : List Call) → Decidable (tracker.Matching live calls)
  | [] => .isTrue trivial
  | call :: rest =>
      have := decidableMatching (tracker.perform call).2
        ((tracker.perform call).1.leaves live) rest
      inferInstanceAs (Decidable (_ ∧ _))

/-- The figures that an application can ask for. -/
structure Figures where
  usage : AllocType → Usage
  liveCount : Nat
  liveBytes : Nat
  granted : Nat

def figures (tracker : Tracker) : Figures :=
  { usage := tracker.liveUsage
    liveCount := tracker.liveCount
    liveBytes := tracker.totalBytes
    granted := tracker.totalGranted }

/-- There is no room for a request, or it is the one that was to be refused. -/
def Refuses (tracker : Tracker) (size : Nat) : Prop :=
  tracker.countdown = some 0 ∨ tracker.hasRoom size = false

instance (tracker : Tracker) (size : Nat) : Decidable (tracker.Refuses size) :=
  inferInstanceAs (Decidable (_ ∨ _))

theorem hasRoom_eq_false : tracker.hasRoom size = false ↔
    (∃ limit, tracker.budget = some limit ∧ limit < tracker.liveBytes + size) ∨
      addressSpace ≤ tracker.liveBytes + size := by
  unfold hasRoom
  cases tracker.budget with
  | none => simp
  | some limit => simp [or_comm, Classical.or_iff_not_imp_left]

theorem hasRoom_countdown (tracker : Tracker) (countdown : Option Nat) (size : Nat) :
    hasRoom { tracker with countdown } size = tracker.hasRoom size := rfl

theorem Accounts.liveCount (accounts : tracker.Accounts live) : tracker.liveCount = live.card := by
  have counted := Usage.count_overTypes live
  simp only [← accounts.liveUsage] at counted
  exact counted

theorem alloc_eq (usable : tracker.poisoned = false) (size : Nat) (type : AllocType) :
    tracker.alloc size type =
      if tracker.Refuses size then
        (.refused, { tracker with countdown := countDown tracker.countdown })
      else enter { tracker with countdown := countDown tracker.countdown } size type := by
  have sound : ¬ tracker.poisoned = true := by simp [usable]
  rw [alloc, if_neg sound]
  cases room : tracker.hasRoom size <;> rcases waits : tracker.countdown with _ | _ | n <;>
    simp [Refuses, countDown, hasRoom_countdown, waits, room]

theorem enter_granted (entered : tracker.enter size type = (.granted, next)) :
    next = { tracker with
      usage := next.usage
      liveBytes := tracker.liveBytes + size
      granted := tracker.granted + 1 } := by
  rw [enter] at entered
  split at entered
  · cases entered
    rfl
  · cases entered

/-- A request that is let through is granted, and one that is not changes nothing but the
countdown. -/
theorem alloc_outcome (accounts : tracker.Accounts live) (size : Nat) (type : AllocType) :
    (tracker.Refuses size ∧ tracker.alloc size type =
      (.refused, { tracker with countdown := countDown tracker.countdown })) ∨
    (¬ tracker.Refuses size ∧ ∃ next, tracker.alloc size type = (.granted, next) ∧
      next.Accounts ((size, type) ::ₘ live) ∧
      next = { tracker with
        usage := next.usage
        liveBytes := tracker.liveBytes + size
        granted := tracker.granted + 1
        countdown := countDown tracker.countdown }) := by
  rw [alloc_eq accounts.usable]
  by_cases refuses : tracker.Refuses size
  · rw [if_pos refuses]
    exact .inl ⟨refuses, rfl⟩
  · have room : tracker.hasRoom size = true := by
      apply Bool.eq_true_of_not_eq_false
      exact fun full => refuses (.inr full)
    obtain ⟨next, entered, listed⟩ :=
      (accounts.countdown (countDown tracker.countdown)).enter type room
    rw [if_neg refuses]
    exact .inr ⟨refuses, next, entered, listed, enter_granted entered⟩

theorem free_keeps (accounts : tracker.Accounts ((size, type) ::ₘ live)) :
    ∃ usage, (tracker.free size type).2 =
      { tracker with usage, liveBytes := tracker.liveBytes - size } := by
  have sound : ¬ tracker.poisoned = true := by simp [accounts.usable]
  simp only [free, if_neg sound, usage_of_listed accounts, Nat.add_one_ne_zero, if_false]
  exact ⟨_, rfl⟩

/-- What the account says after the calls on the record. -/
structure Follows (limit : Option Nat) (record : List Entry) (tracker : Tracker) : Prop where
  accounts : tracker.Accounts (outstanding record)
  granted : tracker.granted = record.countP Entry.isGrant
  budget : tracker.budget = limit
  countdown : tracker.countdown = waiting record
  space : tracker.liveBytes < addressSpace
  within : ∀ most, limit = some most → tracker.liveBytes ≤ most
  faultless : ∀ entry ∈ record, entry.faultless = true

variable {limit : Option Nat} {record : List Entry}

theorem withBudget_follows (limit : Option Nat) : Follows limit [] (withBudget limit) where
  accounts := withBudget_accounts limit
  granted := rfl
  budget := rfl
  countdown := rfl
  space := by simp [withBudget, addressSpace]
  within _ _ := Nat.zero_le _
  faultless := by simp

theorem Follows.refuses_iff (follows : Follows limit record tracker) (size : Nat) :
    tracker.Refuses size ↔ Due record ∨
      (∃ most, limit = some most ∧ most < ((outstanding record).map Prod.fst).sum + size) ∨
      addressSpace ≤ ((outstanding record).map Prod.fst).sum + size := by
  rw [Refuses, follows.countdown, waiting_eq_zero, hasRoom_eq_false, follows.budget,
    follows.accounts.bytes]

theorem Follows.alloc (follows : Follows limit record tracker) (size : Nat) (type : AllocType) :
    Follows limit (record ++ [(tracker.perform (.alloc size type)).1])
      (tracker.perform (.alloc size type)).2 := by
  obtain ⟨_, answer⟩ | ⟨lets, next, answer, listed, shape⟩ :=
    alloc_outcome follows.accounts size type
  · simp only [perform, answer]
    constructor
    case accounts =>
      rw [outstanding_concat]
      exact follows.accounts.countdown _
    case granted => simp [follows.granted, Entry.isGrant]
    case budget => exact follows.budget
    case countdown => rw [waiting_concat, ← follows.countdown, Entry.counts]
    case space => exact follows.space
    case within => exact follows.within
    case faultless => simpa [or_imp, forall_and, Entry.faultless] using follows.faultless
  · have room := mt (follows.refuses_iff size).mpr lets
    rw [← follows.accounts.bytes] at room
    simp only [perform, answer]
    constructor
    case accounts =>
      rw [outstanding_concat]
      exact listed
    case granted =>
      rw [shape]
      simp [follows.granted, Entry.isGrant]
    case budget => rw [shape, follows.budget]
    case countdown => rw [shape, waiting_concat, ← follows.countdown, Entry.counts]
    case space =>
      rw [shape]
      exact Nat.lt_of_not_le fun full => room (.inr (.inr full))
    case within =>
      intro most limited
      rw [shape]
      exact Nat.le_of_not_lt fun past => room (.inr (.inl ⟨most, limited, past⟩))
    case faultless => simpa [or_imp, forall_and, Entry.faultless] using follows.faultless

theorem Follows.free (follows : Follows limit record tracker)
    (live : (size, type) ∈ outstanding record) :
    Follows limit (record ++ [(tracker.perform (.free size type)).1])
      (tracker.perform (.free size type)).2 := by
  have accounts : tracker.Accounts ((size, type) ::ₘ (outstanding record).erase (size, type)) := by
    rw [Multiset.cons_erase live]
    exact follows.accounts
  obtain ⟨next, answer, listed⟩ := free_accounts accounts
  obtain ⟨usage, shape⟩ := free_keeps accounts
  simp only [answer] at shape
  simp only [perform, answer]
  constructor
  case accounts =>
    rw [outstanding_concat]
    exact listed
  case granted => simp [shape, follows.granted, Entry.isGrant]
  case budget => rw [shape, follows.budget]
  case countdown => rw [shape, waiting_concat, ← follows.countdown, Entry.counts]
  case space =>
    rw [shape]
    exact Nat.lt_of_le_of_lt (Nat.sub_le _ _) follows.space
  case within =>
    intro most limited
    rw [shape]
    exact Nat.le_trans (Nat.sub_le _ _) (follows.within most limited)
  case faultless => simpa [or_imp, forall_and, Entry.faultless] using follows.faultless

theorem Follows.failNth (follows : Follows limit record tracker) (n : Nat) :
    Follows limit (record ++ [(tracker.perform (.failNth n)).1])
      (tracker.perform (.failNth n)).2 := by
  have sound : ¬ tracker.poisoned = true := by simp [follows.accounts.usable]
  simp only [perform, Tracker.failNth, if_neg sound]
  constructor
  case accounts =>
    rw [outstanding_concat]
    exact follows.accounts.countdown _
  case granted => simp [follows.granted, Entry.isGrant]
  case budget => exact follows.budget
  case countdown => rw [waiting_concat, Entry.counts]
  case space => exact follows.space
  case within => exact follows.within
  case faultless => simpa [or_imp, forall_and, Entry.faultless] using follows.faultless

theorem Follows.perform (follows : Follows limit record tracker) (call : Call)
    (matched : call.Matches (outstanding record)) :
    Follows limit (record ++ [(tracker.perform call).1]) (tracker.perform call).2 := by
  cases call with
  | alloc size type => exact follows.alloc size type
  | free size type => exact follows.free matched
  | failNth n => exact follows.failNth n

theorem Follows.performAll (follows : Follows limit record tracker) (calls : List Call)
    (matching : tracker.Matching (outstanding record) calls) :
    Follows limit (record ++ (tracker.performAll calls).1) (tracker.performAll calls).2 := by
  induction calls generalizing record tracker with
  | nil =>
      rw [Tracker.performAll, List.append_nil]
      exact follows
  | cons call rest ih =>
      obtain ⟨matched, later⟩ := matching
      rw [← outstanding_concat] at later
      have last := ih (follows.perform call matched) later
      rwa [List.append_assoc, List.singleton_append] at last

theorem performAll_length (tracker : Tracker) (calls : List Call) :
    (tracker.performAll calls).1.length = calls.length := by
  induction calls generalizing tracker with
  | nil => rfl
  | cons call rest ih => simp [performAll, ih]

theorem Follows.liveCount (follows : Follows limit record tracker) :
    tracker.liveCount = (outstanding record).card :=
  follows.accounts.liveCount

theorem Follows.totalGranted (follows : Follows limit record tracker) :
    tracker.totalGranted = record.countP Entry.isGrant := by
  have sound : ¬ tracker.poisoned = true := by simp [follows.accounts.usable]
  rw [Tracker.totalGranted, if_neg sound, follows.granted]

theorem outstanding_card_le (record : List Entry) :
    (outstanding record).card ≤ record.countP Entry.isGrant := by
  induction record using List.reverseRecOn with
  | nil => exact Nat.zero_le _
  | append_singleton record entry ih =>
      rw [outstanding_concat, List.countP_append]
      rcases entry with ⟨size, type, _ | _ | _⟩ | ⟨size, type, _⟩ | n
      case freed =>
        have fewer := Multiset.card_erase_le (a := (size, type)) (s := outstanding record)
        simp [Entry.leaves, Entry.isGrant]
        omega
      all_goals simpa [Entry.leaves, Entry.isGrant] using ih

/-- As long as what is freed is live, the account is exact: the figures of each type and the totals
are those of the allocations that are live, a request is refused for one of the three reasons only
and then changes no figure, and no call faults. -/
theorem account_is_exact (limit : Option Nat) (calls : List Call)
    (matching : (withBudget limit).Matching 0 calls) (few : calls.length < 2 ^ 64) :
    let record := ((withBudget limit).performAll calls).1
    let tracker := ((withBudget limit).performAll calls).2
    let live := outstanding record
    (∀ type, tracker.liveUsage type = Usage.total live type) ∧
    (tracker.liveCount = live.card ∧
      tracker.liveCount = overTypes fun type => (tracker.liveUsage type).count) ∧
    (tracker.totalBytes = (live.map Prod.fst).sum ∧
      tracker.totalBytes = overTypes fun type => (tracker.liveUsage type).bytes) ∧
    (∀ most, limit = some most → tracker.totalBytes ≤ most) ∧
    tracker.totalGranted = record.countP Entry.isGrant ∧
    (∀ size type,
      ((tracker.alloc size type).1 = .refused ↔ Due record ∨
        (∃ most, limit = some most ∧ most < (live.map Prod.fst).sum + size) ∨
        2 ^ 64 ≤ (live.map Prod.fst).sum + size) ∧
      ((tracker.alloc size type).1 = .refused →
        (tracker.alloc size type).2.figures = tracker.figures) ∧
      (tracker.alloc size type).1 ≠ .fault) ∧
    (∀ entry ∈ record, entry.faultless = true) ∧
    tracker.totalGranted < 2 ^ 64 ∧ tracker.liveCount < 2 ^ 64 ∧ tracker.totalBytes < 2 ^ 64 := by
  intro record tracker live
  have follows : Follows limit record tracker := by
    simpa only [List.nil_append] using (withBudget_follows limit).performAll calls matching
  have granted : tracker.totalGranted < 2 ^ 64 := by
    have most := List.countP_le_length (l := record) (p := Entry.isGrant)
    rw [performAll_length] at most
    rw [follows.totalGranted]
    exact Nat.lt_of_le_of_lt most few
  have counted : tracker.liveCount < 2 ^ 64 := by
    rw [follows.liveCount]
    exact Nat.lt_of_le_of_lt (outstanding_card_le record) (follows.totalGranted ▸ granted)
  have bytes : tracker.totalBytes = tracker.liveBytes := by
    rw [follows.accounts.totalBytes, follows.accounts.bytes]
  refine ⟨follows.accounts.liveUsage, ⟨follows.liveCount, rfl⟩,
    ⟨follows.accounts.totalBytes, ?_⟩, ?_, follows.totalGranted, fun size type => ?_,
    follows.faultless, granted, counted, ?_⟩
  · simp only [follows.accounts.totalBytes, follows.accounts.liveUsage, Usage.bytes_overTypes]
  · intro most limited
    rw [bytes]
    exact follows.within most limited
  · have reasons := follows.refuses_iff size
    obtain ⟨refuses, answer⟩ | ⟨lets, next, answer, _, _⟩ :=
      alloc_outcome follows.accounts size type
    · rw [answer]
      exact ⟨⟨fun _ => reasons.mp refuses, fun _ => rfl⟩, fun _ => rfl, by simp⟩
    · have allowed := mt reasons.mpr lets
      rw [answer]
      exact ⟨⟨nofun, fun reason => absurd reason allowed⟩, nofun, nofun⟩
  · rw [bytes]
    exact follows.space

/-- One request refused as chosen, one for the budget, and one that fits after a release. -/
theorem account_of_a_tight_budget :
    let calls : List Call := [.failNth 1, .alloc 60 .internal, .alloc 10 .debug,
      .alloc 60 .internal, .free 60 .internal, .alloc 90 .debug]
    let record := ((withBudget (some 100)).performAll calls).1
    let tracker := ((withBudget (some 100)).performAll calls).2
    outstanding record = {(90, .debug)} ∧
      tracker.liveCount = 1 ∧ tracker.totalBytes = 90 ∧ tracker.totalGranted = 2 ∧
      (tracker.alloc 11 .internal).1 = .refused := by
  intro calls record tracker
  obtain ⟨_, ⟨count, _⟩, ⟨bytes, _⟩, _, granted, refusals, _⟩ :=
    account_is_exact (some 100) calls (by decide) (by decide)
  have live : outstanding record = {(90, .debug)} := by decide
  refine ⟨live, ?_, ?_, ?_, ?_⟩
  · rw [count, live]
    rfl
  · rw [bytes, live]
    rfl
  · rw [granted]
    decide
  · apply (refusals 11 .internal).1.mpr
    rw [live]
    exact .inr (.inl ⟨100, rfl, by decide⟩)

end Tracker

end ShaderDriver.Memory
