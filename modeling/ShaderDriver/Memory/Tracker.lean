import ShaderDriver.Memory.AllocType

namespace ShaderDriver.Memory

/-! Accounting of system memory: how many allocations of each type are live and how large they are,
with an optional budget and an optional refusal of one request to come. -/

/-- Sizes and totals stay below this number. -/
def addressSpace : Nat := Nat.pow 2 64

structure Usage where
  count : Nat
  bytes : Nat
deriving DecidableEq, Repr

structure Tracker where
  /-- A type has a usage once an allocation of it was granted. -/
  usage : ByType (Option Usage)
  liveBytes : Nat
  /-- Allocations granted so far. -/
  granted : Nat
  budget : Option Nat
  /-- Requests that are still let through before one is refused. -/
  countdown : Option Nat
  /-- Set by a fault in the accounting; the tracker is of no use from then on. -/
  poisoned : Bool
deriving DecidableEq, Repr

/-- What a request for memory leads to. -/
inductive Reply where
  | granted
  | refused
  | fault
deriving DecidableEq, Repr

namespace Tracker

def withBudget (budget : Option Nat) : Tracker :=
  { usage := .every none, liveBytes := 0, granted := 0, budget, countdown := none, poisoned := false }

/-- Whether so many more bytes stay inside the address space and the budget. -/
def hasRoom (tracker : Tracker) (size : Nat) : Bool :=
  tracker.liveBytes + size < addressSpace &&
    (match tracker.budget with
      | none => true
      | some budget => tracker.liveBytes + size ≤ budget)

def usageOf (tracker : Tracker) (type : AllocType) : Usage :=
  (tracker.usage.get type).getD { count := 0, bytes := 0 }

/-- Enters an allocation that there is room for. The bytes of its type can still leave the address
space, if earlier releases took more from the total than from the type. -/
def enter (tracker : Tracker) (size : Nat) (type : AllocType) : Reply × Tracker :=
  let before := tracker.usageOf type
  let counted := { tracker with
    liveBytes := tracker.liveBytes + size
    granted := tracker.granted + 1 }
  if before.bytes + size < addressSpace then
    (.granted, { counted with
      usage := tracker.usage.set type
        (some { count := before.count + 1, bytes := before.bytes + size }) })
  else (.fault, { counted with poisoned := true })

def alloc (tracker : Tracker) (size : Nat) (type : AllocType) : Reply × Tracker :=
  if tracker.poisoned then (.refused, tracker)
  else
    match tracker.countdown with
    | some 0 => (.refused, { tracker with countdown := none })
    | countdown =>
        let next := { tracker with countdown := countdown.map (· - 1) }
        if next.hasRoom size then next.enter size type else (.refused, next)

/-- Takes an allocation off the account, and tells whether the account was in order: a type that is
known to have no live allocation is a fault. -/
def free (tracker : Tracker) (size : Nat) (type : AllocType) : Bool × Tracker :=
  if tracker.poisoned then (true, tracker)
  else
    let lowered := { tracker with liveBytes := tracker.liveBytes - size }
    match tracker.usage.get type with
    | none => (true, lowered)
    | some usage =>
        if usage.count = 0 then (false, { lowered with poisoned := true })
        else
          (true, { lowered with
            usage := tracker.usage.set type
              (some { count := usage.count - 1, bytes := usage.bytes - size }) })

/-- Refuses the request after the next `n`, once. -/
def failNth (tracker : Tracker) (n : Nat) : Tracker :=
  if tracker.poisoned then tracker else { tracker with countdown := some n }

def liveUsage (tracker : Tracker) (type : AllocType) : Usage :=
  if tracker.poisoned then { count := 0, bytes := 0 } else tracker.usageOf type

def liveCount (tracker : Tracker) : Nat :=
  AllocType.all.foldl (fun total type => total + (tracker.liveUsage type).count) 0

def totalBytes (tracker : Tracker) : Nat :=
  if tracker.poisoned then 0 else tracker.liveBytes

def totalGranted (tracker : Tracker) : Nat :=
  if tracker.poisoned then 0 else tracker.granted

end Tracker

/-- An allocator of the application: one that keeps an account, or one whose answers are given
beforehand and which refuses when they are used up. -/
inductive Allocator where
  | tracking (tracker : Tracker)
  | answering (answers : List Bool)
deriving DecidableEq, Repr

namespace Allocator

def alloc (allocator : Allocator) (size : Nat) (type : AllocType) : Reply × Allocator :=
  match allocator with
  | .tracking tracker =>
      let (reply, next) := tracker.alloc size type
      (reply, .tracking next)
  | .answering [] => (.refused, .answering [])
  | .answering (answer :: rest) => (if answer then .granted else .refused, .answering rest)

def free (allocator : Allocator) (size : Nat) (type : AllocType) : Bool × Allocator :=
  match allocator with
  | .tracking tracker =>
      let (inOrder, next) := tracker.free size type
      (inOrder, .tracking next)
  | .answering answers => (true, .answering answers)

def failNth (allocator : Allocator) (n : Nat) : Allocator :=
  match allocator with
  | .tracking tracker => .tracking (tracker.failNth n)
  | .answering answers => .answering answers

end Allocator

end ShaderDriver.Memory
