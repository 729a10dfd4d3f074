import ShaderDriver.Cells

namespace ShaderDriver

/-! Registries hand out a handle for each value that is put in. A place is used again after its
value was taken out, the last one vacated first, under a version that no handle has had before. -/

inductive ObjectKind where
  | device
  | shader
deriving DecidableEq, Repr

namespace ObjectKind

def name : ObjectKind → String
  | .device => "Device"
  | .shader => "Shader"

end ObjectKind

structure Handle (kind : ObjectKind) where
  index : Nat
  version : UInt32
deriving DecidableEq, Repr

namespace Handle

variable {kind : ObjectKind}

/-- The index that no value is ever put under. -/
def nullIndex : Nat := 4294967295

/-- Index and version, as users write a handle. -/
def text (handle : Handle kind) : String :=
  if handle.index = nullIndex then "null"
  else toString handle.index ++ "v" ++ toString handle.version.toNat

def typedText (handle : Handle kind) : String :=
  kind.name ++ "Handle(" ++ handle.text ++ ")"

/-- The handle that users mean by an index and a version; versions of handles are odd. -/
def ofParts (kind : ObjectKind) (index : Nat) (version : UInt32) : Handle kind :=
  { index, version := version ||| 1 }

end Handle

structure Slot (α : Type) where
  version : UInt32
  value : Option α
deriving DecidableEq, Repr

structure Registry (kind : ObjectKind) (α : Type) where
  slots : Cells (Slot α)
  /-- The highest index in use so far. -/
  issued : Nat
  /-- Indices to be used again, the next one first. -/
  vacated : List Nat

namespace Registry

variable {kind : ObjectKind} {α : Type}

def empty : Registry kind α :=
  { slots := fun _ => { version := 0, value := none }, issued := 0, vacated := [] }

def get? (registry : Registry kind α) (handle : Handle kind) : Option α :=
  let slot := registry.slots handle.index
  if slot.version = handle.version then slot.value else none

def nextIndex (registry : Registry kind α) : Nat :=
  match registry.vacated with
  | index :: _ => index
  | [] => registry.issued + 1

/-- The handle that the next value will be given. -/
def nextHandle (registry : Registry kind α) : Handle kind :=
  { index := registry.nextIndex, version := (registry.slots registry.nextIndex).version ||| 1 }

def insert (registry : Registry kind α) (value : α) : Handle kind × Registry kind α :=
  let handle := registry.nextHandle
  (handle,
    { slots := registry.slots.set handle.index { version := handle.version, value := some value }
      issued := max registry.issued handle.index
      vacated := registry.vacated.tail })

def erase (registry : Registry kind α) (handle : Handle kind) : Registry kind α :=
  match registry.get? handle with
  | none => registry
  | some _ =>
      { registry with
        slots := registry.slots.set handle.index { version := handle.version + 1, value := none }
        vacated := handle.index :: registry.vacated }

/-- What stands at an index, if anything does. -/
def entryAt (registry : Registry kind α) (index : Nat) : Option (Handle kind × α) :=
  let slot := registry.slots index
  slot.value.map fun value => ({ index, version := slot.version }, value)

/-- Handles and values by index. -/
def entries (registry : Registry kind α) : List (Handle kind × α) :=
  (List.range (registry.issued + 1)).filterMap registry.entryAt

def values (registry : Registry kind α) : List α :=
  registry.entries.map Prod.snd

def size (registry : Registry kind α) : Nat :=
  registry.entries.length

def eraseAll (registry : Registry kind α) (handles : List (Handle kind)) : Registry kind α :=
  handles.foldl erase registry

/-- Nothing stands at the index that comes next. -/
def NextVacant (registry : Registry kind α) : Prop :=
  (registry.slots registry.nextIndex).value = none

theorem get?_empty (handle : Handle kind) : (empty : Registry kind α).get? handle = none := by
  simp only [get?, empty]
  exact ite_self _

theorem get?_insert {registry : Registry kind α} (vacant : registry.NextVacant) (value : α)
    (handle : Handle kind) :
    (registry.insert value).2.get? handle =
      if handle = (registry.insert value).1 then some value else registry.get? handle := by
  by_cases same : handle.index = registry.nextIndex
  · have before : registry.get? handle = none := by
      simp only [get?, same]
      rw [vacant]
      simp
    rw [before]
    by_cases version : handle.version = (registry.slots registry.nextIndex).version ||| 1
    · have equal : handle = registry.nextHandle := by
        cases handle
        simp_all [nextHandle]
      simp [insert, get?, equal]
    · have distinct : handle ≠ registry.nextHandle := by
        intro equal
        exact version (by rw [equal]; rfl)
      have other : ¬ registry.nextHandle.version = handle.version := by
        intro equal
        exact version equal.symm
      have index : handle.index = registry.nextHandle.index := same
      simp [insert, get?, index, other, distinct]
  · have distinct : handle ≠ registry.nextHandle := by
      intro equal
      exact same (by rw [equal]; rfl)
    have index : handle.index ≠ registry.nextHandle.index := same
    simp [insert, get?, distinct, index]

theorem version_of_get? {registry : Registry kind α} {handle : Handle kind} {value : α}
    (found : registry.get? handle = some value) :
    (registry.slots handle.index).version = handle.version := by
  by_cases matching : (registry.slots handle.index).version = handle.version
  · exact matching
  · simp [get?, matching] at found

theorem erase_of_get?_eq_some {registry : Registry kind α} {handle : Handle kind} {value : α}
    (found : registry.get? handle = some value) :
    registry.erase handle =
      { registry with
        slots := registry.slots.set handle.index { version := handle.version + 1, value := none }
        vacated := handle.index :: registry.vacated } := by
  unfold erase
  rw [found]

theorem erase_of_get?_eq_none {registry : Registry kind α} {handle : Handle kind}
    (absent : registry.get? handle = none) : registry.erase handle = registry := by
  unfold erase
  rw [absent]

theorem get?_erase (registry : Registry kind α) (handle other : Handle kind) :
    (registry.erase handle).get? other = if other = handle then none else registry.get? other := by
  cases found : registry.get? handle with
  | none =>
      rw [erase_of_get?_eq_none found]
      split
      · next same => rw [same, found]
      · rfl
  | some value =>
      rw [erase_of_get?_eq_some found]
      by_cases index : other.index = handle.index
      · have vacated : (if other = handle then none else registry.get? other) = none := by
          split
          · rfl
          · next distinct =>
              have version := version_of_get? found
              have differs : ¬ (registry.slots other.index).version = other.version := by
                intro alike
                rw [index, version] at alike
                apply distinct
                cases other
                cases handle
                simp_all
              simp [get?, differs]
        rw [vacated]
        simp [get?, index]
      · have distinct : other ≠ handle := fun equal => index (by rw [equal])
        simp [get?, index, distinct]

end Registry

end ShaderDriver
