import ShaderDriver.Registry

namespace ShaderDriver

/-! Registries with another value in place of each. Handles do not depend on the values. -/

variable {kind : ObjectKind} {α β : Type}

/-- What becomes of the cells of which one was replaced. -/
theorem Cells.map_set (view : α → β) (cells : Cells α) (key : Nat) (value : α) :
    (fun other => view (cells.set key value other)) =
      Cells.set (fun other => view (cells other)) key (view value) := by
  funext other
  by_cases same : other = key <;> simp [Cells.set, same]

/-- Values are there that look alike, or there are none. -/
theorem option_alike {view : α → β} {found other : Option α}
    (same : found.map view = other.map view) :
    (found = none ∧ other = none) ∨
      ∃ value image, found = some value ∧ other = some image ∧ view value = view image := by
  cases found <;> cases other <;>
    simp only [Option.map_none, Option.map_some, reduceCtorEq, Option.some.injEq] at same
  · exact .inl ⟨rfl, rfl⟩
  · exact .inr ⟨_, _, rfl, rfl, same⟩

def Slot.mapped (view : α → β) (slot : Slot α) : Slot β :=
  { version := slot.version, value := slot.value.map view }

namespace Registry

def mapped (view : α → β) (registry : Registry kind α) : Registry kind β :=
  { slots := fun index => (registry.slots index).mapped view
    issued := registry.issued
    vacated := registry.vacated }

variable {registry : Registry kind α} {view : α → β}

theorem get?_mapped (handle : Handle kind) :
    (registry.mapped view).get? handle = (registry.get? handle).map view := by
  simp only [get?, mapped, Slot.mapped]
  split <;> simp_all

theorem get?_alike {other : Registry kind α} (same : registry.mapped view = other.mapped view)
    (handle : Handle kind) : (registry.get? handle).map view = (other.get? handle).map view := by
  rw [← get?_mapped, same, get?_mapped]

theorem insert_mapped (value : α) :
    (registry.mapped view).insert (view value) =
      ((registry.insert value).1, (registry.insert value).2.mapped view) := by
  have slots := Cells.map_set (Slot.mapped view) registry.slots registry.nextHandle.index
    { version := registry.nextHandle.version, value := some value }
  simp only [insert, mapped, slots]
  rfl

/-- Registries with values that look alike give the same handle to values that do. -/
theorem insert_alike {other : Registry kind α} (same : registry.mapped view = other.mapped view)
    {value echo : α} (alike : view value = view echo) :
    (registry.insert value).1 = (other.insert echo).1 ∧
      (registry.insert value).2.mapped view = (other.insert echo).2.mapped view := by
  have inserted : (registry.mapped view).insert (view value) = _ := insert_mapped value
  rwa [same, alike, insert_mapped, Prod.mk.injEq, eq_comm, @eq_comm _ (mapped _ _)] at inserted

theorem erase_mapped (handle : Handle kind) :
    (registry.mapped view).erase handle = (registry.erase handle).mapped view := by
  cases found : registry.get? handle with
  | none =>
      rw [erase_of_get?_eq_none found, erase_of_get?_eq_none (by rw [get?_mapped, found]; rfl)]
  | some value =>
      have slots := Cells.map_set (Slot.mapped view) registry.slots handle.index
        { version := handle.version + 1, value := none }
      have image : (registry.mapped view).get? handle = some (view value) := by
        rw [get?_mapped, found]
        rfl
      rw [erase_of_get?_eq_some found, erase_of_get?_eq_some image]
      simp only [mapped, slots]
      rfl

theorem eraseAll_mapped (handles : List (Handle kind)) :
    (registry.mapped view).eraseAll handles = (registry.eraseAll handles).mapped view := by
  induction handles generalizing registry with
  | nil => rfl
  | cons handle rest ih =>
      change ((registry.mapped view).erase handle).eraseAll rest = _
      rw [erase_mapped]
      exact ih

theorem entries_mapped :
    (registry.mapped view).entries = registry.entries.map (Prod.map id view) := by
  simp only [entries, List.map_filterMap]
  congr 1
  funext index
  simp only [entryAt, mapped, Slot.mapped, Option.map_map]
  rfl

theorem values_mapped : (registry.mapped view).values = registry.values.map view := by
  simp only [values, entries_mapped, List.map_map]
  rfl

theorem size_mapped : (registry.mapped view).size = registry.size := by
  rw [size, entries_mapped, List.length_map, size]

end Registry

end ShaderDriver
