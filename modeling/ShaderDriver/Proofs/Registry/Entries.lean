import Mathlib.Data.List.Nodup
import Mathlib.Data.List.Perm.Lattice
import ShaderDriver.Registry

namespace ShaderDriver.Registry

/-! What a registry lists, and how taking values in and out changes the list. -/

variable {kind : ObjectKind} {α : Type} {registry : Registry kind α} {handle : Handle kind}
  {value : α}

/-- Nothing stands at an index that is vacant or was never used. -/
structure Tidy (registry : Registry kind α) : Prop where
  distinct : registry.vacated.Nodup
  within : ∀ index ∈ registry.vacated, index ≤ registry.issued
  vacant : ∀ index ∈ registry.vacated, (registry.slots index).value = none
  unissued : ∀ index, registry.issued < index → (registry.slots index).value = none

theorem tidy_empty : (empty : Registry kind α).Tidy where
  distinct := .nil
  within _ member := nomatch member
  vacant _ member := nomatch member
  unissued _ _ := rfl

theorem get?_eq_some : registry.get? handle = some value ↔
    (registry.slots handle.index).version = handle.version ∧
      (registry.slots handle.index).value = some value := by
  simp [get?]

theorem Tidy.nextVacant (tidy : registry.Tidy) : registry.NextVacant := by
  unfold NextVacant nextIndex
  cases vacated : registry.vacated with
  | nil => exact tidy.unissued _ (Nat.lt_succ_self _)
  | cons index rest => exact tidy.vacant index (by simp [vacated])

theorem Tidy.nextIndex_not_mem (tidy : registry.Tidy) :
    registry.nextIndex ∉ registry.vacated.tail := by
  unfold nextIndex
  cases vacated : registry.vacated with
  | nil => simp
  | cons index rest =>
      have distinct := tidy.distinct
      rw [vacated, List.nodup_cons] at distinct
      exact distinct.1

theorem Tidy.insert (tidy : registry.Tidy) (value : α) : (registry.insert value).2.Tidy where
  distinct := tidy.distinct.sublist (List.tail_sublist _)
  within index member := by
    have bound := tidy.within index (List.mem_of_mem_tail member)
    exact Nat.le_trans bound (Nat.le_max_left _ _)
  vacant index member := by
    have other : index ≠ registry.nextHandle.index := by
      rintro rfl
      exact tidy.nextIndex_not_mem member
    change ((registry.slots.set _ _) index).value = none
    rw [Cells.set_other _ _ other]
    exact tidy.vacant index (List.mem_of_mem_tail member)
  unissued index beyond := by
    have bounds : registry.issued < index ∧ registry.nextHandle.index < index :=
      Nat.max_lt.mp beyond
    change ((registry.slots.set _ _) index).value = none
    rw [Cells.set_other _ _ (Nat.ne_of_gt bounds.2)]
    exact tidy.unissued index bounds.1

theorem Tidy.occupied (tidy : registry.Tidy) (found : registry.get? handle = some value) :
    handle.index ≤ registry.issued ∧ handle.index ∉ registry.vacated := by
  have stored := (get?_eq_some.mp found).2
  constructor
  · by_contra beyond
    rw [tidy.unissued _ (Nat.lt_of_not_le beyond)] at stored
    cases stored
  · intro member
    rw [tidy.vacant _ member] at stored
    cases stored

theorem Tidy.erase (tidy : registry.Tidy) (handle : Handle kind) : (registry.erase handle).Tidy := by
  cases found : registry.get? handle with
  | none => rwa [erase_of_get?_eq_none found]
  | some value =>
      obtain ⟨bound, absent⟩ := tidy.occupied found
      have emptied : ∀ index, (registry.slots index).value = none →
          ((registry.slots.set handle.index
            { version := handle.version + 1, value := none }) index).value = none := by
        intro index vacant
        by_cases same : index = handle.index
        · rw [same, Cells.set_self]
        · rwa [Cells.set_other _ _ same]
      rw [erase_of_get?_eq_some found]
      refine ⟨tidy.distinct.cons absent, ?_, ?_, fun index beyond => ?_⟩
      · intro index member
        rcases List.mem_cons.mp member with rfl | later
        · exact bound
        · exact tidy.within index later
      · intro index member
        rcases List.mem_cons.mp member with rfl | later
        · change ((registry.slots.set _ _) _).value = none
          rw [Cells.set_self]
        · exact emptied index (tidy.vacant index later)
      · exact emptied index (tidy.unissued index beyond)

theorem Tidy.eraseAll (tidy : registry.Tidy) (handles : List (Handle kind)) :
    (registry.eraseAll handles).Tidy := by
  induction handles generalizing registry with
  | nil => exact tidy
  | cons handle rest ih => exact ih (tidy.erase handle)

theorem get?_eraseAll (registry : Registry kind α) (handles : List (Handle kind))
    (other : Handle kind) :
    (registry.eraseAll handles).get? other =
      if other ∈ handles then none else registry.get? other := by
  induction handles generalizing registry with
  | nil => simp [Registry.eraseAll]
  | cons handle rest ih =>
      change ((registry.erase handle).eraseAll rest).get? other = _
      rw [ih, get?_erase]
      by_cases same : other = handle <;> simp [same]

theorem Tidy.mem_entries (tidy : registry.Tidy) :
    (handle, value) ∈ registry.entries ↔ registry.get? handle = some value := by
  simp only [entries, List.mem_filterMap, List.mem_range, entryAt, Option.map_eq_some_iff,
    Prod.mk.injEq, get?_eq_some]
  constructor
  · rintro ⟨index, _, found, stored, rfl, rfl⟩
    exact ⟨rfl, stored⟩
  · rintro ⟨version, stored⟩
    have bound := (tidy.occupied (get?_eq_some.mpr ⟨version, stored⟩)).1
    exact ⟨handle.index, Nat.lt_succ_of_le bound, value, stored, by rw [version], rfl⟩

theorem Tidy.mem_values (tidy : registry.Tidy) (found : registry.get? handle = some value) :
    value ∈ registry.values :=
  List.mem_map_of_mem (tidy.mem_entries.mpr found)

theorem index_of_entryAt {index : Nat} {entry : Handle kind × α}
    (found : registry.entryAt index = some entry) : entry.1.index = index := by
  obtain ⟨value, _, rfl⟩ := Option.map_eq_some_iff.mp found
  rfl

theorem handles_nodup (registry : Registry kind α) : (registry.entries.map Prod.fst).Nodup := by
  refine List.pairwise_map.mpr (List.pairwise_filterMap.mpr ?_)
  refine List.pairwise_lt_range.imp fun {first second} less entry found other present same => ?_
  rw [← index_of_entryAt found, ← index_of_entryAt present, same] at less
  exact Nat.lt_irrefl _ less

theorem entries_nodup (registry : Registry kind α) : registry.entries.Nodup :=
  .of_map _ registry.handles_nodup

theorem Tidy.next_absent (tidy : registry.Tidy) : registry.get? registry.nextHandle = none := by
  have vacant : (registry.slots registry.nextHandle.index).value = none := tidy.nextVacant
  unfold get?
  simp [vacant]

theorem Tidy.insert_entries (tidy : registry.Tidy) (value : α) :
    (registry.insert value).2.entries.Perm
      (((registry.insert value).1, value) :: registry.entries) := by
  have absent : registry.get? (registry.insert value).1 = none := tidy.next_absent
  have fresh : ((registry.insert value).1, value) ∉ registry.entries := by
    rw [tidy.mem_entries, absent]
    simp
  refine (List.perm_ext_iff_of_nodup (entries_nodup _)
    ((entries_nodup _).cons fresh)).mpr fun entry => ?_
  obtain ⟨handle, other⟩ := entry
  rw [(tidy.insert value).mem_entries, get?_insert tidy.nextVacant, List.mem_cons, tidy.mem_entries]
  by_cases same : handle = (registry.insert value).1
  · subst handle
    simp [absent, eq_comm]
  · simp [same]

theorem Tidy.erase_entries (tidy : registry.Tidy) (found : registry.get? handle = some value) :
    registry.entries.Perm ((handle, value) :: (registry.erase handle).entries) := by
  have gone : (handle, value) ∉ (registry.erase handle).entries := by
    rw [(tidy.erase handle).mem_entries, get?_erase, if_pos rfl]
    simp
  refine (List.perm_ext_iff_of_nodup (entries_nodup _)
    ((entries_nodup _).cons gone)).mpr fun entry => ?_
  obtain ⟨other, present⟩ := entry
  rw [tidy.mem_entries, List.mem_cons, (tidy.erase handle).mem_entries, get?_erase]
  by_cases same : other = handle
  · subst other
    simp [found, eq_comm]
  · simp [same]

/-- Of the entries that are taken out together, the list shows the ones that stay. -/
theorem Tidy.eraseAll_entries (tidy : registry.Tidy) (chosen : Handle kind × α → Bool) :
    registry.entries.Perm (registry.entries.filter chosen ++
      (registry.eraseAll ((registry.entries.filter chosen).map Prod.fst)).entries) := by
  have left : (registry.eraseAll ((registry.entries.filter chosen).map Prod.fst)).entries.Perm
      (registry.entries.filter fun entry => !chosen entry) := by
    refine (List.perm_ext_iff_of_nodup (entries_nodup _)
      ((entries_nodup _).filter _)).mpr fun entry => ?_
    obtain ⟨handle, value⟩ := entry
    rw [(tidy.eraseAll _).mem_entries, get?_eraseAll, List.mem_filter, tidy.mem_entries]
    by_cases erased : handle ∈ (registry.entries.filter chosen).map Prod.fst
    · obtain ⟨⟨_, present⟩, member, rfl⟩ := List.mem_map.mp erased
      obtain ⟨listed, wanted⟩ := List.mem_filter.mp member
      have stored := tidy.mem_entries.mp listed
      rw [if_pos erased]
      simp only [reduceCtorEq, false_iff, not_and, Bool.not_eq_true', Bool.not_eq_false]
      intro found
      rw [stored, Option.some.injEq] at found
      rwa [← found]
    · rw [if_neg erased]
      refine ⟨fun found => ⟨found, ?_⟩, fun found => found.1⟩
      simp only [Bool.not_eq_true', ← Bool.not_eq_true]
      intro wanted
      exact erased (List.mem_map_of_mem (List.mem_filter.mpr ⟨tidy.mem_entries.mpr found, wanted⟩))
  exact (List.filter_append_perm chosen registry.entries).symm.trans (left.symm.append_left _)

theorem Tidy.insert_values (tidy : registry.Tidy) (value : α) :
    (registry.insert value).2.values.Perm (value :: registry.values) :=
  (tidy.insert_entries value).map Prod.snd

theorem Tidy.erase_values (tidy : registry.Tidy) (found : registry.get? handle = some value) :
    registry.values.Perm (value :: (registry.erase handle).values) :=
  (tidy.erase_entries found).map Prod.snd

end ShaderDriver.Registry
