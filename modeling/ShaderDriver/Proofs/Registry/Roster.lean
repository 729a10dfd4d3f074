import Mathlib.Algebra.Group.Nat.Defs
import ShaderDriver.Proofs.Registry.Entries

namespace ShaderDriver

/-! A registry as a table in which no identifier is used again. -/

/-- Every handle that was ever given out, and what the ones that are still valid lead to. -/
structure Roster (kind : ObjectKind) (α : Type) where
  issued : List (Handle kind)
  valid : List (Handle kind × α)

namespace Roster

variable {kind : ObjectKind} {α : Type} {roster : Roster kind α} {handle : Handle kind}

def empty : Roster kind α :=
  { issued := [], valid := [] }

def issue (roster : Roster kind α) (handle : Handle kind) (value : α) : Roster kind α :=
  { issued := handle :: roster.issued, valid := (handle, value) :: roster.valid }

def retire (roster : Roster kind α) (handles : List (Handle kind)) : Roster kind α :=
  { roster with valid := roster.valid.filter fun entry => !handles.contains entry.1 }

/-- How many handles are not valid any more. -/
def removals (roster : Roster kind α) : Nat :=
  roster.issued.length - roster.valid.length

theorem issue_removals (roster : Roster kind α) (handle : Handle kind) (value : α) :
    (roster.issue handle value).removals = roster.removals :=
  Nat.add_sub_add_right _ _ _

theorem retire_nil (roster : Roster kind α) : roster.retire [] = roster := by
  simp [retire]

theorem retire_cons (roster : Roster kind α) (handle : Handle kind) (rest : List (Handle kind)) :
    roster.retire (handle :: rest) = (roster.retire [handle]).retire rest := by
  simp only [retire, List.filter_filter]
  congr 1
  refine List.filter_congr fun entry _ => ?_
  simp only [List.contains_cons, List.contains_nil, Bool.or_false, Bool.not_or, Bool.and_comm]

theorem retire_congr {first second : List (Handle kind)}
    (same : ∀ handle, handle ∈ first ↔ handle ∈ second) : roster.retire first = roster.retire second := by
  simp only [retire]
  congr 1
  refine List.filter_congr fun entry _ => ?_
  rw [Bool.eq_iff_iff]
  simp [same]

theorem removals_le_retire (roster : Roster kind α) (handles : List (Handle kind)) :
    roster.removals ≤ (roster.retire handles).removals := by
  have fewer : (roster.retire handles).valid.length ≤ roster.valid.length :=
    List.length_filter_le _ _
  simp only [removals]
  change roster.issued.length - _ ≤ roster.issued.length - _
  omega

end Roster

namespace Slot

/-- What no version of the slot has reached yet. A slot is vacant under an even version. -/
def horizon {α : Type} (slot : Slot α) : Nat :=
  slot.version.toNat + (if slot.value.isSome then 1 else 0)

end Slot

namespace Registry

variable {kind : ObjectKind} {α : Type} {registry : Registry kind α} {roster : Roster kind α}
  {handle : Handle kind} {value : α}

/-- The registry shows what the roster says, and will not give out a handle twice. -/
structure Records (registry : Registry kind α) (roster : Roster kind α) : Prop where
  tidy : registry.Tidy
  valid : roster.valid.Perm registry.entries
  known : ∀ entry ∈ roster.valid, entry.1 ∈ roster.issued
  distinct : roster.issued.Nodup
  even : ∀ index, (registry.slots index).horizon % 2 = 0
  aged : ∀ handle ∈ roster.issued, handle.version.toNat < (registry.slots handle.index).horizon
  young : ∀ index, (registry.slots index).horizon ≤
    2 * (roster.removals + (if (registry.slots index).value.isSome then 1 else 0))
  vacated : registry.vacated.length ≤ roster.removals
  indices : registry.issued ≤ roster.issued.length
  within : ∀ handle ∈ roster.issued, handle.index ≤ registry.issued
  first : roster.issued ≠ [] → { index := 1, version := 1 } ∈ roster.issued

theorem records_empty : (empty : Registry kind α).Records .empty where
  tidy := tidy_empty
  valid := .nil
  known _ impossible := nomatch impossible
  distinct := .nil
  even _ := rfl
  aged _ impossible := nomatch impossible
  young _ := Nat.le_refl _
  vacated := Nat.le_refl _
  indices := Nat.le_refl _
  within _ impossible := nomatch impossible
  first impossible := absurd rfl impossible

theorem toNat_or_one {version : UInt32} (even : version.toNat % 2 = 0) :
    (version ||| 1).toNat = version.toNat + 1 := by
  have joined := Nat.two_pow_add_eq_or_of_lt (i := 1) (b := 1) (by decide) (version.toNat / 2)
  have half : 2 ^ 1 * (version.toNat / 2) = version.toNat := by omega
  rw [half] at joined
  rw [UInt32.toNat_or]
  exact joined.symm

theorem insert_self (registry : Registry kind α) (value : α) :
    (registry.insert value).2.slots registry.nextIndex =
      { version := registry.nextHandle.version, value := some value } :=
  Cells.set_self _ _ _

theorem insert_other {index : Nat} (other : index ≠ registry.nextIndex) (value : α) :
    (registry.insert value).2.slots index = registry.slots index :=
  Cells.set_other _ _ other

theorem erase_self (found : registry.get? handle = some value) :
    (registry.erase handle).slots handle.index = { version := handle.version + 1, value := none } := by
  rw [erase_of_get?_eq_some found]
  exact Cells.set_self _ _ _

theorem erase_other (found : registry.get? handle = some value) {index : Nat}
    (other : index ≠ handle.index) : (registry.erase handle).slots index = registry.slots index := by
  rw [erase_of_get?_eq_some found]
  exact Cells.set_other _ _ other

theorem Tidy.nextIndex_le (tidy : registry.Tidy) : registry.nextIndex ≤ registry.issued + 1 := by
  unfold nextIndex
  split
  · next index rest vacated =>
      have used := tidy.within index (by rw [vacated]; exact List.mem_cons_self)
      omega
  · exact Nat.le_refl _

namespace Records

theorem get?_eq_some (records : registry.Records roster) :
    registry.get? handle = some value ↔ (handle, value) ∈ roster.valid := by
  rw [records.valid.mem_iff, records.tidy.mem_entries]

theorem get?_eq_none (records : registry.Records roster) :
    registry.get? handle = none ↔ handle ∉ roster.valid.map Prod.fst := by
  rw [Option.eq_none_iff_forall_ne_some, List.mem_map]
  constructor
  · rintro absent ⟨⟨_, value⟩, member, rfl⟩
    exact absent value (records.get?_eq_some.mpr member)
  · intro absent value found
    exact absent ⟨_, records.get?_eq_some.mp found, rfl⟩

theorem keys_nodup (records : registry.Records roster) : (roster.valid.map Prod.fst).Nodup :=
  (records.valid.map Prod.fst).nodup_iff.mpr registry.handles_nodup

theorem valid_le_issued (records : registry.Records roster) :
    roster.valid.length ≤ roster.issued.length := by
  have inclusion : roster.valid.map Prod.fst ⊆ roster.issued := by
    intro handle member
    obtain ⟨entry, listed, rfl⟩ := List.mem_map.mp member
    exact records.known entry listed
  have bound := records.keys_nodup.length_le_of_subset inclusion
  rwa [List.length_map] at bound

theorem next_even (records : registry.Records roster) :
    (registry.slots registry.nextIndex).horizon = (registry.slots registry.nextIndex).version.toNat ∧
      (registry.slots registry.nextIndex).version.toNat % 2 = 0 := by
  have vacant : (registry.slots registry.nextIndex).value = none := records.tidy.nextVacant
  have even := records.even registry.nextIndex
  simp only [Slot.horizon, vacant, Option.isSome_none, Bool.false_eq_true, if_false, Nat.add_zero] at even ⊢
  exact ⟨trivial, even⟩

theorem next_version (records : registry.Records roster) :
    registry.nextHandle.version.toNat = (registry.slots registry.nextIndex).version.toNat + 1 :=
  toNat_or_one records.next_even.2

theorem next_fresh (records : registry.Records roster) : registry.nextHandle ∉ roster.issued := by
  intro stale
  have older := records.aged _ stale
  have later := records.next_version
  have level := records.next_even.1
  change registry.nextHandle.version.toNat < (registry.slots registry.nextIndex).horizon at older
  omega

theorem not_null (records : registry.Records roster)
    (few : roster.issued.length < Handle.nullIndex) (member : handle ∈ roster.issued) :
    handle.index ≠ Handle.nullIndex := by
  have used := records.within handle member
  have indices := records.indices
  omega

/-- The first handle that a registry gives out is always the same. -/
theorem next_first (records : registry.Records roster) (none : roster.issued = []) :
    registry.nextHandle = { index := 1, version := 1 } := by
  have removals : roster.removals = 0 := by rw [Roster.removals, none]; exact Nat.zero_sub _
  have vacated : registry.vacated = [] := by
    have bound := records.vacated
    rw [removals] at bound
    exact List.eq_nil_of_length_eq_zero (Nat.le_zero.mp bound)
  have issued : registry.issued = 0 := by
    have bound := records.indices
    rw [none] at bound
    exact Nat.le_zero.mp bound
  have index : registry.nextIndex = 1 := by rw [nextIndex, vacated, issued]
  have vacant : (registry.slots registry.nextIndex).value = .none := records.tidy.nextVacant
  have version : (registry.slots 1).version = 0 := by
    have bound := records.young registry.nextIndex
    rw [records.next_even.1, removals, vacant, index] at bound
    exact UInt32.toNat_inj.mp (Nat.le_zero.mp bound)
  rw [nextHandle, index, version]
  rfl

theorem insert_horizon (records : registry.Records roster) (value : α) :
    ((registry.insert value).2.slots registry.nextIndex).horizon =
      (registry.slots registry.nextIndex).version.toNat + 2 := by
  rw [insert_self, Slot.horizon, records.next_version]
  rfl

/-- A handle is given out, and the slot will not have it again. -/
theorem insert (records : registry.Records roster) (value : α) :
    (registry.insert value).2.Records (roster.issue registry.nextHandle value) := by
  have version := records.next_version
  obtain ⟨level, even⟩ := records.next_even
  have bound := records.young registry.nextIndex
  have vacant : (registry.slots registry.nextIndex).value = none := records.tidy.nextVacant
  rw [level, vacant] at bound
  have horizon := records.insert_horizon value
  have removals := roster.issue_removals registry.nextHandle value
  refine
    { tidy := records.tidy.insert value
      valid := (records.valid.cons _).trans (records.tidy.insert_entries value).symm
      known := ?_
      distinct := records.distinct.cons records.next_fresh
      even := ?_
      aged := ?_
      young := ?_
      vacated := ?_
      indices := ?_
      within := ?_
      first := ?_ }
  · intro entry member
    rcases List.mem_cons.mp member with rfl | listed
    · exact List.mem_cons_self
    · exact List.mem_cons_of_mem _ (records.known entry listed)
  · intro index
    by_cases same : index = registry.nextIndex
    · rw [same, horizon]
      omega
    · rw [insert_other same]
      exact records.even index
  · intro handle member
    rcases List.mem_cons.mp member with rfl | listed
    · change _ < ((registry.insert value).2.slots registry.nextIndex).horizon
      rw [horizon, version]
      omega
    · have older := records.aged handle listed
      by_cases same : handle.index = registry.nextIndex
      · rw [same] at older ⊢
        omega
      · rwa [insert_other same]
  · intro index
    rw [removals]
    by_cases same : index = registry.nextIndex
    · rw [same, horizon, insert_self]
      simp only [Option.isSome_none, Bool.false_eq_true, if_false] at bound
      simp only [Option.isSome_some, if_true]
      omega
    · rw [insert_other same]
      exact records.young index
  · rw [removals]
    exact Nat.le_trans (List.tail_sublist _).length_le records.vacated
  · have next := records.tidy.nextIndex_le
    have indices := records.indices
    change max registry.issued registry.nextIndex ≤ roster.issued.length + 1
    omega
  · intro handle member
    change handle.index ≤ max registry.issued registry.nextIndex
    rcases List.mem_cons.mp member with rfl | listed
    · exact Nat.le_max_right _ _
    · exact Nat.le_trans (records.within handle listed) (Nat.le_max_left _ _)
  · intro _
    by_cases none : roster.issued = []
    · rw [← records.next_first none]
      exact List.mem_cons_self
    · exact List.mem_cons_of_mem _ (records.first none)

theorem retire_valid (records : registry.Records roster) (handles : List (Handle kind)) :
    (roster.retire handles).valid.Perm (registry.eraseAll handles).entries := by
  have nodup : roster.valid.Nodup := .of_map _ records.keys_nodup
  refine (List.perm_ext_iff_of_nodup (nodup.filter _) (entries_nodup _)).mpr fun entry => ?_
  obtain ⟨handle, value⟩ := entry
  rw [(records.tidy.eraseAll handles).mem_entries, get?_eraseAll, List.mem_filter,
    ← records.get?_eq_some]
  by_cases retired : handle ∈ handles <;> simp [retired]

theorem retire_removals (records : registry.Records roster)
    (found : registry.get? handle = some value) :
    (roster.retire [handle]).removals = roster.removals + 1 := by
  have valid : (roster.retire [handle]).valid.Perm (registry.erase handle).entries :=
    records.retire_valid [handle]
  have entries := (records.tidy.erase_entries found).length_eq
  have fewer : roster.valid.length = (roster.retire [handle]).valid.length + 1 := by
    rw [records.valid.length_eq, valid.length_eq, entries, List.length_cons]
  have known := records.valid_le_issued
  change roster.issued.length - _ = roster.issued.length - _ + 1
  omega

theorem occupied_horizon (found : registry.get? handle = some value) :
    (registry.slots handle.index).horizon = handle.version.toNat + 1 := by
  obtain ⟨version, stored⟩ := Registry.get?_eq_some.mp found
  rw [Slot.horizon, version, stored]
  rfl

/-- After so few removals the version does not come around to zero. -/
theorem version_succ (records : registry.Records roster) (found : registry.get? handle = some value)
    (few : roster.removals + 1 < 2 ^ 31) :
    (handle.version + 1).toNat = handle.version.toNat + 1 := by
  have bound := records.young handle.index
  rw [occupied_horizon found, (Registry.get?_eq_some.mp found).2] at bound
  simp only [Option.isSome_some, if_true] at bound
  rw [UInt32.toNat_add]
  change (handle.version.toNat + 1) % 2 ^ 32 = _
  omega

theorem erase_horizon (found : registry.get? handle = some value)
    (version : (handle.version + 1).toNat = handle.version.toNat + 1) (index : Nat) :
    ((registry.erase handle).slots index).horizon = (registry.slots index).horizon := by
  by_cases same : index = handle.index
  · rw [same, occupied_horizon found, erase_self found, Slot.horizon, version]
    rfl
  · rw [erase_other found same]

/-- A valid handle is retired, and its slot will not have it again. -/
theorem retire (records : registry.Records roster) (found : registry.get? handle = some value)
    (few : (roster.retire [handle]).removals < 2 ^ 31) :
    (registry.erase handle).Records (roster.retire [handle]) := by
  have removals := records.retire_removals found
  rw [removals] at few
  have horizon := erase_horizon found (records.version_succ found few)
  refine
    { tidy := records.tidy.erase handle
      valid := records.retire_valid [handle]
      known := fun entry member => records.known entry (List.mem_of_mem_filter member)
      distinct := records.distinct
      even := fun index => by rw [horizon]; exact records.even index
      aged := fun older issued => by rw [horizon]; exact records.aged older issued
      young := ?_
      vacated := ?_
      indices := ?_
      within := ?_
      first := records.first }
  · intro index
    rw [removals]
    have young := records.young index
    rw [horizon]
    by_cases same : index = handle.index
    · rw [same, (Registry.get?_eq_some.mp found).2] at young
      rw [same, erase_self found]
      exact young
    · rw [erase_other found same]
      omega
  · rw [removals, erase_of_get?_eq_some found]
    exact Nat.succ_le_succ records.vacated
  · rw [erase_of_get?_eq_some found]
    exact records.indices
  · rw [erase_of_get?_eq_some found]
    exact records.within

theorem retire_unknown (records : registry.Records roster) (absent : registry.get? handle = none) :
    roster.retire [handle] = roster := by
  have stays : (roster.valid.filter fun entry => !List.contains [handle] entry.1) = roster.valid := by
    refine List.filter_eq_self.mpr fun entry member => ?_
    have other : entry.1 ≠ handle := by
      rintro rfl
      exact records.get?_eq_none.mp absent (List.mem_map_of_mem member)
    simpa using other
  rw [Roster.retire, stays]

theorem retireAll {handles : List (Handle kind)} (records : registry.Records roster)
    (few : (roster.retire handles).removals < 2 ^ 31) :
    (registry.eraseAll handles).Records (roster.retire handles) := by
  induction handles generalizing registry roster with
  | nil => rwa [Roster.retire_nil]
  | cons handle rest ih =>
      rw [Roster.retire_cons] at few ⊢
      have fewer := (roster.retire [handle]).removals_le_retire rest
      refine ih ?_ few
      cases found : registry.get? handle with
      | some value => exact records.retire found (by omega)
      | none =>
          rw [records.retire_unknown found, erase_of_get?_eq_none found]
          exact records

end Records

end Registry

end ShaderDriver
