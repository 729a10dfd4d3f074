import ShaderDriver.Proofs.Object.Reversion
import ShaderDriver.Proofs.Session.Custody

namespace ShaderDriver

open Memory Act

/-! The balance between all references and the account of one allocator, while some references are
on their way from one place to another. -/

/-- Shared objects with one tag are the same, and every object fits. -/
structure Consistent (serial bound : Nat) (objects : Multiset Held) : Prop where
  same : ∀ first ∈ objects, ∀ second ∈ objects, first.tag?.isSome = true →
    first.tag? = second.tag? → first = second
  fits : ∀ object ∈ objects, object.Fits serial bound

namespace Consistent

variable {serial bound beyond : Nat} {objects others : Multiset Held} {object : Held}

theorem subset (consistent : Consistent serial bound objects) (part : others ⊆ objects) :
    Consistent serial bound others where
  same first member second present :=
    consistent.same first (part member) second (part present)
  fits object member := consistent.fits object (part member)

theorem later (consistent : Consistent serial bound objects) (more : bound ≤ beyond) :
    Consistent serial beyond objects where
  same := consistent.same
  fits object member := (consistent.fits object member).later more

theorem tag_lt (consistent : Consistent serial bound objects) (member : object ∈ objects)
    {kind : ObjectKind} {id : Nat} (tagged : object.tag? = some (kind, id)) : id < bound := by
  have fits := consistent.fits object member
  cases object with
  | device shared =>
      cases tagged
      exact fits.2.2
  | shader shared =>
      cases tagged
      exact fits.2.2
  | allocator _ => cases tagged
  | compiler _ => cases tagged
  | buffer _ => cases tagged
  | base _ => cases tagged
  | ir _ => cases tagged
  | program _ => cases tagged

theorem cons (consistent : Consistent serial bound objects) (more : bound ≤ beyond)
    (fits : object.Fits serial beyond) (fresh : object.Fresh bound) :
    Consistent serial beyond (object ::ₘ objects) where
  same first member second present := by
    have differs : ∀ other ∈ objects, object.tag?.isSome = true → object.tag? ≠ other.tag? := by
      intro other listed tagged same
      obtain ⟨⟨kind, id⟩, tag⟩ := Option.isSome_iff_exists.mp tagged
      have least := fresh kind id tag
      have most := consistent.tag_lt listed (same ▸ tag)
      omega
    intro tagged same
    rcases Multiset.mem_cons.mp member with rfl | firstListed
    · rcases Multiset.mem_cons.mp present with rfl | secondListed
      · rfl
      · exact absurd same (differs second secondListed tagged)
    · rcases Multiset.mem_cons.mp present with rfl | secondListed
      · exact absurd same.symm (differs first firstListed (same ▸ tagged))
      · exact consistent.same first firstListed second secondListed tagged same
  fits other member := by
    rcases Multiset.mem_cons.mp member with rfl | listed
    · exact fits
    · exact (consistent.fits other listed).later more

end Consistent

namespace World

variable {world after : World} {serial : Nat} {pending : Multiset Held} {object : Held}

/-- The account of an allocator lists what is kept alive by the references in the world and by those
that are pending. -/
structure Keeps (world : World) (serial : Nat) (pending : Multiset Held) : Prop where
  orderly : world.Orderly
  once : pending.Nodup
  consistent : Consistent serial world.nextSerial (pending + world.references)
  balances : ∃ earlier, world.Balances serial earlier (assetsIn (pending + world.references))

namespace Keeps

theorem idle {α : Type} {act : Act α} (keeps : world.Keeps serial pending) (moves : act.Idle) :
    (act world).2.Keeps serial pending := by
  have kept := moves.retains world
  obtain ⟨earlier, balances⟩ := keeps.balances
  refine ⟨keeps.orderly.retained kept, keeps.once, ?_, earlier, ?_⟩
  · rw [kept.references]
    exact keeps.consistent.later kept.serials
  · rw [kept.references]
    have settled := moves.balances (by rwa [add_zero])
    rwa [Exit.carried_nothing, add_zero] at settled

theorem forget (keeps : world.Keeps serial (object ::ₘ pending))
    (nothing : assetsIn (object ::ₘ (pending + world.references)) =
      assetsIn (pending + world.references)) : world.Keeps serial pending := by
  have inclusion : pending + world.references ⊆ object ::ₘ pending + world.references :=
    Multiset.subset_of_le (Multiset.add_le_add_right (Multiset.le_cons_self _ _))
  obtain ⟨earlier, balances⟩ := keeps.balances
  refine ⟨keeps.orderly, (Multiset.nodup_cons.mp keeps.once).2, keeps.consistent.subset inclusion,
    earlier, ?_⟩
  rwa [Multiset.cons_add, nothing] at balances

/-- The last reference to an object goes together with what the object owned. -/
theorem spend {act : Act Unit} (keeps : world.Keeps serial (object ::ₘ pending))
    (moves : act.Releases object.assets)
    (last : object.isShared = true → object ∉ pending + world.references) :
    (act world).2.Keeps serial pending := by
  have kept := moves.retains world
  have inclusion : pending + world.references ⊆ object ::ₘ pending + world.references :=
    Multiset.subset_of_le (Multiset.add_le_add_right (Multiset.le_cons_self _ _))
  obtain ⟨earlier, balances⟩ := keeps.balances
  refine ⟨keeps.orderly.retained kept, (Multiset.nodup_cons.mp keeps.once).2, ?_, earlier, ?_⟩
  · rw [kept.references]
    exact (keeps.consistent.subset inclusion).later kept.serials
  · rw [Multiset.cons_add, assetsIn_first last, add_comm] at balances
    have settled := moves.balances balances
    rwa [Exit.carried_nothing, add_zero, ← kept.references] at settled

theorem gainNothing {α : Type} {act : Act α} {gained : α → Multiset Asset} {value : α}
    (keeps : world.Keeps serial pending) (moves : act.Moves 0 gained)
    (done : act world = (.done value, after)) (nothing : gained value = 0) :
    after.Keeps serial pending := by
  have kept := moves.retained done
  obtain ⟨earlier, balances⟩ := keeps.balances
  have settled := moves.balances (by rwa [add_zero])
  rw [done, Exit.carried_done, nothing, add_zero] at settled
  refine ⟨keeps.orderly.retained kept, keeps.once, ?_, earlier, ?_⟩
  · rw [kept.references]
    exact keeps.consistent.later kept.serials
  · rwa [kept.references]

/-- An object that was made is pending. -/
theorem gain {α : Type} {act : Act α} {gained : α → Multiset Asset} {value : α}
    (keeps : world.Keeps serial 0) (moves : act.Moves 0 gained)
    (done : act world = (.done value, after)) (same : gained value = object.assets)
    (fits : object.Fits serial after.nextSerial)
    (fresh : object.Fresh world.nextSerial) : after.Keeps serial {object} := by
  have kept := moves.retained done
  have consistent := keeps.consistent.cons kept.serials fits fresh
  obtain ⟨earlier, balances⟩ := keeps.balances
  have settled := moves.balances (by rwa [add_zero])
  rw [done, Exit.carried_done, same, add_comm] at settled
  refine ⟨keeps.orderly.retained kept, Multiset.nodup_singleton _, ?_, earlier, ?_⟩
  · rw [kept.references]
    simpa [Multiset.singleton_add] using consistent
  · rw [kept.references, Multiset.singleton_add, assetsIn_first]
    · simpa using settled
    · intro shared member
      obtain ⟨⟨kind, id⟩, tagged⟩ := Option.isSome_iff_exists.mp shared
      have least := fresh kind id tagged
      have most := keeps.consistent.tag_lt member tagged
      omega

theorem reverts {α : Type} {act : Act α} (keeps : world.Keeps serial pending)
    (reverts : act.Reverts 0) (undone : (act world).1.isDone = false) :
    (act world).2.Keeps serial pending := by
  have kept := reverts.retains undone
  obtain ⟨earlier, balances⟩ := keeps.balances
  refine ⟨keeps.orderly.retained kept, keeps.once, ?_, earlier, ?_⟩
  · rw [kept.references]
    exact keeps.consistent.later kept.serials
  · rw [kept.references]
    exact reverts.balances undone (by rwa [add_zero])

theorem know (keeps : world.Keeps serial 0) (fits : object.Fits serial world.nextSerial)
    (plain : object.tag? = none) (nothing : object.assets = 0) : world.Keeps serial {object} := by
  have single : object.isShared = true → object ∉ 0 + world.references := by
    intro shared
    rw [Held.isShared, plain] at shared
    cases shared
  obtain ⟨earlier, balances⟩ := keeps.balances
  refine ⟨keeps.orderly, Multiset.nodup_singleton _, ?_, earlier, ?_⟩
  · rw [Multiset.singleton_add, ← zero_add world.references]
    exact keeps.consistent.cons (Nat.le_refl _) fits (Held.fresh_of_plain plain _)
  · rwa [Multiset.singleton_add, ← zero_add world.references, assetsIn_first single, nothing,
      zero_add]

theorem share (keeps : world.Keeps serial 0) (shared : object.isShared = true)
    (member : object ∈ world.references) : world.Keeps serial {object} := by
  obtain ⟨earlier, balances⟩ := keeps.balances
  rw [zero_add] at balances
  refine ⟨keeps.orderly, Multiset.nodup_singleton _, ?_, earlier, ?_⟩
  · refine keeps.consistent.subset fun other listed => ?_
    rw [Multiset.singleton_add, Multiset.mem_cons] at listed
    rw [zero_add]
    rcases listed with rfl | listed
    · exact member
    · exact listed
  · rwa [Multiset.singleton_add, assetsIn_again shared member]

theorem hasDevice_iff {device : Device}
    (consistent : Consistent serial world.nextSerial (.device device ::ₘ pending + world.references)) :
    world.hasDevice device = true ↔ .device device ∈ world.references := by
  rw [hasDevice, List.any_eq_true, ← mem_devices]
  constructor
  · rintro ⟨other, member, tagged⟩
    have listed : .device other ∈ .device device ::ₘ pending + world.references :=
      Multiset.mem_add.mpr (.inr (mem_devices.mp member))
    have equal : Held.device other = .device device :=
      consistent.same _ listed _ (by simp) rfl (by simpa [Held.tag?] using tagged)
    cases equal
    exact member
  · exact fun member => ⟨device, member, by simp⟩

theorem hasShader_iff {shader : Shader}
    (consistent : Consistent serial world.nextSerial (.shader shader ::ₘ pending + world.references)) :
    world.hasShader shader = true ↔ .shader shader ∈ world.references := by
  rw [hasShader, List.any_eq_true, ← mem_shaders]
  constructor
  · rintro ⟨other, member, tagged⟩
    have listed : .shader other ∈ .shader shader ::ₘ pending + world.references :=
      Multiset.mem_add.mpr (.inr (mem_shaders.mp member))
    have equal : Held.shader other = .shader shader :=
      consistent.same _ listed _ (by simp) rfl (by simpa [Held.tag?] using tagged)
    cases equal
    exact member
  · exact fun member => ⟨shader, member, by simp⟩

/-- When a pending reference is let go there are others to the object, or all that it owns goes. -/
theorem letGo_cases (keeps : world.Keeps serial (object ::ₘ pending)) :
    (object.letGo world).2 = world ∧ assetsIn (object ::ₘ (pending + world.references)) =
        assetsIn (pending + world.references) ∨
      ∃ act : Act Unit, object.letGo world = act world ∧ act.Releases object.assets ∧
        (object.isShared = true → object ∉ pending + world.references) := by
  have unshared : ∀ {own : Held}, own.isShared = false →
      own.isShared = true → own ∉ pending + world.references :=
    fun single shared => absurd shared (by simp [single])
  have absent : object ∉ pending := (Multiset.nodup_cons.mp keeps.once).1
  cases object with
  | allocator known => exact .inl ⟨rfl, (assetsIn_owner rfl).trans (zero_add _)⟩
  | compiler known => exact .inl ⟨rfl, (assetsIn_owner rfl).trans (zero_add _)⟩
  | buffer own => exact .inr ⟨_, rfl, own.release_moves, unshared rfl⟩
  | base own => exact .inr ⟨_, rfl, own.release_moves, unshared rfl⟩
  | ir own => exact .inr ⟨_, rfl, own.release_moves, unshared rfl⟩
  | program own => exact .inr ⟨_, rfl, own.destroy_moves, unshared rfl⟩
  | device shared =>
      change (shared.letGo world).2 = world ∧ _ ∨ ∃ act : Act Unit, shared.letGo world = act world ∧ _
      unfold Device.letGo
      split
      · next present =>
          have member := (hasDevice_iff keeps.consistent).mp present
          exact .inl ⟨rfl, assetsIn_again rfl (Multiset.mem_add.mpr (.inr member))⟩
      · next missing =>
          refine .inr ⟨_, rfl, shared.teardown_moves, fun _ member => ?_⟩
          rcases Multiset.mem_add.mp member with listed | listed
          · exact absent listed
          · exact missing ((hasDevice_iff keeps.consistent).mpr listed)
  | shader shared =>
      change (shared.letGo world).2 = world ∧ _ ∨ ∃ act : Act Unit, shared.letGo world = act world ∧ _
      unfold Shader.letGo
      split
      · next present =>
          have member := (hasShader_iff keeps.consistent).mp present
          exact .inl ⟨rfl, assetsIn_again rfl (Multiset.mem_add.mpr (.inr member))⟩
      · next missing =>
          refine .inr ⟨_, rfl, shared.teardown_moves, fun _ member => ?_⟩
          rcases Multiset.mem_add.mp member with listed | listed
          · exact absent listed
          · exact missing ((hasShader_iff keeps.consistent).mpr listed)

/-- A pending reference is let go. -/
theorem letGo (keeps : world.Keeps serial (object ::ₘ pending)) :
    (object.letGo world).2.Keeps serial pending := by
  rcases keeps.letGo_cases with ⟨same, nothing⟩ | ⟨act, same, moves, last⟩
  · rw [same]
    exact keeps.forget nothing
  · rw [same]
    exact keeps.spend moves last

theorem rearrange {others : Multiset Held} (keeps : world.Keeps serial pending)
    (moved : world.Rearranges after pending others) : after.Keeps serial others := by
  obtain ⟨earlier, balances⟩ := keeps.balances
  refine ⟨moved.orderly, moved.once, ?_, earlier, ?_⟩
  · rw [moved.same, moved.serials]
    exact keeps.consistent
  · rw [moved.same]
    exact balances.transfer (congrFun moved.allocators serial) moved.trace

theorem custody (serial : Nat) : Custody fun world pending => world.Keeps serial pending where
  orderly keeps := keeps.orderly
  once keeps := keeps.once
  rearrange keeps moved := keeps.rearrange moved
  share keeps shared member := keeps.share shared member
  log record keeps := keeps.idle (.log record)
  letGo keeps := keeps.letGo

end Keeps

end World

end ShaderDriver
