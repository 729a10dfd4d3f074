import ShaderDriver.Proofs.Session.Accounting
import ShaderDriver.Proofs.Session.Recollection

namespace ShaderDriver

open Act

/-! Over whole runs, every shader ends once, together with the last reference to it. -/

namespace World.Keeps

variable {world : World} {serial : Nat}

/-- A command begins with the shaders that are alive, and nothing has been seen yet. -/
theorem recalls (keeps : world.Keeps serial 0) :
    Recalls { world with trace := [] } world.nextSerial world.liveShaders 0 where
  orderly := keeps.watched.orderly
  once := Multiset.nodup_zero
  same first one second two number := by
    rw [← shadersIn_references, mem_shadersIn, ← zero_add world.references] at one two
    have equal := keeps.consistent.same _ one _ two rfl
      (congrArg (fun id => some (ObjectKind.shader, id)) number)
    exact Held.shader.inj equal
  below shader member := by
    rw [← shadersIn_references, mem_shadersIn, ← zero_add world.references] at member
    exact keeps.consistent.tag_lt member rfl
  serials := Nat.le_refl _
  alive shader member := by
    rw [zero_add] at member
    rwa [← shadersIn_references, mem_shadersIn]
  story := by
    refine ⟨[], .nil, .nil, fun shader => ?_⟩
    rw [← shadersIn_references, mem_shadersIn, zero_add]
    exact iff_of_false List.not_mem_nil fun gone => gone.2 gone.1

theorem recalled (keeps : world.Keeps serial 0) (command : Session.Command) :
    (Session.step world command).2.Recalls world.nextSerial
      (Recalls.grown world.liveShaders ((command.product? world).map Prod.fst)) 0 :=
  keeps.recalls.step keeps.watched command

end World.Keeps

namespace Session

open World

/-- A command finds the shader alive, or makes it. -/
def Command.Meets (world : World) (command : Command) (shader : Shader) : Prop :=
  shader ∈ world.liveShaders ∨ ∃ maker, command.product? world = some (shader, maker)

/-- In the course of a command those shaders end, each with its whole ceremony, that the command meets
and that nothing refers to afterwards. -/
structure Passage (world : World) (command : Command) (ended : List Shader) : Prop where
  told : Ceremonies (step world command).1.events ended
  once : (ended.map Shader.id).Nodup
  gone : ∀ shader, shader ∈ ended ↔
    command.Meets world shader ∧ shader ∉ (step world command).2.liveShaders
  alive : ∀ shader ∈ (step world command).2.liveShaders, command.Meets world shader
  same : ∀ first, command.Meets world first → ∀ second, command.Meets world second →
    first.id = second.id → first = second
  below : ∀ shader, command.Meets world shader → shader.id < (step world command).2.nextSerial
  serials : world.nextSerial ≤ (step world command).2.nextSerial

theorem passage {world : World} {serial : Nat} (keeps : world.Keeps serial 0) (command : Command) :
    ∃ ended, Passage world command ended := by
  have met : ∀ shader, shader ∈ Recalls.grown world.liveShaders
      ((command.product? world).map Prod.fst) ↔ command.Meets world shader := by
    intro shader
    rw [Recalls.mem_grown, Option.map_eq_some_iff, Command.Meets]
    simp
  have recalled := keeps.recalled command
  obtain ⟨ended, told, distinct, gone⟩ := recalled.story
  simp only [zero_add, ← mem_shadersIn, shadersIn_references, met] at gone
  have same := recalled.same
  simp only [met] at same
  refine ⟨ended,
    { told
      once := distinct.map_on fun first one second two number =>
        same first ((gone first).mp one).1 second ((gone second).mp two).1 number
      gone
      alive := fun shader member => (met shader).mp (recalled.alive shader ?_)
      same
      below := fun shader meets => recalled.below shader ((met shader).mpr meets)
      serials := recalled.serials }⟩
  rwa [zero_add, ← mem_shadersIn, shadersIn_references]

/-- The shaders that end in the course of commands, by their numbers and in the order in which they
end. -/
def endings (world : World) (commands : List Command) : List Nat :=
  (run world commands).1.flatMap fun answer => answer.events.filterMap Event.endedShader?

theorem endings_cons (world : World) (command : Command) (rest : List Command) :
    endings world (command :: rest) =
      (step world command).1.events.filterMap Event.endedShader? ++
        endings (step world command).2 rest := rfl

/-- The commands find the shader alive, or make it. -/
def Concerns (world : World) (commands : List Command) (shader : Shader) : Prop :=
  shader ∈ world.liveShaders ∨ ∃ maker, (shader, maker) ∈ products world commands

theorem concerns_cons {world : World} {command : Command} {rest : List Command} {shader : Shader} :
    Concerns world (command :: rest) shader ↔ command.Meets world shader ∨
      ∃ maker, (shader, maker) ∈ products (step world command).2 rest := by
  rw [Command.Meets, or_assoc, ← exists_or]
  simp only [Concerns, products, List.mem_append, Option.mem_toList]

/-- What becomes of the shaders that commands find or make. -/
structure Course (world : World) (commands : List Command) : Prop where
  once : (endings world commands).Nodup
  apart : ((products world commands).map fun made => made.1.id).Nodup
  fresh : ∀ made ∈ products world commands, world.nextSerial ≤ made.1.id
  whose : ∀ id ∈ endings world commands, ∃ shader, Concerns world commands shader ∧ shader.id = id
  left : ∀ shader ∈ (run world commands).2.liveShaders, Concerns world commands shader
  ended : ∀ shader, Concerns world commands shader →
    (shader.id ∈ endings world commands ↔ shader ∉ (run world commands).2.liveShaders)

theorem Course.nil (world : World) : Course world [] where
  once := .nil
  apart := .nil
  fresh _ impossible := absurd impossible List.not_mem_nil
  whose _ impossible := absurd impossible List.not_mem_nil
  left _ alive := .inl alive
  ended shader concerned := by
    rcases concerned with alive | ⟨_, impossible⟩
    · exact iff_of_false List.not_mem_nil (not_not_intro alive)
    · exact absurd impossible List.not_mem_nil

section

variable {world : World} {command : Command} {rest : List Command} {ended : List Shader}
  {shader other : Shader} (passage : Passage world command ended)
  (course : Course (step world command).2 rest)

include passage

theorem Passage.ids :
    (step world command).1.events.filterMap Event.endedShader? = ended.map Shader.id :=
  passage.told.ids

theorem Passage.concerns (later : Concerns (step world command).2 rest shader) :
    Concerns world (command :: rest) shader :=
  concerns_cons.mpr (later.imp_left (passage.alive shader))

include course

/-- A shader that has ended is not met again. -/
theorem Passage.differs (listed : shader ∈ ended)
    (later : Concerns (step world command).2 rest other) : shader.id ≠ other.id := by
  intro same
  obtain ⟨meets, lost⟩ := (passage.gone shader).mp listed
  rcases later with member | ⟨maker, product⟩
  · exact lost (passage.same shader meets other (passage.alive other member) same ▸ member)
  · have bound := passage.below shader meets
    have least : _ ≤ other.id := course.fresh _ product
    omega

theorem Passage.notEarlier (later : Concerns (step world command).2 rest other) :
    other.id ∉ ended.map Shader.id := by
  intro member
  obtain ⟨shader, listed, same⟩ := List.mem_map.mp member
  exact passage.differs course listed later same

theorem Course.cons : Course world (command :: rest) where
  once := by
    rw [endings_cons, passage.ids, List.nodup_append]
    refine ⟨passage.once, course.once, fun id earlier again later same => ?_⟩
    obtain ⟨shader, concerned, number⟩ := course.whose again later
    exact passage.notEarlier course concerned (number ▸ same ▸ earlier)
  apart := by
    rw [products, List.map_append, List.nodup_append]
    refine ⟨?_, course.apart, ?_⟩
    · cases command.product? world <;> simp
    · intro id earlier again later same
      obtain ⟨made, product, rfl⟩ := List.mem_map.mp earlier
      obtain ⟨more, listed, rfl⟩ := List.mem_map.mp later
      have bound := passage.below made.1 (.inr ⟨made.2, Option.mem_toList.mp product⟩)
      have least := course.fresh more listed
      omega
  fresh made member := by
    rcases List.mem_append.mp member with product | later
    · exact (product_made (Option.mem_toList.mp product)).2
    · exact Nat.le_trans passage.serials (course.fresh made later)
  whose id member := by
    rw [endings_cons, passage.ids, List.mem_append] at member
    rcases member with listed | later
    · obtain ⟨shader, gone, number⟩ := List.mem_map.mp listed
      exact ⟨shader, concerns_cons.mpr (.inl ((passage.gone shader).mp gone).1), number⟩
    · obtain ⟨shader, concerned, number⟩ := course.whose id later
      exact ⟨shader, passage.concerns concerned, number⟩
  left shader member := passage.concerns (course.left shader member)
  ended shader concerned := by
    have later (still : Concerns (step world command).2 rest shader) :
        shader.id ∈ endings world (command :: rest) ↔
          shader ∉ (run world (command :: rest)).2.liveShaders := by
      rw [endings_cons, passage.ids, List.mem_append,
        or_iff_right (passage.notEarlier course still)]
      exact course.ended shader still
    rcases concerns_cons.mp concerned with meets | product
    · by_cases alive : shader ∈ (step world command).2.liveShaders
      · exact later (.inl alive)
      · -- It ends with this command, and nothing brings it back.
        have listed := (passage.gone shader).mpr ⟨meets, alive⟩
        refine iff_of_true ?_ fun member =>
          passage.differs course listed (course.left shader member) rfl
        rw [endings_cons, passage.ids]
        exact List.mem_append_left _ (List.mem_map_of_mem listed)
    · exact later (.inr product)

end

theorem course {world : World} {serial : Nat} (commands : List Command)
    (keeps : world.Keeps serial 0) (spared : spares serial world commands = true) :
    Course world commands := by
  induction commands generalizing world with
  | nil => exact .nil world
  | cons command rest ih =>
      obtain ⟨first, later⟩ := Bool.and_eq_true_iff.mp spared
      obtain ⟨ended, passage⟩ := passage keeps command
      exact .cons passage (ih (keeps.step command (bne_iff_ne.mp first)) later)

/-- An application keeps a reference while the shader is destroyed. The logger panics as the reference
goes. -/
def outlived : List Command :=
  [.call .startUp,
    .call (.createDevice
      { extensions := none, debug := some true, gpuName := none, allocator := none,
        compiler := none }),
    .call (.createShader .core ⟨1, 1⟩
      (.bil ((Container.Bil.Header.current 7).toBytes ++ [1, 2, 3, 4])) .panics),
    .call (.shader (some "kept") ⟨1, 1⟩),
    .call (.destroyObject ⟨1, 1⟩),
    .call (.setLogger [{ severity := some .trace, skip := 0 }]),
    .held (.letGo "kept")]

example : endings .initial (outlived.take 6) = [] ∧ endings .initial outlived = [2] ∧
    ((run .initial outlived).1.getLast?.map Answer.exit) = some .unwound := by decide +kernel

end Session
end ShaderDriver
