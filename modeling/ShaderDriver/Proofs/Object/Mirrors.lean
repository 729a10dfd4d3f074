import ShaderDriver.Proofs.Act.Mirrors
import ShaderDriver.Proofs.Object.Upsets

namespace ShaderDriver

open Memory Container Act

/-! Objects that look alike are made, used and released alike. A record that is not looked at comes and
goes unseen. -/

variable {leeway : Leeway} {heap : Heap} {world image : World}

/-! Calls of allocators. -/

theorem World.Alike.called (alike : world.Alike leeway heap image) (serial : Nat)
    {next echo : Allocator} (events echoes : List Event) (same : next.seen leeway = echo.seen leeway)
    (told : events.filterMap (Event.seen? leeway) = echoes.filterMap (Event.seen? leeway)) :
    World.Alike leeway heap
      { world with
        allocators := world.allocators.set serial next, trace := world.trace ++ events }
      { image with
        allocators := image.allocators.set serial echo, trace := image.trace ++ echoes } := by
  refine { alike with allocators := fun other => ?_, trace := ?_ }
  · by_cases own : other = serial
    · simpa [own] using same
    · simpa [own] using alike.allocators other
  · change (world.trace ++ events).filterMap _ = (image.trace ++ echoes).filterMap _
    rw [List.filterMap_append, List.filterMap_append, alike.trace, told]

/-- What an allocator does unseen leaves the world looking as it did. -/
theorem World.Alike.unseen {serial : Nat} {next : Allocator} {events : List Event}
    (same : next.seen leeway = (world.allocators serial).seen leeway)
    (hidden : events.filterMap (Event.seen? leeway) = []) (image : World)
    (alike : world.Alike leeway heap image) :
    World.Alike leeway heap
      { world with
        allocators := world.allocators.set serial next, trace := world.trace ++ events } image := by
  have called := alike.called serial events [] (same.trans (alike.allocators serial)) hidden
  simpa using called

theorem AllocatorRef.request_eased {allocator : AllocatorRef} {size alignment : Nat}
    {type : AllocType} (easy : (allocator.request size alignment type world).2.Eased .records) :
    ∃ next, (world.allocators allocator.serial).alloc size type = (.granted, next) ∧
      allocator.request size alignment type world = (.done (some { allocator, size, type }),
        { world with
          allocators := world.allocators.set allocator.serial next
          trace := world.trace ++ [.requested allocator size alignment type true] }) := by
  have called := (world.allocators allocator.serial).alloc_called size type
  obtain ⟨sane, granted⟩ := easy
  unfold request at sane granted ⊢
  generalize (world.allocators allocator.serial).alloc size type = answer at called sane granted ⊢
  obtain ⟨reply, next⟩ := answer
  cases reply with
  | fault => exact absurd ⟨allocator.serial, by simpa using called.fault rfl⟩ sane
  | refused =>
      have refused := granted (.requested allocator size alignment type false) (by simp)
      cases refused
  | granted => exact ⟨next, rfl, rfl⟩

theorem AllocatorRef.request_mirrors (allocator : AllocatorRef) (size alignment : Nat)
    (type : AllocType) :
    Echoes leeway heap (allocator.request size alignment type)
      (allocator.request size alignment type) := by
  refine ⟨eased_of_explained (allocator.request_explained _ _ _),
    eased_of_explained (allocator.request_explained _ _ _), fun world image alike easy fine => ?_⟩
  cases leeway with
  | loggers =>
      have allocators : world.allocators allocator.serial = image.allocators allocator.serial :=
        alike.allocators _
      unfold request
      rw [allocators]
      generalize (image.allocators allocator.serial).alloc size type = answer
      obtain ⟨reply, next⟩ := answer
      cases reply with
      | fault => exact ⟨.unwound, by simpa using alike.called _ [] [] rfl rfl⟩
      | refused => exact ⟨.refl _, alike.called _ _ _ rfl rfl⟩
      | granted => exact ⟨.refl _, alike.called _ _ _ rfl rfl⟩
  | records =>
      obtain ⟨next, granted, ran⟩ := request_eased easy
      obtain ⟨echo, conceded, mirrored⟩ := request_eased fine
      rw [ran, mirrored]
      exact ⟨.refl _, alike.called _ _ _
        (Allocator.alloc_withoutRecords (alike.allocators _) granted conceded) rfl⟩

namespace Allocation

variable {allocation : Allocation}

theorem release_eased (easy : (allocation.release world).2.Eased .records) :
    ¬ ((world.allocators allocation.allocator.serial).free
      allocation.size allocation.type).2.Poisoned ∧ (allocation.release world).1 = .done () := by
  have called := (world.allocators allocation.allocator.serial).free_called allocation.size
    allocation.type
  have sound : ¬ ((world.allocators allocation.allocator.serial).free
      allocation.size allocation.type).2.Poisoned :=
    fun poisoned => easy.1 ⟨allocation.allocator.serial, by simpa [release] using poisoned⟩
  refine ⟨sound, ?_⟩
  have inOrder : ((world.allocators allocation.allocator.serial).free
      allocation.size allocation.type).1 = true := by
    by_contra fault
    exact sound (called.fault (Bool.eq_false_iff.mpr fault))
  unfold release
  simp only [inOrder, if_true]

theorem release_mirrors (allocation : Allocation) :
    Echoes leeway heap allocation.release allocation.release := by
  refine ⟨eased_of_explained allocation.release_explained,
    eased_of_explained allocation.release_explained, fun world image alike easy fine => ?_⟩
  cases leeway with
  | loggers =>
      have allocators : world.allocators allocation.allocator.serial =
          image.allocators allocation.allocator.serial := alike.allocators _
      unfold release
      rw [allocators]
      exact ⟨.refl _, alike.called _ _ _ rfl rfl⟩
  | records =>
      obtain ⟨sound, finished⟩ := release_eased easy
      obtain ⟨sane, mirrored⟩ := release_eased fine
      rw [finished, mirrored]
      exact ⟨.refl _, alike.called _ _ _
        (Allocator.free_withoutRecords (alike.allocators _) sound sane) rfl⟩

end Allocation

namespace Buffer

theorem release_mirrors (buffer : Buffer) : Echoes leeway heap buffer.release buffer.release :=
  buffer.allocation.release_mirrors

theorem zeroed_mirrors (allocator : AllocatorRef) (size : Nat) (type : AllocType) :
    Echoes leeway heap (zeroed allocator size type) (zeroed allocator size type) := by
  refine (allocator.request_mirrors _ _ _).andThen fun found => ?_
  cases found with
  | none => exact .pure rfl
  | some allocation =>
      refine Mirrors.readHeap.andThen fun room => ?_
      split
      · exact .pure rfl
      · exact allocation.release_mirrors.andThen fun _ => .pure rfl

theorem write_mirrors (buffer : Buffer) (start : Nat) (bytes : List UInt8) :
    Echoes leeway heap (buffer.write start bytes) (buffer.write start bytes) := by
  unfold write
  split
  · exact .pure rfl
  · exact .unwind

theorem copyOf_mirrors (allocator : AllocatorRef) (bytes : List UInt8) (type : AllocType) :
    Echoes leeway heap (copyOf allocator bytes type) (copyOf allocator bytes type) :=
  ((zeroed_mirrors allocator bytes.length type).orFail .outOfMemory).andThen fun buffer =>
    (buffer.write_mirrors 0 bytes).orRelease buffer.release_mirrors

end Buffer

/-! Copies that are not looked at. -/

theorem Leeway.hides_eq_true {type : AllocType} :
    leeway.hides type = true ↔ leeway = .records ∧ type = .debug := by
  cases leeway <;> cases type <;> simp [hides]

theorem AllocatorRef.request_unseen (allocator : AllocatorRef) (size alignment : Nat) :
    Unseen .records heap (fun found => found = some { allocator, size, type := .debug })
      (allocator.request size alignment .debug) := by
  intro world here easy
  obtain ⟨next, granted, ran⟩ := request_eased easy
  rw [ran]
  exact ⟨_, rfl, rfl, here, .unseen (Allocator.alloc_record granted) rfl⟩

theorem Allocation.release_unseen {allocation : Allocation} (record : allocation.type = .debug) :
    Unseen .records heap (fun _ => True) allocation.release := by
  intro world here easy
  obtain ⟨sound, finished⟩ := release_eased easy
  refine ⟨(), finished, trivial, here, ?_⟩
  unfold release
  rw [record] at sound ⊢
  exact .unseen (Allocator.free_record sound) rfl

/-- A record comes about unseen. -/
theorem Buffer.copyOf_unseen (allocator : AllocatorRef) {bytes : List UInt8}
    (within : heap.hasRoom bytes.length = true) :
    Unseen .records heap (fun copy => copy.allocation.type = .debug)
      (copyOf allocator bytes .debug) := by
  have kept (allocation : Allocation) (buffer : Buffer) (room : Bool) : (eased .records).Holds
      (if room then pure (some buffer) else allocation.release >>= fun _ => pure none) := by
    cases room with
    | true => exact .pure _
    | false => exact .bind (eased_of_explained allocation.release_explained) fun _ => .pure _
  have zeroed : Unseen .records heap (fun found => found = some
      { data := List.replicate bytes.length 0,
        allocation := { allocator, size := bytes.length, type := .debug } })
      (zeroed allocator bytes.length .debug) := by
    refine (allocator.request_unseen _ _).bind ?_ fun found => ?_
    · rintro _ rfl
      refine Unseen.readHeap.bind ?_ fun room => kept _ _ _
      rintro _ rfl
      rw [if_pos within]
      exact .pure rfl
    · cases found with
      | none => exact .pure _
      | some allocation => exact .bind (.read _) fun room => kept _ _ _
  have filled (buffer : Buffer) : (eased .records).Holds
      ((buffer.write 0 bytes).orRelease buffer.release) := by
    have mirrored : Echoes .records heap _ _ :=
      (buffer.write_mirrors 0 bytes).orRelease buffer.release_mirrors
    exact mirrored.first
  have found : Unseen .records heap (fun buffer => buffer =
      { data := List.replicate bytes.length 0,
        allocation := { allocator, size := bytes.length, type := .debug } })
      ((Buffer.zeroed allocator bytes.length .debug).orFail .outOfMemory) := by
    refine zeroed.bind ?_ fun found => ?_
    · rintro _ rfl
      exact .pure rfl
    · cases found with
      | none => exact .fail _
      | some buffer => exact .pure buffer
  refine found.bind ?_ filled
  rintro _ rfl
  refine Unseen.orRelease ?_ (eased_of_explained (release_explained _))
  unfold write
  simp only [List.length_replicate, Nat.zero_add, Nat.le_refl, if_true]
  exact .pure rfl

theorem Act.thenRelease_pure {α : Type} (act : Act α) : act.thenRelease (pure ()) = act := by
  funext world
  unfold Act.thenRelease Act.leave
  rcases act world with ⟨exit, after⟩
  rfl

namespace Base

theorem release_eq (base : Base) : base.release =
    base.allocation.release.thenRelease (releaseEach Buffer.release base.record.toList) := by
  unfold release
  cases base.record with
  | none => exact (thenRelease_pure _).symm
  | some record =>
      change _ = base.allocation.release.thenRelease (record.release.thenRelease (pure ()))
      rw [thenRelease_pure]

/-- A record that is not looked at goes unseen. -/
theorem record_unseen {record : Option Buffer}
    (hidden : record.filter (fun copy => !leeway.hides copy.allocation.type) = none) :
    Unseen leeway heap (fun _ => True) (releaseEach Buffer.release record.toList) := by
  cases record with
  | none => exact .pure trivial
  | some copy =>
      have hides : leeway.hides copy.allocation.type = true := by simpa using hidden
      obtain ⟨rfl, type⟩ := Leeway.hides_eq_true.mp hides
      change Unseen .records heap _ (copy.release.thenRelease (pure ()))
      rw [thenRelease_pure]
      exact Allocation.release_unseen type

theorem records_mirrors {record other : Option Buffer}
    (alike : record.filter (fun copy => !leeway.hides copy.allocation.type) =
      other.filter fun copy => !leeway.hides copy.allocation.type) :
    Echoes leeway heap (releaseEach Buffer.release record.toList)
      (releaseEach Buffer.release other.toList) := by
  have each (buffers : List Buffer) : Echoes leeway heap (releaseEach Buffer.release buffers)
      (releaseEach Buffer.release buffers) := by
    have same : buffers.map id = buffers.map id := rfl
    refine .releaseEach same fun buffer copy equal => ?_
    cases equal
    exact buffer.release_mirrors
  cases seen : record.filter fun copy => !leeway.hides copy.allocation.type with
  | none =>
      have unseen : Unseen leeway heap _ _ := record_unseen (alike.symm.trans seen)
      exact .of_unseen (record_unseen seen) unseen (each _).first (each _).first fun _ _ _ _ => rfl
  | some copy =>
      obtain ⟨rfl, _⟩ := Option.filter_eq_some_iff.mp seen
      obtain ⟨rfl, _⟩ := Option.filter_eq_some_iff.mp (alike.symm.trans seen)
      exact each _

theorem release_mirrors {base other : Base} (alike : base.seen leeway = other.seen leeway) :
    Echoes leeway heap base.release other.release := by
  have allocation : base.allocation = other.allocation := congrArg (fun seen => seen.allocation) alike
  rw [release_eq, release_eq, allocation]
  exact other.allocation.release_mirrors.thenRelease
    (records_mirrors (congrArg (fun seen => seen.record) alike))

/-- A base that has its memory, and is to have a copy of the create info if `debug` is on. -/
def recording (kind : ObjectKind) (allocation : Allocation) (allocator : AllocatorRef)
    (bytes : List UInt8) (debug : Bool) : Act Base :=
  if debug then do
    let record ← (Buffer.copyOf allocator bytes .debug).orRelease allocation.release
    pure { kind, allocation, record := some record }
  else pure { kind, allocation, record := none }

variable {kind : ObjectKind} {allocation : Allocation} {allocator : AllocatorRef}
  {bytes : List UInt8} {debug flag : Bool}

theorem recording_mirrors : Echoes leeway heap (recording kind allocation allocator bytes debug)
    (recording kind allocation allocator bytes debug) := by
  cases debug with
  | false => exact .pure rfl
  | true =>
      have copied : Echoes leeway heap _ _ := (Buffer.copyOf_mirrors allocator bytes .debug).orRelease
        allocation.release_mirrors
      exact copied.andThen fun _ => .pure rfl

theorem recording_unseen (within : heap.hasRoom bytes.length = true) :
    Unseen .records heap (fun base => base.seen .records = { kind, allocation, record := none })
      (recording kind allocation allocator bytes debug) := by
  cases debug with
  | false => exact .pure rfl
  | true =>
      have copied := (Buffer.copyOf_unseen allocator within).orRelease
        (eased_of_explained allocation.release_explained)
      exact copied.bind (fun copy record => .pure (by simp [seen, record, Leeway.hides]))
        fun _ => .pure _

/-- Whether a record is kept makes no difference to a base if records are not looked at. -/
theorem create_mirrors (alike : leeway.flag debug = leeway.flag flag) (size : Nat)
    {info : Option (List UInt8)} (fits : ∀ bytes, info = some bytes → leeway.Fits heap bytes) :
    Mirrors leeway heap (Base.seen leeway) (create allocator debug kind size info)
      (create allocator flag kind size info) := by
  refine ((allocator.request_mirrors _ _ _).orFail _).andThen fun allocation => ?_
  cases info with
  | none => exact .pure rfl
  | some bytes =>
      change Mirrors leeway heap _ (recording kind allocation allocator bytes debug)
        (recording kind allocation allocator bytes flag)
      cases leeway with
      | loggers =>
          obtain rfl : debug = flag := alike
          exact recording_mirrors.recast fun base other same => congrArg _ same
      | records =>
          have within := fits bytes rfl
          have kept (debug : Bool) : Echoes .records heap
              (recording kind allocation allocator bytes debug) _ := recording_mirrors
          exact .of_unseen (recording_unseen within) (recording_unseen within) (kept _).first
            (kept _).first fun base other one two => one.trans two.symm

end Base

namespace Act.Mirrors

/-- A change of compilers that looks at compilers only. -/
theorem compilers (update : Cells Compiler → Cells Compiler) :
    Echoes leeway heap
      (Act.change fun world => { world with compilers := update world.compilers })
      (Act.change fun world => { world with compilers := update world.compilers }) :=
  .change (fun _ => eased_of_same rfl rfl) (fun _ => eased_of_same rfl rfl)
    fun _ _ alike => { alike with compilers := congrArg update alike.compilers }

end Act.Mirrors

theorem Program.destroy_mirrors (program : Program) :
    Echoes leeway heap program.destroy program.destroy := by
  refine Mirrors.andThen (.compilers fun compilers =>
    compilers.set program.compiler.serial (compilers program.compiler.serial).forget) fun _ => ?_
  exact .emit rfl

theorem Payload.release_mirrors (payload : Payload) :
    Echoes leeway heap payload.release payload.release := by
  cases payload with
  | kernel owned => exact owned.release_mirrors
  | program owned => exact owned.destroy_mirrors

theorem Ir.release_mirrors (ir : Ir) : Echoes leeway heap ir.release ir.release :=
  ir.payload.release_mirrors.thenRelease ir.container.release_mirrors

namespace Shader

variable {shader other : Shader} (alike : shader.seen leeway = other.seen leeway)

include alike

theorem teardown_mirrors : Echoes leeway heap shader.teardown other.teardown := by
  have number : shader.id = other.id := congrArg (fun seen => seen.id) alike
  have form : shader.ir = other.ir := congrArg (fun seen => seen.ir) alike
  unfold teardown farewell
  rw [number, form]
  exact Mirrors.andThen (.emit rfl) fun _ => (Mirrors.log _).thenRelease
    (other.ir.release_mirrors.thenRelease
      (Base.release_mirrors (congrArg (fun seen => seen.base) alike)))

theorem letGo_mirrors : Echoes leeway heap shader.letGo other.letGo := by
  have reads (shader : Shader) : shader.letGo = Act.read (fun world => world.hasShader shader) >>=
      fun kept => if kept then pure () else shader.teardown := by
    funext world
    change _ = (if world.hasShader shader then pure () else shader.teardown : Act Unit) world
    unfold letGo
    split <;> rfl
  rw [reads, reads]
  refine Mirrors.andThen (.read fun world image same => same.hasShader ?_) fun kept => ?_
  · exact congrArg (fun seen => seen.id) alike
  · cases kept with
    | true => exact .pure rfl
    | false => exact teardown_mirrors alike

end Shader

namespace Device

variable {device other : Device} (alike : device.seen leeway = other.seen leeway)

include alike

theorem teardown_mirrors : Echoes leeway heap device.teardown other.teardown := by
  have number : device.id = other.id := congrArg (fun seen => seen.id) alike
  unfold teardown
  rw [number]
  exact Mirrors.andThen (.emit rfl) fun _ =>
    Base.release_mirrors (congrArg (fun seen => seen.base) alike)

theorem letGo_mirrors : Echoes leeway heap device.letGo other.letGo := by
  have reads (device : Device) : device.letGo = Act.read (fun world => world.hasDevice device) >>=
      fun kept => if kept then pure () else device.teardown := by
    funext world
    change _ = (if world.hasDevice device then pure () else device.teardown : Act Unit) world
    unfold letGo
    split <;> rfl
  rw [reads, reads]
  refine Mirrors.andThen (.read fun world image same => same.hasDevice ?_) fun kept => ?_
  · exact congrArg (fun seen => seen.id) alike
  · cases kept with
    | true => exact .pure rfl
    | false => exact teardown_mirrors alike

end Device

theorem Held.letGo_mirrors {object other : Held} (alike : object.Alike leeway other) :
    Echoes leeway heap object.letGo other.letGo := by
  cases alike with
  | base alike => exact Base.release_mirrors alike
  | device alike => exact Device.letGo_mirrors alike
  | shader alike => exact Shader.letGo_mirrors alike
  | same =>
      cases object with
      | allocator _ => exact .pure rfl
      | compiler _ => exact .pure rfl
      | buffer owned => exact owned.release_mirrors
      | base owned => exact Base.release_mirrors rfl
      | device shared => exact Device.letGo_mirrors rfl
      | shader shared => exact Shader.letGo_mirrors rfl
      | ir owned => exact owned.release_mirrors
      | program owned => exact owned.destroy_mirrors

/-! Compilers. They are shown the base of an object, but only its kind goes into what they do. -/

theorem ScriptedCompiler.compile_mirrors (compiler : ScriptedCompiler) (self : CompilerRef)
    (request : Glsl.Request) :
    Echoes leeway heap (compiler.compile self request) (compiler.compile self request) := by
  have replaced (state : Compiler) : Echoes leeway heap
      (Act.change fun world => { world with compilers := world.compilers.set self.serial state })
      (Act.change fun world => { world with compilers := world.compilers.set self.serial state }) :=
    .compilers fun compilers => compilers.set self.serial state
  refine (replaced _).andThen fun _ => ?_
  split
  · exact .unwind
  · split
    · exact .pure rfl
    · exact (replaced _).andThen fun _ => Mirrors.andThen (.emit rfl) fun _ => .pure rfl

namespace FrontEnd

variable {self : CompilerRef} {base other : Base} {request : Glsl.Request}

theorem change_mirrors (update : FrontEnd → FrontEnd) :
    Echoes leeway heap (change self update) (change self update) := by
  have still (world : World) : (eased leeway).related world (change self update world).2 := by
    simp only [change, Act.change]
    cases world.compilers self.serial <;> exact eased_of_same rfl rfl
  refine .change still still fun world image alike => ?_
  rw [← alike.compilers]
  cases world.compilers self.serial with
  | scripted _ => exact alike
  | frontEnd state => exact { alike with compilers := rfl }

theorem count_mirrors (update : CompileCounts → CompileCounts) :
    Echoes leeway heap (count self update) (count self update) :=
  change_mirrors _

theorem usingParser_eq_proceed {α : Type} (act : Act α) :
    usingParser self act = act.proceed fun
      | .unwound => change self (fun state => { state with poisoned := true }) >>= fun _ => Act.unwind
      | exit => ended exit := by
  funext world
  unfold usingParser proceed
  rcases act world with ⟨exit, after⟩
  cases exit <;> rfl

theorem usingParser_mirrors {α : Type} {act : Act α} (used : Echoes leeway heap act act) :
    Echoes leeway heap (usingParser self act) (usingParser self act) := by
  rw [usingParser_eq_proceed]
  refine used.proceed fun exit ending matched => ?_
  cases matched with
  | done same => exact .ended (.done same)
  | failed error => exact .ended (.failed error)
  | unwound => exact (change_mirrors _).andThen fun _ => .unwind

theorem recover_mirrors : Echoes leeway heap (recover self) (recover self) := by
  refine Mirrors.andThen (.read fun world image alike => ?_) fun poisoned => ?_
  · rw [isPoisoned, isPoisoned, alike.compilers]
  · cases poisoned with
    | false => exact .pure rfl
    | true => exact (count_mirrors _).andThen fun _ => Mirrors.andThen (.note _ _ _) fun _ =>
        change_mirrors _

theorem parse_mirrors (verdict : Verdict) :
    Echoes leeway heap (parse self verdict) (parse self verdict) := by
  refine usingParser_mirrors (recover_mirrors.andThen fun _ => ?_)
  cases verdict with
  | panics => exact .unwind
  | unparsed reason => exact (count_mirrors _).andThen fun _ => .note _ _ _
  | invalid reason => exact .pure rfl
  | accepted parsed => exact .pure rfl

theorem remarkFlags_mirrors : Echoes leeway heap (remarkFlags request) (remarkFlags request) := by
  unfold remarkFlags
  split
  · exact .note _ _ _
  · exact .pure rfl

theorem conclude_mirrors (kind : base.kind = other.kind) (verdict : Verdict) :
    Echoes leeway heap (conclude self base request verdict) (conclude self other request verdict) := by
  cases verdict with
  | panics => exact .pure rfl
  | unparsed reason => exact .pure rfl
  | invalid reason =>
      exact (count_mirrors _).andThen fun _ => Mirrors.andThen (.note _ _ _) fun _ => .pure rfl
  | accepted parsed =>
      have message : compiledMessage request base parsed = compiledMessage request other parsed := by
        -- The equation of the definition would be slow to come by.
        delta compiledMessage
        rw [kind]
      refine (count_mirrors _).andThen fun _ => (change_mirrors _).andThen fun _ => ?_
      simp only [message]
      exact Mirrors.andThen (.note _ _ _) fun _ => Mirrors.andThen (.emit rfl) fun _ => .pure rfl

theorem compile_mirrors (kind : base.kind = other.kind) (verdict : Verdict) :
    Echoes leeway heap (compile self base request verdict) (compile self other request verdict) := by
  unfold compile
  split
  · exact remarkFlags_mirrors.andThen fun _ => (parse_mirrors verdict).andThen fun _ =>
      conclude_mirrors kind verdict
  · exact (count_mirrors _).andThen fun _ => Mirrors.andThen (.note _ _ _) fun _ => .pure rfl

end FrontEnd

theorem CompilerRef.createProgram_mirrors (compiler : CompilerRef) {base other : Base}
    (alike : base.seen leeway = other.seen leeway) (request : Glsl.Request) (verdict : Verdict) :
    Echoes leeway heap (compiler.createProgram base request verdict)
      (compiler.createProgram other request verdict) := by
  have event : (Event.compiling compiler request base).seen? leeway =
      (Event.compiling compiler request other).seen? leeway :=
    congrArg (fun seen => some (Event.compiling compiler request seen)) alike
  refine Mirrors.andThen (.emit event) fun _ => Mirrors.andThen (.read fun world image same => ?_)
    fun state => ?_
  · exact congrFun same.compilers compiler.serial
  · cases state with
    | scripted state => exact state.compile_mirrors compiler request
    | frontEnd state =>
        exact FrontEnd.compile_mirrors (congrArg (fun seen => seen.kind) alike) verdict

/-! Making shaders and devices. -/

namespace Source

theorem readBil_mirrors (code : List UInt8) : Echoes leeway heap (readBil code) (readBil code) := by
  refine Mirrors.andThen (.ofExcept _) fun container => ?_
  split
  · exact .pure rfl
  · exact Mirrors.andThen (.note _ _ _) fun _ => .pure rfl

theorem select_mirrors {device other : Device} (alike : device.seen leeway = other.seen leeway)
    (info : CreateInfo) : Echoes leeway heap (select device info) (select other info) := by
  have extensions : device.extensions = other.extensions := congrArg (fun seen => seen.extensions) alike
  unfold select Device.has
  rw [extensions]
  split
  · exact Mirrors.andThen (.ofExcept _) fun request => .pure rfl
  · exact (readBil_mirrors _).andThen fun container => .pure rfl

end Source

namespace Ir

theorem requestContainer_mirrors (allocator : AllocatorRef) :
    Echoes leeway heap (requestContainer allocator) (requestContainer allocator) :=
  (allocator.request_mirrors _ _ _).orFail _

theorem translate_mirrors (allocator : AllocatorRef) (source : Bil.Module) :
    Echoes leeway heap (translate allocator source) (translate allocator source) :=
  (requestContainer_mirrors allocator).andThen fun container =>
    ((Buffer.copyOf_mirrors _ _ _).orRelease container.release_mirrors).andThen fun _ => .pure rfl

variable {base echo : Base} (based : base.seen leeway = echo.seen leeway) (request : Glsl.Request)
  (verdict : Verdict)

include based

theorem requireProgram_mirrors (compiler : CompilerRef) :
    Echoes leeway heap (requireProgram compiler base request verdict)
      (requireProgram compiler echo request verdict) := by
  refine (compiler.createProgram_mirrors based request verdict).andThen fun made => ?_
  cases made with
  | none => exact Mirrors.andThen (.note _ _ _) fun _ => .fail _
  | some program => exact .pure rfl

variable {device other : Device} (alike : device.seen leeway = other.seen leeway)

include alike

theorem compile_mirrors : Echoes leeway heap (compile device base request verdict)
    (compile other echo request verdict) := by
  have allocator : device.allocator = other.allocator := congrArg (fun seen => seen.allocator) alike
  have compiler : device.compiler = other.compiler := congrArg (fun seen => seen.compiler) alike
  unfold compile
  rw [allocator, compiler]
  split
  · exact .fail _
  · exact (requestContainer_mirrors _).andThen fun container =>
      ((requireProgram_mirrors based request verdict _).orRelease container.release_mirrors).andThen
        fun _ => .pure rfl

omit request in
theorem ofSource_mirrors (source : Source) : Echoes leeway heap (ofSource device base source verdict)
    (ofSource other echo source verdict) := by
  have allocator : device.allocator = other.allocator := congrArg (fun seen => seen.allocator) alike
  cases source with
  | bil container =>
      unfold ofSource
      rw [allocator]
      exact translate_mirrors _ container
  | glsl request => exact compile_mirrors based request verdict alike

end Ir

namespace Shader

theorem rejection_mirrors (code : List UInt8) (error : Error) :
    Echoes leeway heap (rejection code error) (rejection code error) :=
  .note _ _ _

variable {device other : Device} (alike : device.seen leeway = other.seen leeway)

include alike

theorem complete_mirrors {base echo : Base} (based : base.seen leeway = echo.seen leeway)
    (info : CreateInfo) (verdict : Verdict) :
    Mirrors leeway heap (Shader.seen leeway) (complete device base info verdict)
      (complete other echo info verdict) := by
  have number : device.id = other.id := congrArg (fun seen => seen.id) alike
  have name : device.gpuName = other.gpuName := congrArg (fun seen => seen.gpuName) alike
  refine ((Source.select_mirrors alike info).onFailure (rejection_mirrors info.code)).andThen
    fun source => (Ir.ofSource_mirrors based verdict alike source).andThen fun ir => ?_
  unfold announce
  rw [name]
  refine Mirrors.andThen ((Mirrors.note _ _ _).orRelease ir.release_mirrors) fun _ =>
    Mirrors.andThen .freshSerial fun serial => .pure ?_
  simp only [Shader.seen, number, based]

theorem create_mirrors {info : CreateInfo} (fits : leeway.Fits heap info.code) (verdict : Verdict) :
    Mirrors leeway heap (Shader.seen leeway) (create device info verdict)
      (create other info verdict) := by
  have allocator : device.allocator = other.allocator := congrArg (fun seen => seen.allocator) alike
  unfold create
  rw [allocator]
  have recorded : ∀ bytes, some info.code = some bytes → leeway.Fits heap bytes := by
    rintro _ ⟨rfl⟩
    exact fits
  exact (Base.create_mirrors (congrArg (fun seen => seen.debug) alike) _ recorded).bind
    fun base echo based => (complete_mirrors alike based info verdict).orRelease
      (Base.release_mirrors based)

end Shader

theorem Device.create_mirrors {config other : DeviceConfig}
    (alike : config.seen leeway = other.seen leeway) :
    Mirrors leeway heap (Device.seen leeway) (create config) (create other) := by
  have extensions : config.extensions = other.extensions := congrArg (fun seen => seen.extensions) alike
  have name : config.gpuName = other.gpuName := congrArg (fun seen => seen.gpuName) alike
  have allocator : config.allocator = other.allocator := congrArg (fun seen => seen.allocator) alike
  have compiler : config.compiler = other.compiler := congrArg (fun seen => seen.compiler) alike
  have debug : leeway.flag config.debug = leeway.flag other.debug :=
    congrArg (fun seen => seen.debug) alike
  unfold create
  rw [extensions, name, allocator, compiler]
  split
  · exact .fail _
  · refine (Base.create_mirrors debug _ (by simp)).bind fun base echo based =>
      Mirrors.andThen .freshSerial fun serial => .pure ?_
    simp only [Device.seen, based, debug]

end ShaderDriver
