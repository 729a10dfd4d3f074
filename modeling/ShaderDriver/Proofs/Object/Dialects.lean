import ShaderDriver.Proofs.Object.Enactment

namespace ShaderDriver

open Memory Container Act

/-! No code is in both languages. A device without a compiler that is handed a compile request refuses
it before anything is made of it. -/

namespace Container

/-- No stage has the magic number. -/
theorem Glsl.Request.Acceptable.unmarked {code : List UInt8}
    (acceptable : Glsl.Request.Acceptable code) : ¬ Bil.Module.Marked code := by
  intro marked
  obtain ⟨stage, number⟩ := acceptable.stage
  have same : stage.number.toNat = Bil.magicNumber.toNat := number.trans marked.magic
  cases stage <;> contradiction

namespace Bil.Module

/-- The error about code that is no module. -/
def refusal (code : List UInt8) : Error :=
  if code.length < headerSize then .invalidMemorySize else .badShaderCode

theorem decode_refuses {code : List UInt8} (unmarked : ¬ Marked code) :
    decode code = .error (refusal code) := by
  unfold refusal
  split
  · next short => exact decode_short short
  · next room => exact decode_unmarked (Nat.le_of_not_lt room) unmarked

end Bil.Module

end Container

namespace Source

variable {device : Device} {info : CreateInfo} {world after : World} {source : Source}

/-- What was selected says which language the code is in. -/
theorem select_language (done : select device info world = (.done source, after)) :
    if device.has .compileGlsl = true ∧ info.type = .compileRequest then
      Glsl.Request.Acceptable info.code
    else Bil.Module.Marked info.code := by
  have chosen := select_eq_done done
  cases source with
  | glsl request =>
      rw [if_pos chosen.1]
      exact Glsl.Request.decode_accepts.mp ⟨request, chosen.2⟩
  | bil container =>
      rw [if_neg chosen.1]
      exact Bil.Module.decode_accepts.mp ⟨container, chosen.2⟩

theorem select_refuses (unasked : ¬(device.has .compileGlsl = true ∧ info.type = .compileRequest))
    (unmarked : ¬ Bil.Module.Marked info.code) (world : World) :
    select device info world = (.failed (Bil.Module.refusal info.code), world) := by
  unfold select
  rw [if_neg unasked]
  exact bind_failed (readBil_of_error (Bil.Module.decode_refuses unmarked) world)

end Source

namespace Act

variable {α β : Type} {act : Act α} {next : α → Act β} {error : Error}

/-- The action fails with one error only. -/
def FailsAs (act : Act α) (error : Error) : Prop :=
  ∀ world other, (act world).1 = .failed other → other = error

theorem FailsAs.pure (value : α) : (Pure.pure value : Act α).FailsAs error :=
  fun _ _ failed => nomatch failed

theorem FailsAs.read (view : World → α) : (Act.read view).FailsAs error :=
  fun _ _ failed => nomatch failed

theorem FailsAs.of_unfailing (unfailing : act.Unfailing) : act.FailsAs error :=
  fun world other failed => absurd failed (unfailing world other)

theorem FailsAs.fail (error : Error) : (Act.fail error : Act α).FailsAs error := by
  rintro world other ⟨⟩
  rfl

theorem FailsAs.bind (first : act.FailsAs error) (second : ∀ value, (next value).FailsAs error) :
    (act >>= next).FailsAs error := by
  intro world other failed
  have start := first world
  rw [bind_apply] at failed
  generalize act world = ran at start failed
  obtain ⟨exit, middle⟩ := ran
  cases exit with
  | done value => exact second value middle other failed
  | failed reason =>
      cases failed
      exact start _ rfl
  | unwound => cases failed

theorem FailsAs.orFail {search : Act (Option α)} (first : search.FailsAs error) :
    (search.orFail error).FailsAs error := by
  refine first.bind fun found => ?_
  cases found with
  | none => exact .fail error
  | some value => exact .pure value

theorem FailsAs.orRelease (first : act.FailsAs error) (release : Act Unit) :
    (act.orRelease release).FailsAs error := by
  intro world other failed
  have start := first world
  unfold Act.orRelease at failed
  generalize act world = ran at start failed
  obtain ⟨exit, middle⟩ := ran
  cases exit with
  | done value => cases failed
  | failed reason =>
      rcases leave_exit (.failed reason : Exit α) release middle with kept | unwound
      · exact start other (kept.symm.trans failed)
      · cases unwound.symm.trans failed
  | unwound =>
      rcases leave_exit (.unwound : Exit α) release middle with kept | unwound
      · cases kept.symm.trans failed
      · cases unwound.symm.trans failed

end Act

/-! What is seen on the way to a base and back. -/

namespace Event

/-- Nothing is asked for a form, and no program is made. -/
def Formless : Event → Prop
  | .requested _ _ _ type _ => type ≠ .internalShader
  | .compiling _ _ _ => False
  | .programMade _ => False
  | _ => True

end Event

section

variable {plain : Event → Prop}

theorem AllocatorRef.request_showing {allocator : AllocatorRef} {size alignment : Nat}
    {type : AllocType} (seen : ∀ granted, plain (.requested allocator size alignment type granted)) :
    (showing plain).Holds (allocator.request size alignment type) := by
  intro world
  unfold request
  rcases (world.allocators allocator.serial).alloc size type with ⟨reply, next⟩
  cases reply with
  | fault => exact .cells world _ world.compilers
  | refused => exact .event (seen false) world _ world.logger
  | granted => exact .event (seen true) world _ world.logger

theorem Allocation.release_showing {allocation : Allocation} (seen : plain allocation.returned) :
    (showing plain).Holds allocation.release := by
  intro world
  unfold release
  rcases (world.allocators allocation.allocator.serial).free allocation.size allocation.type
    with ⟨inOrder, next⟩
  exact .event seen world _ world.logger

theorem Base.release_showing (base : Base)
    (seen : ∀ allocation : Allocation, plain allocation.returned) :
    (showing plain).Holds base.release := by
  unfold release
  split
  · exact Allocation.release_showing (seen _)
  · exact (Allocation.release_showing (seen _)).thenRelease (Allocation.release_showing (seen _))

theorem log_showing {record : Log.Record} (seen : ∀ sink, plain (.logged record sink)) :
    (showing plain).Holds (log record) := by
  intro world
  unfold log
  rcases world.logger.receive record.severity with ⟨panics, next⟩
  exact .event (seen _) world world.allocators next

end

abbrev formless : Frame := showing Event.Formless

theorem AllocatorRef.request_unfailing (allocator : AllocatorRef) (size alignment : Nat)
    (type : AllocType) : (allocator.request size alignment type).Unfailing := by
  intro world error
  unfold request
  rcases (world.allocators allocator.serial).alloc size type with ⟨reply, next⟩
  cases reply <;> nofun

theorem Allocation.release_unfailing (allocation : Allocation) : allocation.release.Unfailing := by
  intro world error
  unfold release
  rcases (world.allocators allocation.allocator.serial).free allocation.size allocation.type
    with ⟨inOrder, next⟩
  cases inOrder <;> nofun

theorem Buffer.copyOf_failsAs (allocator : AllocatorRef) (bytes : List UInt8) (type : AllocType) :
    (copyOf allocator bytes type).FailsAs .outOfMemory := by
  rw [Shader.Plan.copyOf_eq]
  refine .bind (.orFail (.of_unfailing (allocator.request_unfailing _ _ _))) fun allocation =>
    .bind (.read World.heap) fun heap => ?_
  split
  · exact .pure _
  · exact .bind (.of_unfailing allocation.release_unfailing) fun _ => .fail _

theorem Buffer.copyOf_formless {type : AllocType} (other : type ≠ .internalShader)
    (allocator : AllocatorRef) (bytes : List UInt8) :
    formless.Holds (copyOf allocator bytes type) := by
  rw [Shader.Plan.copyOf_eq]
  refine .bind ((AllocatorRef.request_showing fun _ => other).orFail _) fun allocation =>
    .bind (.read World.heap) fun heap => ?_
  split
  · exact .pure _
  · exact .bind (Allocation.release_showing trivial) fun _ => .fail _

namespace Base

/-- A base fails for want of memory only. -/
theorem create_failsAs (allocator : AllocatorRef) (debug : Bool) (kind : ObjectKind) (size : Nat)
    (info : Option (List UInt8)) :
    (create allocator debug kind size info).FailsAs .outOfMemory := by
  refine .bind (.orFail (.of_unfailing (allocator.request_unfailing _ _ _))) fun allocation => ?_
  cases info with
  | none => exact .pure _
  | some bytes =>
      cases debug with
      | false => exact .pure _
      | true => exact .bind (.orRelease (Buffer.copyOf_failsAs _ _ _) _) fun _ => .pure _

theorem create_formless (allocator : AllocatorRef) (debug : Bool) (kind : ObjectKind) (size : Nat)
    (info : Option (List UInt8)) : formless.Holds (create allocator debug kind size info) := by
  have own : AllocType.apiObject ≠ .internalShader := nofun
  refine .bind ((AllocatorRef.request_showing fun _ => own).orFail _) fun allocation => ?_
  cases info with
  | none => exact .pure _
  | some bytes =>
      cases debug with
      | false => exact .pure _
      | true =>
          have copy : AllocType.debug ≠ .internalShader := nofun
          exact .bind ((Buffer.copyOf_formless copy allocator bytes).orRelease
            (Allocation.release_showing trivial)) fun _ => .pure _

end Base

namespace Shader

variable {device : Device} {info : CreateInfo} {world : World}
  (unasked : ¬(device.has .compileGlsl = true ∧ info.type = .compileRequest))
  (unmarked : ¬ Bil.Module.Marked info.code)

/-- What becomes of code in the wrong language once the base is there. -/
def refuse (info : CreateInfo) (base : Base) : Act Shader :=
  (rejection info.code (Bil.Module.refusal info.code) >>= fun _ =>
    Act.fail (Bil.Module.refusal info.code)).orRelease base.release

include unasked unmarked

theorem create_eq_refuse (verdict : Verdict) :
    create device info verdict =
      Base.create device.allocator device.debug .shader footprint (some info.code) >>=
        refuse info := by
  have completed (base : Base) : complete device base info verdict =
      rejection info.code (Bil.Module.refusal info.code) >>= fun _ =>
        Act.fail (Bil.Module.refusal info.code) := by
    funext world
    have selected : (Source.select device info).onFailure (rejection info.code) world =
        (rejection info.code (Bil.Module.refusal info.code) >>= fun _ =>
          (Act.fail (Bil.Module.refusal info.code) : Act Source)) world := by
      unfold Act.onFailure
      rw [Source.select_refuses unasked unmarked]
      rfl
    unfold complete
    rw [bind_apply, selected, bind_apply, bind_apply]
    rcases rejection info.code (Bil.Module.refusal info.code) world with ⟨exit, after⟩
    cases exit <;> rfl
  unfold create
  simp only [completed]
  rfl

theorem create_refused_formless (verdict : Verdict) :
    formless.Holds (create device info verdict) := by
  rw [create_eq_refuse unasked unmarked]
  refine .bind (Base.create_formless _ _ _ _ _) fun base => ?_
  exact (Frame.Holds.bind (log_showing fun _ => trivial) fun _ => .fail _).orRelease
    (base.release_showing fun _ => trivial)

theorem create_refused_ne_done (verdict : Verdict) (world : World) (shader : Shader) :
    (create device info verdict world).1 ≠ .done shader := by
  rw [create_eq_refuse unasked unmarked]
  intro done
  obtain ⟨base, middle, _, made⟩ := bind_eq_done.mp (Prod.ext done rfl)
  obtain ⟨_, _, _, failed⟩ := bind_eq_done.mp (orRelease_eq_done.mp made)
  cases failed

/-- The refusal is passed on if there was memory for the base. -/
theorem create_refused_exit {live : Multiset (Nat × AllocType)} (verdict : Verdict)
    (accounts : (world.allocators device.allocator.serial).Accounts live)
    (faultless : world.logger.faultless = true) :
    (create device info verdict world).1 =
      if (Base.create device.allocator device.debug .shader footprint (some info.code) world).1.isDone
      then .failed (Bil.Module.refusal info.code) else .failed .outOfMemory := by
  let plan : Plan := { device, info, verdict, heap := world.heap, compilers := world.compilers }
  have reads : plan.read = .failed (Bil.Module.refusal info.code) := by
    have source : plan.source = .error (Bil.Module.refusal info.code) := by
      unfold Plan.source
      rw [if_neg unasked, Bil.Module.decode_refuses unmarked]
      rfl
    rw [Plan.read, source]
  have begins : plan.At live world .base := ⟨rfl, faultless, accounts, fun _ => rfl⟩
  have enacts := Plan.enacts_create begins
  rw [create_eq_refuse unasked unmarked, bind_apply]
  change plan.Enacts _ _ _ _ _ (Base.create device.allocator device.debug .shader footprint
    (some info.code) world) at enacts
  generalize ran : Base.create device.allocator device.debug .shader footprint (some info.code) world =
    ending at enacts ⊢
  cases enacts with
  | failed runs asked reached =>
      rw [Base.create_failsAs _ _ _ _ _ world _ (congrArg Prod.fst ran)]
      rfl
  | @done base middle events runs asked reached =>
      obtain rfl : base = plan.base := Base.create_eq_done ran
      rw [reads] at reached
      obtain ⟨told, remarked, silent, compilers⟩ := note_silent reached.logger .warn "xgl::Shader"
        ("Rejected shader code (" ++ toString info.code.length ++ " bytes): " ++
          (Bil.Module.refusal info.code).message)
      have kept := reached.silent silent fun _ => compilers
      obtain ⟨after, released, _, _⟩ := Plan.clears_base _ _ _ kept
      have failed : (rejection info.code (Bil.Module.refusal info.code) >>= fun _ =>
          (Act.fail (Bil.Module.refusal info.code) : Act Shader)) middle =
            (.failed (Bil.Module.refusal info.code), told) := bind_done remarked
      simp only [refuse, Act.orRelease, failed, Act.leave, released]
      rfl

omit unasked unmarked

/-- No code is read both as a compile request and as a module, so on a device that compiles there is
only one kind of create info with which code can be selected. A device that does not compile refuses
all code that is read as a compile request, with either kind of create info and whatever else goes
wrong, and asks for nothing that a form would need; if nothing else goes wrong, it is for the code
that the creation fails, or for want of memory for the base. Every request that was written is code of
this kind. -/
theorem no_code_is_in_both_languages :
    (∀ code request container, Glsl.Request.decode code = .ok request →
      Bil.Module.decode code ≠ .ok container) ∧
    (∀ (device : Device) code flags others, device.has .compileGlsl = true →
      ∀ first second world other,
        (Source.select device { type := .core, code, flags } world).1 = .done first →
          (Source.select device { type := .compileRequest, code, flags := others } other).1 ≠
            .done second) ∧
    (∀ (device : Device) info request, device.has .compileGlsl = false →
      Glsl.Request.decode info.code = .ok request → ∀ verdict world,
        (∀ shader, (create device info verdict world).1 ≠ .done shader) ∧
        (∃ events, (create device info verdict world).2.trace = world.trace ++ events ∧
          ∀ event ∈ events, event.Formless) ∧
        ∀ live, (world.allocators device.allocator.serial).Accounts live →
          world.logger.faultless = true → (create device info verdict world).1 =
            if (Base.create device.allocator device.debug .shader footprint (some info.code)
              world).1.isDone then .failed (Bil.Module.refusal info.code) else .failed .outOfMemory) ∧
    ∀ stage flags source, ∃ request,
      Glsl.Request.decode (Glsl.Request.encode stage flags source) = .ok request := by
  have unmarked {code : List UInt8} {request : Glsl.Request}
      (read : Glsl.Request.decode code = .ok request) : ¬ Bil.Module.Marked code :=
    (Glsl.Request.decode_accepts.mp ⟨request, read⟩).unmarked
  refine ⟨fun code request container read again => ?_, fun device code flags others compiles first
    second world other done again => ?_, fun device info request plain read verdict world => ?_,
    fun stage flags source => ⟨_, Glsl.Request.decode_encode stage flags source⟩⟩
  · exact unmarked read (Bil.Module.decode_accepts.mp ⟨container, again⟩)
  · have marked := Source.select_language (Prod.ext done rfl)
    have acceptable := Source.select_language (Prod.ext again rfl)
    rw [if_neg (by simp)] at marked
    rw [if_pos ⟨compiles, rfl⟩] at acceptable
    exact acceptable.unmarked marked
  · have unasked : ¬(device.has .compileGlsl = true ∧ info.type = .compileRequest) := by
      simp [plain]
    exact ⟨create_refused_ne_done unasked (unmarked read) verdict world,
      (create_refused_formless unasked (unmarked read) verdict world).trace,
      fun live accounts faultless =>
        create_refused_exit unasked (unmarked read) verdict accounts faultless⟩

/-- A device that does not compile. -/
def plainDevice : Device :=
  { compilingDevice with extensions := .empty }

/-- A request with an empty source is too short for a module, and the next longer ones are no modules
either. -/
theorem written_request_is_refused :
    let short := CreateInfo.glsl (Glsl.Request.encode .fragment 7 "")
    let long := CreateInfo.bil (Glsl.Request.encode .vertex 0x07230203 "void main() {}")
    (create plainDevice short .panics .initial).1 = .failed .invalidMemorySize ∧
      (create plainDevice long .panics .initial).1 = .failed .badShaderCode ∧
      (∀ container, Bil.Module.decode long.code ≠ .ok container) ∧
      ∀ source world, (Source.select compilingDevice long world).1 ≠ .done source := by
  intro short long
  obtain ⟨apart, either, refused, written⟩ := no_code_is_in_both_languages
  have accounts : (World.initial.allocators 0).Accounts 0 :=
    Allocator.tracking_accounts.mpr (Tracker.withBudget_accounts none)
  obtain ⟨first, readFirst⟩ := written .fragment 7 ""
  obtain ⟨second, readSecond⟩ := written .vertex 0x07230203 "void main() {}"
  refine ⟨?_, ?_, fun container => apart _ second container readSecond, fun source world done => ?_⟩
  · rw [(refused plainDevice short first rfl readFirst .panics .initial).2.2 0 accounts rfl]
    decide +kernel
  · rw [(refused plainDevice long second rfl readSecond .panics .initial).2.2 0 accounts rfl]
    decide +kernel
  · refine either compilingDevice long.code 0 0 rfl source (.glsl second) world .initial done ?_
    change Glsl.Request.decode long.code = .ok second at readSecond
    simp only [Source.select, readSecond]
    rfl

end Shader

end ShaderDriver
