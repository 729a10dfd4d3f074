import ShaderDriver.Proofs.Object.Making
import ShaderDriver.Proofs.Object.Sparing

namespace ShaderDriver

open Memory Container Act

/-! What is seen of the end of a shader, and of the memory that it gives back then. -/

namespace Act

theorem log_trace (record : Log.Record) (world : World) :
    (log record world).2.trace =
      world.trace ++ [.logged record (world.logger.sink record.severity)] := by
  unfold log
  rcases world.logger.receive record.severity with ⟨panics, next⟩
  rfl

end Act

namespace Allocation

/-- The allocation is given back. -/
def returned (allocation : Allocation) : Event :=
  .released allocation.allocator allocation.size allocation.type

theorem release_trace (allocation : Allocation) (world : World) :
    (allocation.release world).2.trace = world.trace ++ [allocation.returned] := by
  unfold release
  rcases (world.allocators allocation.allocator.serial).free allocation.size allocation.type
    with ⟨inOrder, next⟩
  rfl

end Allocation

namespace Base

def allocations (base : Base) : List Allocation :=
  base.allocation :: (base.record.map Buffer.allocation).toList

theorem release_trace (base : Base) (world : World) :
    (base.release world).2.trace = world.trace ++ base.allocations.map Allocation.returned := by
  unfold release allocations
  cases base.record with
  | none => exact base.allocation.release_trace world
  | some record =>
      simp only
      rw [thenRelease_world, Buffer.release, Allocation.release_trace, Allocation.release_trace,
        List.append_assoc]
      rfl

end Base

namespace Payload

/-- A kernel's buffer is given back, or a program destroyed. -/
def ended : Payload → Event
  | .kernel buffer => buffer.allocation.returned
  | .program made => .programDestroyed made.compiler

theorem release_trace (payload : Payload) (world : World) :
    (payload.release world).2.trace = world.trace ++ [payload.ended] := by
  cases payload with
  | kernel buffer => exact buffer.allocation.release_trace world
  | program made => rfl

end Payload

namespace Ir

def allocations (ir : Ir) : List Allocation :=
  ir.container :: (ir.kernel?.map Buffer.allocation).toList

theorem release_trace (ir : Ir) (world : World) :
    (ir.release world).2.trace = world.trace ++ [ir.payload.ended, ir.container.returned] := by
  unfold release
  rw [thenRelease_world, Allocation.release_trace, Payload.release_trace, List.append_assoc]
  rfl

end Ir

namespace Shader

/-- All that a shader has in memory. -/
def allocations (shader : Shader) : List Allocation :=
  shader.base.allocations ++ shader.ir.allocations

/-- An entry in the log, the program or the kernel's buffer, the container, the base, and at last the
debug record if there is one. -/
def ceremony (shader : Shader) (sink : Log.Sink) : List Event :=
  [.ending .shader shader.id, .logged shader.farewell sink, shader.ir.payload.ended,
    shader.ir.container.returned, shader.base.allocation.returned] ++
  (shader.base.record.map fun record => record.allocation.returned).toList

theorem teardown_run (shader : Shader) (world : World) :
    shader.teardown world = (Act.log shader.farewell).thenRelease
      (shader.ir.release.thenRelease shader.base.release)
      { world with trace := world.trace ++ [.ending .shader shader.id] } := rfl

/-- The ceremony is the same however the logger and the allocators behave. -/
theorem teardown_trace (shader : Shader) (world : World) :
    (shader.teardown world).2.trace =
      world.trace ++ shader.ceremony (world.logger.sink .trace) := by
  rw [teardown_run, thenRelease_world, thenRelease_world, Base.release_trace, Ir.release_trace,
    log_trace]
  simp only [ceremony, Base.allocations, List.append_assoc]
  cases shader.base.record <;> rfl

/-- A shader's end, and nothing of another's. -/
theorem ceremony_ids (shader : Shader) (sink : Log.Sink) :
    (shader.ceremony sink).filterMap Event.endedShader? = [shader.id] := by
  unfold ceremony Payload.ended
  cases shader.ir.payload <;> cases shader.base.record <;> rfl

end Shader

/-- Events among which shaders end one after the other, each with its whole ceremony. -/
inductive Ceremonies : List Event → List Shader → Prop
  | nil : Ceremonies [] []
  | event {event : Event} {events : List Event} {ended : List Shader}
      (plain : event.endedShader? = none) (rest : Ceremonies events ended) :
      Ceremonies (event :: events) ended
  | shader (shader : Shader) (sink : Log.Sink) {events : List Event} {ended : List Shader}
      (rest : Ceremonies events ended) :
      Ceremonies (shader.ceremony sink ++ events) (shader :: ended)

namespace Ceremonies

variable {first second : List Event} {earlier later : List Shader}

theorem plain {events : List Event} (none : ∀ event ∈ events, event.endedShader? = none) :
    Ceremonies events [] := by
  induction events with
  | nil => exact .nil
  | cons event rest ih =>
      exact .event (none event List.mem_cons_self)
        (ih fun other member => none other (List.mem_cons_of_mem _ member))

theorem append (begun : Ceremonies first earlier) (continued : Ceremonies second later) :
    Ceremonies (first ++ second) (earlier ++ later) := by
  induction begun with
  | nil => exact continued
  | event plain _ ih => exact .event plain ih
  | shader shader sink _ ih =>
      rw [List.append_assoc]
      exact .shader shader sink ih

theorem ids (told : Ceremonies first earlier) :
    first.filterMap Event.endedShader? = earlier.map Shader.id := by
  induction told with
  | nil => rfl
  | event plain _ ih => rw [List.filterMap_cons_none plain, ih]
  | shader shader sink _ ih =>
      rw [List.filterMap_append, Shader.ceremony_ids, ih]
      rfl

end Ceremonies

/-! What is granted on the way to a shader. -/

namespace World

/-- So much memory has been granted, and none given back. -/
def Granted (world after : World) (allocations : List Allocation) : Prop :=
  ∃ events, after.trace = world.trace ++ events ∧
    events.filterMap Event.granted? = allocations ∧ events.filterMap Event.released? = []

variable {first second third : World} {given more : List Allocation}

theorem Granted.trans (begun : first.Granted second given) (continued : second.Granted third more) :
    first.Granted third (given ++ more) := by
  obtain ⟨events, start, granted, kept⟩ := begun
  obtain ⟨others, finish, further, held⟩ := continued
  refine ⟨events ++ others, by rw [finish, start, List.append_assoc], ?_, ?_⟩
  · rw [List.filterMap_append, granted, further]
  · rw [List.filterMap_append, kept, held, List.append_nil]

end World

variable {world after : World}

namespace Buffer

end Buffer

namespace Ir

end Ir

namespace Shader

/-- How the life of a shader that was made on a device begins, and how it ends. -/
structure Span (shader : Shader) (maker : Device) : Prop where
  begins : ∃ info verdict before after,
    create maker info verdict before = (.done shader, after) ∧
      before.Granted after shader.allocations
  ends : ∀ world : World, (shader.teardown world).2.trace =
    world.trace ++ shader.ceremony (world.logger.sink .trace)
  panics : ∀ world : World, (world.logger.receive .trace).1 = true →
    (shader.teardown world).1 = .unwound
  returns : ∀ sink, ((shader.ceremony sink).filterMap Event.released?).Perm shader.allocations

end Shader

end ShaderDriver
