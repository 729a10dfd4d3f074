namespace ShaderDriver.Memory

/-! What system memory is asked for, and a value for each such purpose. -/

inductive AllocType where
  /-- The base of an object that callers can see. -/
  | apiObject
  | internal
  /-- Containers of shaders and the kernels in them. -/
  | internalShader
  /-- Copies of create infos. -/
  | debug
deriving DecidableEq, Repr

namespace AllocType

def all : List AllocType :=
  [.apiObject, .internal, .internalShader, .debug]

def name : AllocType → String
  | .apiObject => "ApiObject"
  | .internal => "Internal"
  | .internalShader => "InternalShader"
  | .debug => "Debug"

theorem mem_all (type : AllocType) : type ∈ all := by
  cases type <;> decide

end AllocType

structure ByType (α : Type) where
  apiObject : α
  internal : α
  internalShader : α
  debug : α
deriving DecidableEq, Repr

namespace ByType

variable {α : Type}

def every (value : α) : ByType α :=
  { apiObject := value, internal := value, internalShader := value, debug := value }

def get (values : ByType α) : AllocType → α
  | .apiObject => values.apiObject
  | .internal => values.internal
  | .internalShader => values.internalShader
  | .debug => values.debug

def set (values : ByType α) (type : AllocType) (value : α) : ByType α :=
  match type with
  | .apiObject => { values with apiObject := value }
  | .internal => { values with internal := value }
  | .internalShader => { values with internalShader := value }
  | .debug => { values with debug := value }

theorem get_set (values : ByType α) (type other : AllocType) (value : α) :
    (values.set type value).get other = if other = type then value else values.get other := by
  cases type <;> cases other <;> rfl

@[ext] theorem ext_get {first second : ByType α}
    (same : ∀ type, first.get type = second.get type) : first = second := by
  cases first
  cases second
  have object := same .apiObject
  have internal := same .internal
  have shader := same .internalShader
  have debug := same .debug
  simp only [get] at object internal shader debug
  subst object internal shader debug
  rfl

end ByType

end ShaderDriver.Memory
