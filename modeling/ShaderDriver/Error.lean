namespace ShaderDriver

/-! Why an entry point of the driver fails, and the code that a caller is given for it. -/

inductive Error where
  | outOfMemory
  | invalidMemorySize
  | badShaderCode
  | invalidHandle (reason : String)
  | initializationFailed (reason : String)
deriving DecidableEq, Repr

inductive ResultCode where
  | success
  | outOfMemory
  | invalidMemorySize
  | badShaderCode
  | invalidHandle
  | initializationFailed
deriving DecidableEq, Repr

namespace Error

/-- The sentence that callers and the log are shown. -/
def message : Error → String
  | .outOfMemory => "Out of memory"
  | .invalidMemorySize => "Invalid memory size"
  | .badShaderCode => "Bad shader code"
  | .invalidHandle reason => "Invalid handle: " ++ reason
  | .initializationFailed reason => "Initialization failed: " ++ reason

def code : Error → ResultCode
  | .outOfMemory => .outOfMemory
  | .invalidMemorySize => .invalidMemorySize
  | .badShaderCode => .badShaderCode
  | .invalidHandle _ => .invalidHandle
  | .initializationFailed _ => .initializationFailed

end Error

namespace ResultCode

def ofExcept : Except Error α → ResultCode
  | .ok _ => .success
  | .error error => error.code

def isSuccess (code : ResultCode) : Bool :=
  code == .success

theorem ofExcept_isSuccess (result : Except Error α) :
    (ofExcept result).isSuccess = true ↔ ∃ value, result = .ok value := by
  cases result with
  | ok value => simp [ofExcept, isSuccess]
  | error error => cases error <;> simp [ofExcept, isSuccess, Error.code]

end ResultCode

end ShaderDriver
