namespace ShaderDriver

/-! The stages of a graphics or compute pipeline that shaders are written for. -/

inductive Stage where
  | vertex
  | tessControl
  | tessEvaluation
  | geometry
  | fragment
  | compute
deriving DecidableEq, Repr

namespace Stage

def number : Stage → UInt32
  | .vertex => 0
  | .tessControl => 1
  | .tessEvaluation => 2
  | .geometry => 3
  | .fragment => 4
  | .compute => 5

def ofNumber? (number : UInt32) : Option Stage :=
  if number = 0 then some .vertex
  else if number = 1 then some .tessControl
  else if number = 2 then some .tessEvaluation
  else if number = 3 then some .geometry
  else if number = 4 then some .fragment
  else if number = 5 then some .compute
  else none

def name : Stage → String
  | .vertex => "Vertex"
  | .tessControl => "TessControl"
  | .tessEvaluation => "TessEvaluation"
  | .geometry => "Geometry"
  | .fragment => "Fragment"
  | .compute => "Compute"

theorem ofNumber?_number (stage : Stage) : ofNumber? stage.number = some stage := by
  cases stage <;> rfl

theorem number_of_ofNumber? {number : UInt32} {stage : Stage}
    (found : ofNumber? number = some stage) : stage.number = number := by
  unfold ofNumber? at found
  repeat' split at found
  all_goals first
    | (cases found; symm; assumption)
    | contradiction

end Stage

end ShaderDriver
