import ShaderDriver.Text.Blank

namespace ShaderDriver.Log

/-! How grave a log entry is, from `trace` up to `error`. -/

inductive Severity where
  | trace
  | debug
  | info
  | warn
  | error
deriving DecidableEq, Repr

namespace Severity

def rank : Severity → Nat
  | .trace => 0
  | .debug => 1
  | .info => 2
  | .warn => 3
  | .error => 4

def atLeast (severity threshold : Severity) : Bool :=
  threshold.rank ≤ severity.rank

/-- The graver of two, the first where they are alike. -/
def graver (first second : Severity) : Severity :=
  if second.atLeast first then second else first

/-- Five characters, so that the columns of a log line up. -/
def label : Severity → String
  | .trace => "TRACE"
  | .debug => "DEBUG"
  | .info => "INFO "
  | .warn => "WARN "
  | .error => "ERROR"

/-- Blanks around the name and the case of its letters do not matter. -/
def parse? (name : String) : Option Severity :=
  let word := String.ofList (Text.lowerAscii (Text.trim name.toList))
  if word = "trace" then some .trace
  else if word = "debug" then some .debug
  else if word = "info" then some .info
  else if word = "warn" ∨ word = "warning" then some .warn
  else if word = "error" then some .error
  else none

/-- The environment variable that names the threshold of the console. -/
def variableName : String :=
  "XGL_LOG"

def standard : Severity :=
  .info

/-- The threshold that an environment asks for; a variable that is unset or names no severity asks
for the standard one. -/
def ofEnvironment (value : Option String) : Severity :=
  (value.bind parse?).getD standard

theorem rank_inj {first second : Severity} : first.rank = second.rank ↔ first = second := by
  cases first <;> cases second <;> simp [rank]

end Severity

end ShaderDriver.Log
