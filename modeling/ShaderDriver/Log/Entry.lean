import ShaderDriver.Log.Severity
import ShaderDriver.Log.Instant

namespace ShaderDriver.Log

/-! A log entry and the line of text that stands for it. -/

structure Entry where
  severity : Severity
  time : Instant
  source : String
  message : String
  file : Option String
  line : Option Nat
deriving DecidableEq, Repr

namespace Entry

/-- Shown only where both the file and the line are known. -/
def location (entry : Entry) : String :=
  match entry.file, entry.line with
  | some file, some line => " (" ++ file ++ ":" ++ toString line ++ ")"
  | _, _ => ""

/-- Time, label and source in brackets, the message, and the location. How a time is shown depends
on the zone the reader is in, and there is no line for an entry whose time cannot be shown. -/
def format? (entry : Entry) (stamp? : Instant → Option String := Instant.stamp?) : Option String :=
  (stamp? entry.time).map fun stamp =>
    "[" ++ stamp ++ "] [" ++ entry.severity.label ++ "] [" ++ entry.source ++ "] " ++
      entry.message ++ entry.location

end Entry

end ShaderDriver.Log
