import ShaderDriver.Log.Console

namespace ShaderDriver.Log

/-! Entries that the driver makes while it runs. They carry no time, which is the console's to add,
and the driver's own places in its text are one site. -/

inductive Site where
  | driver
  | client (file : String) (line : Nat)
deriving DecidableEq, Repr

structure Record where
  severity : Severity
  source : String
  message : String
  site : Option Site
deriving DecidableEq, Repr

/-- Lets so many entries of a severity pass, or of any severity, and panics at the next. -/
structure Fault where
  severity : Option Severity
  skip : Nat
deriving DecidableEq, Repr

/-- Where the entries go: to the application, whose logger can panic at some of them, or to the
console. -/
inductive Logger where
  | capturing (faults : List Fault)
  | console (threshold : Severity)
deriving DecidableEq, Repr

/-- What became of an entry. -/
inductive Sink where
  | captured
  | printed
  | withheld
deriving DecidableEq, Repr

namespace Fault

def concerns (fault : Fault) (severity : Severity) : Bool :=
  match fault.severity with
  | none => true
  | some wanted => wanted == severity

end Fault

namespace Logger

/-- A logger that never panics. -/
def quiet : Logger :=
  .capturing []

/-- Whether the logger panics at an entry, and the logger from then on. Faults come into play one
after the other. -/
def receive (logger : Logger) (severity : Severity) : Bool × Logger :=
  match logger with
  | .console threshold => (false, .console threshold)
  | .capturing [] => (false, .capturing [])
  | .capturing (fault :: rest) =>
      if fault.concerns severity then
        match fault.skip with
        | 0 => (true, .capturing rest)
        | skip + 1 => (false, .capturing ({ fault with skip } :: rest))
      else (false, .capturing (fault :: rest))

def sink (logger : Logger) (severity : Severity) : Sink :=
  match logger with
  | .capturing _ => .captured
  | .console threshold => if severity.atLeast threshold then .printed else .withheld

end Logger

namespace Record

/-- The place that a console shows for an entry. -/
def place? (record : Record) : Option String :=
  record.site.map fun
    | .driver => "LOC"
    | .client file line => file ++ ":" ++ toString line

/-- The line of an entry, with a mark in place of the time. -/
def consoleLine (colours : Bool) (record : Record) : String :=
  Console.render colours
    (Console.spans "TS" record.severity record.source record.message record.place?)

end Record

end ShaderDriver.Log
