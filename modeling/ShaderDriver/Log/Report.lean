import ShaderDriver.Act

namespace ShaderDriver.Act

open Log

/-! Handing entries to the logger. -/

/-- The logger is shown the entry, and may panic when it has taken it. -/
def log (record : Record) : Act Unit := fun world =>
  let (panics, next) := world.logger.receive record.severity
  let sink := world.logger.sink record.severity
  let after := { world with logger := next, trace := world.trace ++ [.logged record sink] }
  (if panics then .unwound else .done (), after)

/-- An entry without a site. -/
def note (severity : Severity) (source message : String) : Act Unit :=
  log { severity, source, message, site := none }

/-- The entry that the driver makes for an error of one of its entry points. -/
def errorRecord (error : Error) : Record :=
  { severity := .error
    source := "xgl::Icd"
    message :=
      match error with
      | .invalidHandle _ => error.message
      | .initializationFailed _ => error.message
      | _ => "ICD error: " ++ error.message
    site := some .driver }

def logError (error : Error) : Act Unit :=
  log (errorRecord error)

variable {α : Type}

/-- Fails with an error that is logged first. -/
def failLogged (error : Error) : Act α :=
  Act.bind (logError error) fun _ => fail error

end ShaderDriver.Act
