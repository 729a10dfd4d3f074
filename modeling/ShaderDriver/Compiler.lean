import ShaderDriver.Container.Glsl
import ShaderDriver.Text.Outline

namespace ShaderDriver

open Container

/-! The two compilers that an application can hand to a device: one that answers as it is told,
and a front end that parses and validates GLSL. -/

inductive Mode where
  | succeeds
  | fails
  | panics
  /-- Any source leads to a program of this stage and with this entry point. -/
  | delivers (stage : Stage) (entryPoint : String)
deriving DecidableEq, Repr

/-- Accepts the sources with an entry point, unless told otherwise. -/
structure ScriptedCompiler where
  mode : Mode
  entryPoint : String
  calls : Nat
  live : Nat
deriving DecidableEq, Repr

/-- What front ends count, each on 32 bits. -/
structure CompileCounts where
  compiled : UInt32
  unsupportedStage : UInt32
  parseErrors : UInt32
  validationErrors : UInt32
  recoveries : UInt32
deriving DecidableEq, Repr

structure FrontEnd where
  counts : CompileCounts
  /-- Programs that were made and not destroyed. -/
  live : Nat
  /-- A panic while the parser was in use leaves it so until the next compilation. -/
  poisoned : Bool
deriving DecidableEq, Repr

inductive Compiler where
  | scripted (state : ScriptedCompiler)
  | frontEnd (state : FrontEnd)
deriving DecidableEq, Repr

/-- A module that was parsed and found valid. -/
structure ParsedModule where
  entryPoints : List (Stage × String)
  functions : Nat
deriving DecidableEq, Repr

/-- What the parser and the validator make of a source text. -/
inductive Verdict where
  | accepted (parsed : ParsedModule)
  | unparsed (reason : String)
  | invalid (reason : String)
  | panics
deriving DecidableEq, Repr

namespace CompileCounts

def zero : CompileCounts :=
  { compiled := 0, unsupportedStage := 0, parseErrors := 0, validationErrors := 0, recoveries := 0 }

def outline (counts : CompileCounts) : Text.Outline :=
  .group .record "CompileStats" [.part "compiled" (.number counts.compiled.toNat),
    .part "unsupported_stage" (.number counts.unsupportedStage.toNat),
    .part "parse_errors" (.number counts.parseErrors.toNat),
    .part "validation_errors" (.number counts.validationErrors.toNat),
    .part "frontend_recoveries" (.number counts.recoveries.toNat)]

end CompileCounts

/-- Whether one text stands somewhere in another. -/
def occursIn (part : List Char) : List Char → Bool
  | [] => part.isEmpty
  | c :: rest => part.isPrefixOf (c :: rest) || occursIn part rest

namespace ScriptedCompiler

def fresh (entryPoint : String) : ScriptedCompiler :=
  { mode := .succeeds, entryPoint, calls := 0, live := 0 }

/-- Stage and entry point of the program that a request leads to, if it leads to one. -/
def answer? (compiler : ScriptedCompiler) (request : Glsl.Request) : Option (Stage × String) :=
  match compiler.mode with
  | .succeeds =>
      if occursIn "void main".toList request.source.toList then
        some (request.stage, compiler.entryPoint)
      else none
  | .delivers stage entryPoint => some (stage, entryPoint)
  | .fails => none
  | .panics => none

end ScriptedCompiler

namespace FrontEnd

def fresh : FrontEnd :=
  { counts := .zero, live := 0, poisoned := false }

/-- The front end knows neither tessellation nor geometry shaders. -/
def supports : Stage → Bool
  | .vertex => true
  | .fragment => true
  | .compute => true
  | .tessControl => false
  | .tessEvaluation => false
  | .geometry => false

end FrontEnd

namespace ParsedModule

/-- The first entry point of a stage; a module that names none starts at `main`. -/
def entryPoint (parsed : ParsedModule) (stage : Stage) : String :=
  match parsed.entryPoints.find? (fun entry => entry.1 = stage) with
  | some entry => entry.2
  | none => "main"

end ParsedModule

namespace Compiler

def liveCount : Compiler → Nat
  | .scripted state => state.live
  | .frontEnd state => state.live

/-- One program fewer. -/
def forget : Compiler → Compiler
  | .scripted state => .scripted { state with live := state.live - 1 }
  | .frontEnd state => .frontEnd { state with live := state.live - 1 }

end Compiler

end ShaderDriver
