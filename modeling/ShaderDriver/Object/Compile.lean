import ShaderDriver.Object.Release

namespace ShaderDriver

open Container

/-! From a compile request to a program. -/

namespace ScriptedCompiler

/-- One more program that is not destroyed yet. -/
def made (compiler : ScriptedCompiler) : ScriptedCompiler :=
  { compiler with live := compiler.live + 1 }

def compile (compiler : ScriptedCompiler) (self : CompilerRef) (request : Glsl.Request) :
    Act (Option Program) := do
  let counted := { compiler with calls := compiler.calls + 1 }
  Act.change fun world =>
    { world with compilers := world.compilers.set self.serial (.scripted counted) }
  match compiler.mode with
  | .panics => Act.unwind
  | _ =>
      match compiler.answer? request with
      | none => pure none
      | some (stage, entryPoint) => do
          Act.change fun world =>
            { world with compilers := world.compilers.set self.serial (.scripted counted.made) }
          Act.emit (.programMade self)
          pure (some { stage, entryPoint, compiler := self })

end ScriptedCompiler

namespace FrontEnd

def source : String := "xgl::naga"

def change (self : CompilerRef) (update : FrontEnd → FrontEnd) : Act Unit :=
  Act.change fun world =>
    match world.compilers self.serial with
    | .frontEnd state =>
        { world with compilers := world.compilers.set self.serial (.frontEnd (update state)) }
    | .scripted _ => world

def count (self : CompilerRef) (update : CompileCounts → CompileCounts) : Act Unit :=
  change self fun state => { state with counts := update state.counts }

/-- Whether a panic has left the parser poisoned. -/
def isPoisoned (self : CompilerRef) (world : World) : Bool :=
  match world.compilers self.serial with
  | .frontEnd state => state.poisoned
  | .scripted _ => false

/-- An action that uses the parser, which a panic poisons. -/
def usingParser {α : Type} (self : CompilerRef) (act : Act α) : Act α := fun world =>
  match act world with
  | (.unwound, after) =>
      ((.unwound : Exit α), (change self (fun state => { state with poisoned := true }) after).2)
  | finished => finished

/-- A poisoned parser is taken into use again, with a warning. -/
def recover (self : CompilerRef) : Act Unit := do
  if ← Act.read (isPoisoned self) then
    count self fun counts => { counts with recoveries := counts.recoveries + 1 }
    Act.note .warn source "GLSL front-end lock poisoned, recovering"
    change self fun state => { state with poisoned := false }

/-- What the parser itself does with a source. -/
def parse (self : CompilerRef) (verdict : Verdict) : Act Unit :=
  usingParser self do
    recover self
    match verdict with
    | .panics => Act.unwind
    | .unparsed reason => do
        count self fun counts => { counts with parseErrors := counts.parseErrors + 1 }
        Act.note .warn source ("GLSL parse failed: " ++ reason)
    | .invalid _ => pure ()
    | .accepted _ => pure ()

/-- The message about a program that was made. -/
def compiledMessage (request : Glsl.Request) (base : Base) (parsed : ParsedModule) : String :=
  "Compiled " ++ request.stage.name ++ " program '" ++ parsed.entryPoint request.stage ++ "' for " ++
    base.kind.name ++ " (" ++ toString parsed.functions ++ " functions)"

def remarkFlags (request : Glsl.Request) : Act Unit :=
  if request.flags ≠ 0 then
    Act.note .debug source ("Ignoring compile flags " ++ Text.flagWord request.flags.toNat)
  else pure ()

/-- What comes of a source after the parser is done with it. -/
def conclude (self : CompilerRef) (base : Base) (request : Glsl.Request) :
    Verdict → Act (Option Program)
  | .panics => pure none
  | .unparsed _ => pure none
  | .invalid reason => do
      count self fun counts => { counts with validationErrors := counts.validationErrors + 1 }
      Act.note .warn source ("Module validation failed: " ++ reason)
      pure none
  | .accepted parsed => do
      count self fun counts => { counts with compiled := counts.compiled + 1 }
      change self fun state => { state with live := state.live + 1 }
      Act.note .debug source (compiledMessage request base parsed)
      Act.emit (.programMade self)
      pure (some
        { stage := request.stage
          entryPoint := parsed.entryPoint request.stage
          compiler := self })

def compile (self : CompilerRef) (base : Base) (request : Glsl.Request) (verdict : Verdict) :
    Act (Option Program) :=
  if supports request.stage then do
    remarkFlags request
    parse self verdict
    conclude self base request verdict
  else do
    count self fun counts => { counts with unsupportedStage := counts.unsupportedStage + 1 }
    Act.note .warn source (request.stage.name ++ " shaders are not supported")
    pure none

end FrontEnd

/-- Asks a compiler for the program of the object with this base. The verdict is the parser's and
the validator's, and only a front end looks at it. -/
def CompilerRef.createProgram (compiler : CompilerRef) (base : Base) (request : Glsl.Request)
    (verdict : Verdict) : Act (Option Program) := do
  Act.emit (.compiling compiler request base)
  match ← Act.read fun world => world.compilers compiler.serial with
  | .scripted state => state.compile compiler request
  | .frontEnd _ => FrontEnd.compile compiler base request verdict

end ShaderDriver
