import ShaderDriver.Log.Entry

namespace ShaderDriver.Log

/-! What the console shows of a log: the entries from a threshold upwards, one to a line, with the
label and the source in colour where the terminal has colours. -/

inductive Colour where
  | grey
  | cyan
  | green
  | yellow
  | boldRed
  | blue
deriving DecidableEq, Repr

namespace Colour

def parameter : Colour → List Char
  | .grey => ['9', '0']
  | .cyan => ['3', '6']
  | .green => ['3', '2']
  | .yellow => ['3', '3']
  | .boldRed => ['1', ';', '3', '1']
  | .blue => ['9', '4']

def opening (colour : Colour) : List Char :=
  ['\x1b', '['] ++ colour.parameter ++ ['m']

end Colour

def colourReset : List Char :=
  ['\x1b', '[', '0', 'm']

/-- The text with the colour switched on again after each reset inside it. -/
def reopened (opening : List Char) : List Char → List Char
  | '\x1b' :: '[' :: '0' :: 'm' :: rest => colourReset ++ opening ++ reopened opening rest
  | c :: rest => c :: reopened opening rest
  | [] => []

/-- A stretch of a line, in one colour or in none. -/
structure Span where
  colour : Option Colour
  text : List Char
deriving DecidableEq, Repr

namespace Span

def plain (text : String) : Span :=
  { colour := none, text := text.toList }

def tinted (colour : Colour) (text : String) : Span :=
  { colour := some colour, text := text.toList }

def render (colours : Bool) (span : Span) : List Char :=
  match colours, span.colour with
  | true, some colour => colour.opening ++ reopened colour.opening span.text ++ colourReset
  | _, _ => span.text

end Span

namespace Severity

def colour : Severity → Colour
  | .trace => .grey
  | .debug => .cyan
  | .info => .green
  | .warn => .yellow
  | .error => .boldRed

end Severity

structure Console where
  threshold : Severity
  colours : Bool
deriving DecidableEq, Repr

namespace Console

/-- The line of an entry in its stretches, up to the end of the line. -/
def spans (stamp : String) (severity : Severity) (source message : String)
    (location : Option String) : List Span :=
  [.plain "[", .plain stamp, .plain "] [", .tinted severity.colour severity.label, .plain "] [",
    .tinted .blue source, .plain "] ", .plain message] ++
    (match location with
      | some place => [.plain " (", .plain place, .plain ")"]
      | none => []) ++
    [.plain "\n"]

def render (colours : Bool) (spans : List Span) : String :=
  String.ofList (spans.flatMap (Span.render colours))

def place? (file : Option String) (line : Option Nat) : Option String :=
  match file, line with
  | some file, some line => some (file ++ ":" ++ toString line)
  | _, _ => none

/-- What is written for an entry: nothing below the threshold, and from there on a line, which an
entry does not have when its time cannot be shown. -/
def write? (console : Console) (entry : Entry)
    (stamp? : Instant → Option String := Instant.stamp?) : Option String :=
  if entry.severity.atLeast console.threshold then
    (stamp? entry.time).map fun stamp =>
      render console.colours
        (spans stamp entry.severity entry.source entry.message (place? entry.file entry.line))
  else some ""

/-- What is written for a sequence of entries, up to the first that has no line. -/
def writeAll (console : Console) (stamp? : Instant → Option String) : List Entry → String
  | [] => ""
  | entry :: rest =>
      match console.write? entry stamp? with
      | some text => text ++ writeAll console stamp? rest
      | none => ""

end Console

end ShaderDriver.Log
