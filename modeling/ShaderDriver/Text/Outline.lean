import ShaderDriver.Text.Quoted

namespace ShaderDriver.Text

/-! A value as it is shown to a developer: words, and groups of named or unnamed parts. The same
outline has a form on one line and a form with one part to a line. -/

inductive Shape where
  | record
  | tuple
  | list
deriving DecidableEq, Repr

inductive Outline where
  | word (text : String)
  | part (name : String) (value : Outline)
  | group (shape : Shape) (name : String) (items : List Outline)

namespace Shape

def opening : Shape → String
  | .record => " \x7b"
  | .tuple => "("
  | .list => "["

def closing : Shape → String
  | .record => "\x7d"
  | .tuple => ")"
  | .list => "]"

/-- The blank inside the brackets of a group on one line. -/
def padding : Shape → String
  | .record => " "
  | .tuple => ""
  | .list => ""

end Shape

namespace Outline

def number (value : Nat) : Outline :=
  .word (toString value)

def truth (value : Bool) : Outline :=
  .word (if value then "true" else "false")

def text (value : String) : Outline :=
  .word (quoted value)

def bytes (values : List UInt8) : Outline :=
  .group .list "" (values.map fun byte => .number byte.toNat)

def optional : Option Outline → Outline
  | none => .word "None"
  | some value => .group .tuple "Some" [value]

mutual

def onOneLine : Outline → String
  | .word text => text
  | .part name value => name ++ ": " ++ value.onOneLine
  | .group shape name items =>
      name ++ shape.opening ++
        (if items.isEmpty then ""
          else shape.padding ++ String.intercalate ", " (eachOnOneLine items) ++ shape.padding) ++
        shape.closing

def eachOnOneLine : List Outline → List String
  | [] => []
  | item :: rest => item.onOneLine :: eachOnOneLine rest

end

/-- Four blanks for each group around a line. -/
def indentation (depth : Nat) : String :=
  String.ofList (List.replicate (4 * depth) ' ')

mutual

def onLinesAt (depth : Nat) : Outline → String
  | .word text => text
  | .part name value => name ++ ": " ++ value.onLinesAt depth
  | .group shape name items =>
      name ++ shape.opening ++
        (if items.isEmpty then ""
          else "\n" ++ String.join (eachOnLinesAt (depth + 1) items) ++ indentation depth) ++
        shape.closing

def eachOnLinesAt (depth : Nat) : List Outline → List String
  | [] => []
  | item :: rest =>
      (indentation depth ++ item.onLinesAt depth ++ ",\n") :: eachOnLinesAt depth rest

end

def onLines (outline : Outline) : String :=
  outline.onLinesAt 0

end Outline

end ShaderDriver.Text
