import ShaderDriver.Error
import ShaderDriver.Stage
import ShaderDriver.Word
import ShaderDriver.Text.Outline

namespace ShaderDriver.Container

/-! Requests to compile GLSL: a stage and a word of flags, then the source text, which ends at the
first zero byte or with the code. -/

namespace Glsl

def headerSize : Nat := 8

structure Request where
  stage : Stage
  flags : UInt32
  source : String
  /-- The length of the code that the request was read from. -/
  codeSize : Nat
deriving DecidableEq, Repr

def decodeText? (bytes : List UInt8) : Option String :=
  String.fromUTF8? bytes.toByteArray

def textBytes (text : String) : List UInt8 :=
  text.toUTF8.data.toList

theorem decodeText?_textBytes (text : String) : decodeText? (textBytes text) = some text := by
  have bytes : (textBytes text).toByteArray = text.toUTF8 := by
    apply ByteArray.ext
    rw [List.data_toByteArray, textBytes, Array.toArray_toList]
  unfold decodeText?
  rw [bytes]
  unfold String.fromUTF8?
  rw [String.toUTF8_eq_toByteArray, dif_pos text.isValidUTF8]
  rfl

theorem textBytes_of_decodeText? {bytes : List UInt8} {text : String}
    (found : decodeText? bytes = some text) : textBytes text = bytes := by
  unfold decodeText? String.fromUTF8? at found
  split at found
  · cases found
    change bytes.toByteArray.data.toList = bytes
    rw [List.data_toByteArray]
  · contradiction

/-- The bytes in front of the first zero. -/
def untilZero (bytes : List UInt8) : List UInt8 :=
  bytes.takeWhile (· != 0)

namespace Request

def encode (stage : Stage) (flags : UInt32) (source : String) : List UInt8 :=
  Word.toBytes stage.number ++ Word.toBytes flags ++ textBytes source ++ [0]

def read? (code : List UInt8) : Option Request :=
  match Word.read? code with
  | none => none
  | some (number, afterStage) =>
      match Word.read? afterStage with
      | none => none
      | some (flags, text) =>
          match Stage.ofNumber? number, decodeText? (untilZero text) with
          | some stage, some source => some { stage, flags, source, codeSize := code.length }
          | _, _ => none

def decode (code : List UInt8) : Except Error Request :=
  match read? code with
  | none => .error .badShaderCode
  | some request => .ok request

def outline (request : Request) : Text.Outline :=
  .group .record "CompileGlsl" [.part "stage" (.word request.stage.name),
    .part "flags" (.number request.flags.toNat), .part "source" (.text request.source),
    .part "code_size" (.number request.codeSize)]

end Request

end Glsl

end ShaderDriver.Container
