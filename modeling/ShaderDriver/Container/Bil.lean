import ShaderDriver.Error
import ShaderDriver.Word
import ShaderDriver.Text.Outline

namespace ShaderDriver.Container

/-! Modules in the binary intermediate language: a header of three words and a payload. -/

namespace Bil

def magicNumber : UInt32 := 0x07230203

/-- The version of the language that the driver was written for. -/
def supportedVersion : UInt32 := 99

def headerSize : Nat := 12

structure Header where
  magic : UInt32
  version : UInt32
  /-- Names the tool that made the module. -/
  generator : UInt32
deriving DecidableEq, Repr

structure Module where
  header : Header
  payload : List UInt8
deriving DecidableEq, Repr

namespace Header

def current (generator : UInt32) : Header :=
  { magic := magicNumber, version := supportedVersion, generator }

def toBytes (header : Header) : List UInt8 :=
  Word.toBytes header.magic ++ Word.toBytes header.version ++ Word.toBytes header.generator

/-- The header at the start of the code, and the bytes after it. -/
def read? (code : List UInt8) : Option (Header × List UInt8) :=
  match Word.read? code with
  | none => none
  | some (magic, afterMagic) =>
      match Word.read? afterMagic with
      | none => none
      | some (version, afterVersion) =>
          match Word.read? afterVersion with
          | none => none
          | some (generator, payload) => some ({ magic, version, generator }, payload)

def supported (header : Header) : Bool :=
  header.version == supportedVersion

def outline (header : Header) : Text.Outline :=
  .group .record "BilHeader" [.part "magic" (.number header.magic.toNat),
    .part "version" (.number header.version.toNat),
    .part "gen_magic" (.number header.generator.toNat)]

theorem read?_toBytes (header : Header) (payload : List UInt8) :
    read? (header.toBytes ++ payload) = some (header, payload) := by
  simp only [read?, toBytes, List.append_assoc, Word.read?_toBytes]

end Header

namespace Module

def encode (container : Module) : List UInt8 :=
  container.header.toBytes ++ container.payload

/-- Code that is shorter than a header is refused before its magic number is looked at. A version
other than the supported one is no reason to refuse. -/
def decode (code : List UInt8) : Except Error Module :=
  match Header.read? code with
  | none => .error .invalidMemorySize
  | some (header, payload) =>
      if header.magic = magicNumber then .ok { header, payload } else .error .badShaderCode

end Module

end Bil

end ShaderDriver.Container
