import ShaderDriver.Text.Outline

namespace ShaderDriver

/-! The optional abilities of a device, one bit each. Bits without a name are carried along. -/

structure Extensions where
  bits : UInt32
deriving DecidableEq, Repr

namespace Extensions

def empty : Extensions := ⟨0⟩

/-- Shader code may be GLSL text. -/
def compileGlsl : Extensions := ⟨1⟩

def named : List (String × Extensions) :=
  [("COMPILE_GLSL", compileGlsl)]

/-- Every bit that has a name. -/
def all : Extensions :=
  ⟨named.foldl (fun bits flag => bits ||| flag.2.bits) 0⟩

def union (first second : Extensions) : Extensions := ⟨first.bits ||| second.bits⟩

def intersection (first second : Extensions) : Extensions := ⟨first.bits &&& second.bits⟩

def difference (first second : Extensions) : Extensions := ⟨first.bits &&& ~~~second.bits⟩

def symmetricDifference (first second : Extensions) : Extensions := ⟨first.bits ^^^ second.bits⟩

/-- The named bits of a set. -/
def truncated (set : Extensions) : Extensions := set.intersection all

/-- The set itself, if every bit of it has a name. -/
def known? (set : Extensions) : Option Extensions :=
  if set.truncated = set then some set else none

/-- The named bits that a set lacks. -/
def complement (set : Extensions) : Extensions := all.difference set

def isEmpty (set : Extensions) : Bool := set.bits == 0

def contains (set other : Extensions) : Bool := set.bits &&& other.bits == other.bits

def isAll (set : Extensions) : Bool := set.contains all

def intersects (set other : Extensions) : Bool := !(set.intersection other).isEmpty

/-- The names of the bits in a set. -/
def names (set : Extensions) : List String :=
  (named.filter fun flag => set.contains flag.2).map Prod.fst

/-- The names, then what is left of the bits as one number; an empty set is the number zero. -/
def words (set : Extensions) : List String :=
  let rest := set.difference all
  set.names ++ (if rest.isEmpty && !set.isEmpty then [] else [Text.flagWord rest.bits.toNat])

def outline (set : Extensions) : Text.Outline :=
  .group .tuple "DeviceExtensions" [.word (String.intercalate " | " set.words)]

def text (set : Extensions) : String :=
  set.outline.onOneLine

end Extensions

end ShaderDriver
