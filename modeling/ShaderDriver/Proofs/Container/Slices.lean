import Mathlib.Data.List.TakeWhile
import ShaderDriver.Proofs.Container.Modules
import ShaderDriver.Proofs.Container.Requests

namespace ShaderDriver.Container

/-! The parts of code that are reached for when it is read. A split, a place or a range that lies past
the end leads to nothing here, and reading comes to none of them. -/

/-- The bytes before a place and those from there on. -/
def splitAt? (bytes : List UInt8) (middle : Nat) : Option (List UInt8 × List UInt8) :=
  if middle ≤ bytes.length then some (bytes.take middle, bytes.drop middle) else none

def upTo? (bytes : List UInt8) (stop : Nat) : Option (List UInt8) :=
  if stop ≤ bytes.length then some (bytes.take stop) else none

/-- The word whose four bytes are taken one by one. -/
def wordAt? (bytes : List UInt8) : Option UInt32 := do
  let first ← bytes[0]?
  let second ← bytes[1]?
  let third ← bytes[2]?
  let fourth ← bytes[3]?
  pure (UInt32.ofNat
    (first.toNat + 256 * second.toNat + 65536 * third.toNat + 16777216 * fourth.toNat))

theorem splitAt?_of_le {bytes : List UInt8} {middle : Nat} (within : middle ≤ bytes.length) :
    splitAt? bytes middle = some (bytes.take middle, bytes.drop middle) :=
  if_pos within

theorem wordAt?_take {bytes rest : List UInt8} {word : UInt32}
    (found : Word.read? bytes = some (word, rest)) : wordAt? (bytes.take 4) = some word := by
  match bytes, found with
  | a :: b :: c :: d :: tail, found =>
      cases found
      rfl

namespace Glsl

theorem untilZero_of_position {text : List UInt8} {stop : Nat}
    (found : text.findIdx? (· == 0) = some stop) :
    stop ≤ text.length ∧ untilZero text = text.take stop := by
  obtain ⟨bound, place⟩ := List.findIdx?_eq_some_iff_findIdx_eq.mp found
  refine ⟨Nat.le_of_lt bound, ?_⟩
  have same : (fun byte : UInt8 => !(byte != 0)) = fun byte => byte == 0 := by
    funext byte
    rw [bne, Bool.not_not]
  rw [untilZero, List.takeWhile_eq_take_findIdx_not, same, place]

theorem untilZero_of_none {text : List UInt8} (missing : text.findIdx? (· == 0) = none) :
    untilZero text = text := by
  apply List.takeWhile_eq_self_iff.mpr
  intro byte member
  simpa using List.findIdx?_eq_none_iff.mp missing byte member

/-- The text in front of the first zero byte, as a range up to its place. -/
def visible? (text : List UInt8) : Option (List UInt8) :=
  match text.findIdx? (· == 0) with
  | some stop => upTo? text stop
  | none => some text

theorem visible?_eq (text : List UInt8) : visible? text = some (untilZero text) := by
  cases found : text.findIdx? (· == 0) with
  | none => simp only [visible?, found, untilZero_of_none found]
  | some stop =>
      obtain ⟨within, same⟩ := untilZero_of_position found
      simp only [visible?, found, upTo?, if_pos within, same]

namespace Request

/-- Reads a request part by part, after its length was checked. -/
def parse? (code : List UInt8) : Option (Except Error Request) :=
  if code.length < headerSize then some (.error .badShaderCode)
  else do
    let (stageBytes, rest) ← splitAt? code 4
    let (flagBytes, text) ← splitAt? rest 4
    let number ← wordAt? stageBytes
    let flags ← wordAt? flagBytes
    match Stage.ofNumber? number with
    | none => some (.error .badShaderCode)
    | some stage => do
        let visible ← visible? text
        match decodeText? visible with
        | none => some (.error .badShaderCode)
        | some source => some (.ok { stage, flags, source, codeSize := code.length })

theorem parse?_eq_decode (code : List UInt8) : parse? code = some (decode code) := by
  by_cases short : code.length < headerSize
  · rw [parse?, if_pos short, decode_refuses fun acceptable => ?_]
    have header := acceptable.header
    omega
  · have room : 8 ≤ code.length := Nat.le_of_not_lt short
    have within : 4 ≤ (code.drop 4).length := by
      rw [List.length_drop]
      omega
    obtain ⟨number, first⟩ := Word.exists_read?_of_le (show 4 ≤ code.length by omega)
    obtain ⟨flags, second⟩ := Word.exists_read?_of_le within
    rw [parse?, if_neg short, splitAt?_of_le (by omega)]
    simp only [Option.bind_eq_bind, Option.bind_some, splitAt?_of_le within, wordAt?_take first,
      wordAt?_take second, visible?_eq, decode, read?, first, second]
    cases Stage.ofNumber? number with
    | none => rfl
    | some stage => cases decodeText? (untilZero ((code.drop 4).drop 4)) <;> rfl

end Request

end Glsl

namespace Bil

/-- The header that is made up of just these bytes. -/
def Header.ofBytes? (bytes : List UInt8) : Option Header :=
  if bytes.length = headerSize then (Header.read? bytes).map Prod.fst else none

theorem Header.ofBytes?_take {code payload : List UInt8} {header : Header}
    (found : Header.read? code = some (header, payload)) :
    Header.ofBytes? (code.take headerSize) = some header ∧ code.drop headerSize = payload := by
  rw [Header.read?_eq_some] at found
  have start : code.take headerSize = header.toBytes := by
    rw [← found, ← Header.toBytes_length header, List.take_left]
  have read := Header.read?_toBytes header []
  rw [List.append_nil] at read
  refine ⟨?_, ?_⟩
  · rw [start, Header.ofBytes?, if_pos (Header.toBytes_length header), read]
    rfl
  · rw [← found, ← Header.toBytes_length header, List.drop_left]

namespace Module

/-- Reads a module part by part, after its length was checked. -/
def parse? (code : List UInt8) : Option (Except Error Module) :=
  if code.length < headerSize then some (.error .invalidMemorySize)
  else do
    let (head, payload) ← splitAt? code headerSize
    let header ← Header.ofBytes? head
    if header.magic = magicNumber then some (.ok { header, payload })
    else some (.error .badShaderCode)

theorem parse?_eq_decode (code : List UInt8) : parse? code = some (decode code) := by
  by_cases short : code.length < headerSize
  · rw [parse?, if_pos short, decode, Header.read?_eq_none.mpr short]
  · cases found : Header.read? code with
    | none => exact absurd (Header.read?_eq_none.mp found) short
    | some answer =>
        obtain ⟨header, payload⟩ := answer
        obtain ⟨read, rest⟩ := Header.ofBytes?_take found
        rw [parse?, if_neg short, splitAt?_of_le (Nat.le_of_not_lt short)]
        simp only [Option.bind_eq_bind, Option.bind_some, read, rest, decode, found]
        split <;> rfl

end Module

end Bil

end ShaderDriver.Container
