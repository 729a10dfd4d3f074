import ShaderDriver.Object.Creation
import ShaderDriver.Proofs.Act.Frame

namespace ShaderDriver.Container.Bil

/-! Which code is read as a binary module, what becomes of a module that is written and read again,
and what the logger is shown of it. -/

namespace Header

variable {header : Header} {code payload : List UInt8}

@[simp] theorem toBytes_length (header : Header) : header.toBytes.length = headerSize := rfl

theorem toBytes_of_read? (found : read? code = some (header, payload)) :
    header.toBytes ++ payload = code := by
  cases first : Word.read? code with
  | none => simp [read?, first] at found
  | some magic =>
      cases second : Word.read? magic.2 with
      | none => simp [read?, first, second] at found
      | some version =>
          cases third : Word.read? version.2 with
          | none => simp [read?, first, second, third] at found
          | some generator =>
              simp only [read?, first, second, third, Option.some.injEq, Prod.mk.injEq] at found
              obtain ⟨rfl, rfl⟩ := found
              simp only [toBytes, List.append_assoc]
              rw [Word.toBytes_of_read? third, Word.toBytes_of_read? second,
                Word.toBytes_of_read? first]

theorem read?_eq_some : read? code = some (header, payload) ↔ header.toBytes ++ payload = code := by
  constructor
  · exact toBytes_of_read?
  · rintro rfl
    exact read?_toBytes header payload

theorem read?_eq_none : read? code = none ↔ code.length < headerSize := by
  constructor
  · intro missing
    apply Nat.lt_of_not_le
    intro enough
    have room : 12 ≤ code.length := enough
    have secondRoom : 4 ≤ (code.drop 4).length := by simp; omega
    have thirdRoom : 4 ≤ ((code.drop 4).drop 4).length := by simp; omega
    obtain ⟨magic, first⟩ := Word.exists_read?_of_le (show 4 ≤ code.length by omega)
    obtain ⟨version, second⟩ := Word.exists_read?_of_le secondRoom
    obtain ⟨generator, third⟩ := Word.exists_read?_of_le thirdRoom
    simp only [read?, first, second, third, reduceCtorEq] at missing
  · intro short
    cases found : read? code with
    | none => rfl
    | some answer =>
        obtain ⟨header, payload⟩ := answer
        have whole := congrArg List.length (toBytes_of_read? found)
        simp only [List.length_append, toBytes_length] at whole
        omega

/-- The magic number is the first word. -/
theorem magic_of_toBytes (header : Header) (payload : List UInt8) :
    header.magic.toNat = Word.littleEndian ((header.toBytes ++ payload).take 4) := by
  have first := Word.read?_toBytes header.magic
    (Word.toBytes header.version ++ Word.toBytes header.generator ++ payload)
  rw [← List.append_assoc, ← List.append_assoc] at first
  exact (Word.read?_eq_some.mp first).2.1

end Header

namespace Module

variable {container : Module} {code : List UInt8}

/-- The code has room for a header, and the first word of it is the magic number. -/
structure Marked (code : List UInt8) : Prop where
  header : headerSize ≤ code.length
  magic : Word.littleEndian (code.take 4) = magicNumber.toNat

theorem decode_eq_ok :
    decode code = .ok container ↔ container.encode = code ∧ container.header.magic = magicNumber := by
  cases found : Header.read? code with
  | none =>
      have absent : container.encode ≠ code := by
        intro written
        rw [encode, ← Header.read?_eq_some, found] at written
        contradiction
      simp [decode, found, absent]
  | some answer =>
      obtain ⟨header, payload⟩ := answer
      have written := Header.toBytes_of_read? found
      by_cases marked : header.magic = magicNumber
      · simp only [decode, found, marked, if_true, Except.ok.injEq]
        constructor
        · rintro rfl
          exact ⟨written, marked⟩
        · rintro ⟨same, _⟩
          rw [encode, ← Header.read?_eq_some, found, Option.some.injEq, Prod.mk.injEq] at same
          rw [same.1, same.2]
      · simp only [decode, found, marked, if_false, reduceCtorEq, false_iff, not_and]
        intro same
        rw [encode, ← Header.read?_eq_some, found, Option.some.injEq, Prod.mk.injEq] at same
        rwa [← same.1]

theorem decode_accepts : (∃ container, decode code = .ok container) ↔ Marked code := by
  constructor
  · rintro ⟨container, read⟩
    obtain ⟨rfl, magic⟩ := decode_eq_ok.mp read
    constructor
    · simp [encode]
    · rw [encode, ← Header.magic_of_toBytes, magic]
  · intro marked
    cases found : Header.read? code with
    | none =>
        have short := Header.read?_eq_none.mp found
        have room := marked.header
        omega
    | some answer =>
        obtain ⟨header, payload⟩ := answer
        have written := Header.toBytes_of_read? found
        refine ⟨{ header, payload }, decode_eq_ok.mpr ⟨written, ?_⟩⟩
        apply UInt32.toNat.inj
        rw [Header.magic_of_toBytes header payload, written, marked.magic]

/-- The length is looked at first. -/
theorem decode_short (short : code.length < headerSize) :
    decode code = .error .invalidMemorySize := by
  simp only [decode, Header.read?_eq_none.mpr short]

theorem decode_unmarked (room : headerSize ≤ code.length) (unmarked : ¬ Marked code) :
    decode code = .error .badShaderCode := by
  cases found : Header.read? code with
  | none =>
      have short := Header.read?_eq_none.mp found
      omega
  | some answer =>
      have other : answer.1.magic ≠ magicNumber := by
        intro magic
        apply unmarked
        apply decode_accepts.mp
        exact ⟨{ header := answer.1, payload := answer.2 }, by simp [decode, found, magic]⟩
      simp only [decode, found, other, if_false]

end Module

end ShaderDriver.Container.Bil

namespace ShaderDriver.Source

open Container Container.Bil Act

variable {code : List UInt8} {container : Module}

/-- The entry about a module whose version is not the supported one. -/
def versionRecord (header : Header) : Log.Record :=
  { severity := .warn
    source := "xgl::Bil"
    message := "BIL version " ++ toString header.version.toNat ++
      " differs from supported version " ++ toString supportedVersion.toNat
    site := none }

theorem readBil_of_error {error : Error} (refused : Module.decode code = .error error)
    (world : World) : readBil code world = (.failed error, world) := by
  simp only [readBil, refused, bind_apply, Act.ofExcept, Act.fail]

theorem readBil_of_ok (accepted : Module.decode code = .ok container) (world : World) :
    readBil code world =
      if container.header.version = supportedVersion then (.done container, world)
      else (Act.log (versionRecord container.header) >>= fun _ => Pure.pure container) world := by
  simp only [readBil, accepted, bind_apply, Act.ofExcept, Act.pure, Header.supported, beq_iff_eq]
  split <;> rfl

/-- Only a logger that panics at the entry keeps the module from being handed over. -/
theorem readBil_of_other_version (accepted : Module.decode code = .ok container)
    (other : container.header.version ≠ supportedVersion) (world : World) :
    readBil code world =
      (if (world.logger.receive .warn).1 then .unwound else .done container,
        { world with
          logger := (world.logger.receive .warn).2
          trace := world.trace ++
            [.logged (versionRecord container.header) (world.logger.sink .warn)] }) := by
  rw [readBil_of_ok accepted, if_neg other, bind_apply]
  unfold Act.log
  rw [show (versionRecord container.header).severity = .warn from rfl]
  cases world.logger.receive .warn with
  | mk panics next => cases panics <;> rfl

end ShaderDriver.Source

namespace ShaderDriver.Container.Bil.Module

/-- A module that was written is read as it was if its magic number is right, and code is read if it
is long enough and marked; other code is too short or bad, in this order. What was read is written as
the code it was read from. The logger is shown one warning of a module of another version and nothing
else, and only its panic can keep a module from being handed over. -/
theorem modules_are_read_as_written :
    (∀ header payload found, decode (encode { header, payload }) = .ok found ↔
      header.magic = magicNumber ∧ found = { header, payload }) ∧
    (∀ code, (∃ found, decode code = .ok found) ↔
      12 ≤ code.length ∧ Word.littleEndian (code.take 4) = magicNumber.toNat) ∧
    (∀ code, code.length < 12 → decode code = .error .invalidMemorySize) ∧
    (∀ code, 12 ≤ code.length → Word.littleEndian (code.take 4) ≠ magicNumber.toNat →
      decode code = .error .badShaderCode) ∧
    (∀ code found, decode code = .ok found →
      encode found = code ∧ found.payload.length = code.length - 12) ∧
    ∀ code world, match decode code with
      | .error error => Source.readBil code world = (.failed error, world)
      | .ok found =>
          if found.header.version = supportedVersion then
            Source.readBil code world = (.done found, world)
          else Source.readBil code world =
            (if (world.logger.receive .warn).1 then .unwound else .done found,
              { world with
                logger := (world.logger.receive .warn).2
                trace := world.trace ++ [.logged (Source.versionRecord found.header)
                  (world.logger.sink .warn)] }) := by
  refine ⟨fun header payload found => ?_, fun code => ?_, fun code => decode_short,
    fun code room other => ?_, fun code found read => ?_, fun code world => ?_⟩
  · rw [decode_eq_ok]
    constructor
    · rintro ⟨same, magic⟩
      have read := Header.read?_toBytes found.header found.payload
      change found.header.toBytes ++ found.payload = header.toBytes ++ payload at same
      rw [same, Header.read?_toBytes, Option.some.injEq, Prod.mk.injEq] at read
      obtain ⟨rfl, rfl⟩ := read
      exact ⟨magic, rfl⟩
    · rintro ⟨magic, rfl⟩
      exact ⟨rfl, magic⟩
  · rw [decode_accepts]
    exact ⟨fun marked => ⟨marked.header, marked.magic⟩, fun ⟨room, magic⟩ => ⟨room, magic⟩⟩
  · apply decode_unmarked room
    exact fun marked => other marked.magic
  · obtain ⟨written, _⟩ := decode_eq_ok.mp read
    refine ⟨written, ?_⟩
    rw [← written, encode, List.length_append, Header.toBytes_length]
    exact (Nat.add_sub_cancel_left _ _).symm
  · cases read : decode code with
    | error error => exact Source.readBil_of_error read world
    | ok found =>
        simp only
        split
        · next current => rw [Source.readBil_of_ok read, if_pos current]
        · next other => exact Source.readBil_of_other_version read other world

/-- A module of an earlier version, a code of three bytes, and a header of zeros. -/
theorem earlier_module_is_read_with_warning :
    let earlier : Module :=
      { header := { magic := magicNumber, version := 98, generator := 7 }, payload := [1, 2] }
    decode (encode earlier) = .ok earlier ∧
      decode [3, 2, 0x23] = .error .invalidMemorySize ∧
      decode (List.replicate 12 0) = .error .badShaderCode ∧
      encode earlier = [3, 2, 0x23, 7, 98, 0, 0, 0, 7, 0, 0, 0, 1, 2] ∧
      (Source.readBil [3, 2, 0x23, 7, 98, 0, 0, 0, 7, 0, 0, 0, 1, 2] .initial).2.trace =
        [.logged (Source.versionRecord earlier.header) .captured] := by
  intro earlier
  obtain ⟨again, _, short, unmarked, written, shown⟩ := modules_are_read_as_written
  have read : decode [3, 2, 0x23, 7, 98, 0, 0, 0, 7, 0, 0, 0, 1, 2] = .ok earlier :=
    decode_eq_ok.mpr ⟨by decide, by decide⟩
  refine ⟨?_, ?_, ?_, ?_, ?_⟩
  · exact (again earlier.header [1, 2] earlier).mpr ⟨rfl, rfl⟩
  · exact short _ (by decide)
  · exact unmarked _ (by decide) (by decide)
  · exact (written _ earlier read).1
  · have warned := shown [3, 2, 0x23, 7, 98, 0, 0, 0, 7, 0, 0, 0, 1, 2] .initial
    rw [read] at warned
    simp only [earlier, if_neg (show ¬ (98 : UInt32) = supportedVersion by decide)] at warned
    rw [warned]
    rfl

end ShaderDriver.Container.Bil.Module
