import ShaderDriver.Container.Glsl

namespace ShaderDriver.Container.Glsl

/-! Which code is read as a compile request, and what becomes of a request that is written and read
again. -/

theorem decodeText?_eq_some {bytes : List UInt8} {text : String} :
    decodeText? bytes = some text ↔ textBytes text = bytes := by
  constructor
  · exact textBytes_of_decodeText?
  · rintro rfl
    exact decodeText?_textBytes text

theorem textBytes_ofList (chars : List Char) :
    textBytes (String.ofList chars) = chars.flatMap String.utf8EncodeChar := by
  change (chars.flatMap String.utf8EncodeChar).toByteArray.data.toList = _
  rw [List.data_toByteArray]

theorem exists_textBytes {bytes : List UInt8} :
    (∃ text, textBytes text = bytes) ↔ bytes.toByteArray.IsValidUTF8 := by
  constructor
  · rintro ⟨text, rfl⟩
    have whole : (textBytes text).toByteArray = text.toByteArray := by
      apply ByteArray.ext
      rw [List.data_toByteArray]
      exact Array.toArray_toList
    rw [whole]
    exact text.isValidUTF8
  · intro valid
    refine ⟨.fromUTF8 _ valid, ?_⟩
    change bytes.toByteArray.data.toList = bytes
    rw [List.data_toByteArray]

/-- A zero byte comes of the zero character only. -/
theorem zero_mem_utf8EncodeChar {c : Char} : 0 ∈ String.utf8EncodeChar c ↔ c = '\x00' := by
  constructor
  · intro zero
    have number : c.val.toNat = 0 := by
      -- The bytes of a longer encoding are all at least 128.
      unfold String.utf8EncodeChar at zero
      simp only at zero
      repeat' split at zero
      all_goals
        simp only [List.mem_cons, List.not_mem_nil, or_false, ← UInt8.toNat_inj,
          UInt8.toNat_ofNat', UInt8.toNat_zero] at zero
        omega
    exact Char.ext (UInt32.toNat_inj.mp number)
  · rintro rfl
    decide

theorem untilZero_flatMap (chars : List Char) (rest : List UInt8) :
    untilZero (chars.flatMap String.utf8EncodeChar ++ 0 :: rest) =
      (chars.takeWhile (· != '\x00')).flatMap String.utf8EncodeChar := by
  induction chars with
  | nil => rfl
  | cons c chars ih =>
      by_cases nul : c = '\x00'
      · subst nul
        rfl
      · have visible : ∀ byte ∈ String.utf8EncodeChar c, (byte != 0) = true := by
          intro byte member
          rw [bne_iff_ne]
          rintro rfl
          exact nul (zero_mem_utf8EncodeChar.mp member)
        unfold untilZero at ih ⊢
        rw [List.takeWhile_cons_of_pos (by simpa using nul), List.flatMap_cons, List.flatMap_cons,
          List.append_assoc, List.takeWhile_append_of_pos visible, ih]

def beforeNul (text : String) : String :=
  .ofList (text.toList.takeWhile (· != '\x00'))

/-- The longest start of a text without a zero character. -/
structure BeforeNul (text start : String) : Prop where
  isStart : start.toList <+: text.toList
  noNul : '\x00' ∉ start.toList
  longest : ∀ other, other <+: text.toList → '\x00' ∉ other → other <+: start.toList

theorem beforeNul_longest (text : String) : BeforeNul text (beforeNul text) := by
  refine ⟨?_, ?_, fun other part free => ?_⟩
  · rw [beforeNul, String.toList_ofList]
    exact List.takeWhile_prefix _
  · rw [beforeNul, String.toList_ofList]
    intro member
    have kept := List.all_eq_true.mp List.all_takeWhile _ member
    contradiction
  · obtain ⟨rest, whole⟩ := part
    have visible : ∀ c ∈ other, (c != '\x00') = true := by
      intro c member
      rw [bne_iff_ne]
      rintro rfl
      exact free member
    rw [beforeNul, String.toList_ofList, ← whole, List.takeWhile_append_of_pos visible]
    exact List.prefix_append _ _

theorem untilZero_textBytes (text : String) :
    untilZero (textBytes text ++ [0]) = textBytes (beforeNul text) := by
  conv => lhs; rw [← text.ofList_toList]
  rw [beforeNul, textBytes_ofList, textBytes_ofList, untilZero_flatMap]

theorem textBytes_length (text : String) : (textBytes text).length = text.utf8ByteSize := rfl

theorem untilZero_of_only {text : List UInt8} (only : 0 ∉ text) : untilZero (text ++ [0]) = text := by
  have visible : ∀ byte ∈ text, (byte != 0) = true := by
    intro byte member
    rw [bne_iff_ne]
    rintro rfl
    exact only member
  rw [untilZero, List.takeWhile_append_of_pos visible]
  exact List.append_nil text

namespace Request

/-- The code has room for the two words, the first of them is a stage, and the text up to the first
zero byte is one. What follows the zero does not matter. -/
structure Acceptable (code : List UInt8) : Prop where
  header : headerSize ≤ code.length
  stage : ∃ stage : Stage, stage.number.toNat = Word.littleEndian (code.take 4)
  text : (untilZero (code.drop headerSize)).toByteArray.IsValidUTF8

/-- The request is what the code says. -/
structure Says (code : List UInt8) (request : Request) : Prop where
  stage : request.stage.number.toNat = Word.littleEndian (code.take 4)
  flags : request.flags.toNat = Word.littleEndian ((code.drop 4).take 4)
  source : textBytes request.source = untilZero (code.drop headerSize)
  codeSize : request.codeSize = code.length

theorem read?_eq_some {code : List UInt8} {request : Request} :
    read? code = some request ↔ headerSize ≤ code.length ∧ Says code request := by
  constructor
  · intro found
    unfold read? at found
    split at found
    · contradiction
    · next number afterStage first =>
        split at found
        · contradiction
        · next flags text second =>
            split at found
            · next stage source named decoded =>
                cases found
                obtain ⟨_, value, rfl⟩ := Word.read?_eq_some.mp first
                obtain ⟨enough, word, rfl⟩ := Word.read?_eq_some.mp second
                rw [List.length_drop] at enough
                rw [List.drop_drop] at decoded
                rw [← Stage.number_of_ofNumber? named] at value
                refine ⟨?_, value, word, decodeText?_eq_some.mp decoded, rfl⟩
                change 8 ≤ code.length
                omega
            · contradiction
  · rintro ⟨header, reading⟩
    have room : 8 ≤ code.length := header
    have first : Word.read? code = some (request.stage.number, code.drop 4) :=
      Word.read?_eq_some.mpr ⟨by omega, reading.stage, rfl⟩
    have second : Word.read? (code.drop 4) = some (request.flags, code.drop headerSize) := by
      refine Word.read?_eq_some.mpr ⟨?_, reading.flags, by rw [List.drop_drop]; rfl⟩
      rw [List.length_drop]
      omega
    have text := decodeText?_eq_some.mpr reading.source
    simp only [read?, first, second, Stage.ofNumber?_number, text, ← reading.codeSize]

theorem decode_eq_ok {code : List UInt8} {request : Request} :
    decode code = .ok request ↔ headerSize ≤ code.length ∧ Says code request := by
  rw [← read?_eq_some, decode]
  cases read? code <;> simp

theorem decode_accepts {code : List UInt8} :
    (∃ request, decode code = .ok request) ↔ Acceptable code := by
  constructor
  · rintro ⟨request, read⟩
    obtain ⟨header, reading⟩ := decode_eq_ok.mp read
    exact ⟨header, ⟨request.stage, reading.stage⟩, exists_textBytes.mp ⟨_, reading.source⟩⟩
  · rintro ⟨header, ⟨stage, number⟩, text⟩
    obtain ⟨source, written⟩ := exists_textBytes.mpr text
    have enough : 4 ≤ (code.drop 4).length := by
      have room : 8 ≤ code.length := header
      rw [List.length_drop]
      omega
    obtain ⟨flags, found⟩ := Word.exists_read?_of_le enough
    have word := (Word.read?_eq_some.mp found).2.1
    exact ⟨{ stage, flags, source, codeSize := code.length },
      decode_eq_ok.mpr ⟨header, number, word, written, rfl⟩⟩

theorem decode_refuses {code : List UInt8} (unacceptable : ¬ Acceptable code) :
    decode code = .error .badShaderCode := by
  cases found : read? code with
  | none => rw [decode, found]
  | some request =>
      have read : decode code = .ok request := by rw [decode, found]
      exact absurd (decode_accepts.mp ⟨request, read⟩) unacceptable

/-- What is written is read again, but for what follows a zero character in the source. -/
theorem decode_encode (stage : Stage) (flags : UInt32) (source : String) :
    decode (encode stage flags source) = .ok
      { stage, flags
        source := beforeNul source
        codeSize := headerSize + source.utf8ByteSize + 1 } := by
  have layout : encode stage flags source =
      Word.toBytes stage.number ++ (Word.toBytes flags ++ (textBytes source ++ [0])) := by
    simp only [encode, List.append_assoc]
  have first := Word.read?_toBytes stage.number (Word.toBytes flags ++ (textBytes source ++ [0]))
  have second := Word.read?_toBytes flags (textBytes source ++ [0])
  rw [← layout] at first
  obtain ⟨_, number, afterStage⟩ := Word.read?_eq_some.mp first
  rw [afterStage] at second
  obtain ⟨_, word, text⟩ := Word.read?_eq_some.mp second
  rw [List.drop_drop] at text
  have size : (encode stage flags source).length = headerSize + source.utf8ByteSize + 1 := by
    rw [layout]
    simp only [Word.toBytes, List.length_append, List.length_cons, List.length_nil, textBytes_length]
    change 4 + (4 + (source.utf8ByteSize + 1)) = 8 + source.utf8ByteSize + 1
    omega
  refine decode_eq_ok.mpr ⟨by rw [size]; omega, number, word, ?_, size.symm⟩
  change textBytes (beforeNul source) = untilZero (List.drop (4 + 4) (encode stage flags source))
  rw [← text, untilZero_textBytes]

/-- What is read is written again, if nothing follows the zero byte that ends the text. -/
theorem encode_decode {code text : List UInt8} {request : Request}
    (read : decode code = .ok request) (ends : code.drop headerSize = text ++ [0])
    (only : 0 ∉ text) : encode request.stage request.flags request.source = code := by
  obtain ⟨header, reading⟩ := decode_eq_ok.mp read
  have room : 8 ≤ code.length := header
  have source := reading.source
  rw [ends, untilZero_of_only only] at source
  have first : Word.read? code = some (request.stage.number, code.drop 4) :=
    Word.read?_eq_some.mpr ⟨by omega, reading.stage, rfl⟩
  have second : Word.read? (code.drop 4) = some (request.flags, text ++ [0]) := by
    refine Word.read?_eq_some.mpr ⟨?_, reading.flags, by rw [List.drop_drop, ← ends]; rfl⟩
    rw [List.length_drop]
    omega
  calc encode request.stage request.flags request.source
      = Word.toBytes request.stage.number ++ (Word.toBytes request.flags ++ (text ++ [0])) := by
        rw [encode, source, List.append_assoc, List.append_assoc]
    _ = Word.toBytes request.stage.number ++ code.drop 4 := by rw [Word.toBytes_of_read? second]
    _ = code := Word.toBytes_of_read? first

/-- Acceptable code is read as what it says and all other code is bad. A request that was written is
read again up to the first zero character of its source, and a request that was read is written again
if the only zero byte of its text is the last one. -/
theorem requests_are_read_as_written :
    (∀ code, Acceptable code → ∃ request, decode code = .ok request ∧ Says code request) ∧
    (∀ code, ¬ Acceptable code → decode code = .error .badShaderCode) ∧
    (∀ stage flags source, ∃ start, BeforeNul source start ∧
      decode (encode stage flags source) = .ok
        { stage, flags, source := start, codeSize := 8 + source.utf8ByteSize + 1 }) ∧
    ∀ code request text, decode code = .ok request → code.drop 8 = text ++ [0] → 0 ∉ text →
      encode request.stage request.flags request.source = code := by
  refine ⟨fun code acceptable => ?_, fun code => decode_refuses, fun stage flags source => ?_,
    fun code request text read ends only => encode_decode read ends only⟩
  · obtain ⟨request, read⟩ := decode_accepts.mpr acceptable
    exact ⟨request, read, (decode_eq_ok.mp read).2⟩
  · exact ⟨_, beforeNul_longest source, decode_encode stage flags source⟩

/-- A source of two bytes, and bytes after the zero that are no text. -/
theorem accented_source_is_read_as_written :
    (∃ request, decode [4, 0, 0, 0, 7, 0, 0, 0, 0xC3, 0xA9, 0, 0xFF] = .ok request ∧
      request.source = "é") ∧
    decode [4, 0, 0, 0, 7, 0, 0] = .error .badShaderCode ∧
    encode .fragment 7 "é" = [4, 0, 0, 0, 7, 0, 0, 0, 0xC3, 0xA9, 0] := by
  obtain ⟨accepted, refused, _, again⟩ := requests_are_read_as_written
  have text : textBytes "é" = [0xC3, 0xA9] := by decide +kernel
  refine ⟨?_, ?_, ?_⟩
  · obtain ⟨request, read, reading⟩ := accepted [4, 0, 0, 0, 7, 0, 0, 0, 0xC3, 0xA9, 0, 0xFF]
      ⟨by decide, ⟨.fragment, by decide⟩, exists_textBytes.mp ⟨"é", by decide +kernel⟩⟩
    have same : textBytes request.source = textBytes "é" := reading.source.trans text.symm
    have decoded := decodeText?_textBytes request.source
    rw [same, decodeText?_textBytes] at decoded
    exact ⟨request, read, (Option.some.inj decoded).symm⟩
  · refine refused _ fun acceptable => ?_
    have header := acceptable.header
    contradiction
  · have read : read? [4, 0, 0, 0, 7, 0, 0, 0, 0xC3, 0xA9, 0] =
        some { stage := .fragment, flags := 7, source := "é", codeSize := 11 } := by decide +kernel
    exact again _ { stage := .fragment, flags := 7, source := "é", codeSize := 11 } [0xC3, 0xA9]
      (by rw [decode, read]) rfl (by decide)

end Request

end ShaderDriver.Container.Glsl
