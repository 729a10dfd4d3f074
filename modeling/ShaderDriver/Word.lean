namespace ShaderDriver.Word

/-! A 32-bit word as four bytes, the lowest first. -/

def toBytes (word : UInt32) : List UInt8 :=
  [UInt8.ofNat word.toNat, UInt8.ofNat (word.toNat / 256),
    UInt8.ofNat (word.toNat / 65536), UInt8.ofNat (word.toNat / 16777216)]

/-- The word in the first four bytes, and the bytes after it. -/
def read? : List UInt8 → Option (UInt32 × List UInt8)
  | a :: b :: c :: d :: rest =>
      some (UInt32.ofNat (a.toNat + 256 * b.toNat + 65536 * c.toNat + 16777216 * d.toNat), rest)
  | _ => none

theorem read?_toBytes (word : UInt32) (rest : List UInt8) :
    read? (toBytes word ++ rest) = some (word, rest) := by
  have bound := word.toNat_lt
  simp only [toBytes, read?, List.cons_append, List.nil_append, Option.some.injEq, Prod.mk.injEq,
    and_true]
  apply UInt32.toNat.inj
  simp only [UInt8.toNat_ofNat', UInt32.toNat_ofNat']
  omega

theorem toBytes_of_read? {bytes rest : List UInt8} {word : UInt32}
    (found : read? bytes = some (word, rest)) : toBytes word ++ rest = bytes := by
  match bytes, found with
  | a :: b :: c :: d :: tail, found =>
      simp only [read?, Option.some.injEq, Prod.mk.injEq] at found
      obtain ⟨rfl, rfl⟩ := found
      have first := a.toNat_lt
      have second := b.toNat_lt
      have third := c.toNat_lt
      have fourth := d.toNat_lt
      simp only [toBytes, UInt32.toNat_ofNat', List.cons_append, List.nil_append, List.cons.injEq,
        and_true]
      refine ⟨?_, ?_, ?_, ?_⟩ <;> apply UInt8.toNat.inj <;> simp only [UInt8.toNat_ofNat'] <;> omega

theorem read?_isSome (bytes : List UInt8) : (read? bytes).isSome = true ↔ 4 ≤ bytes.length := by
  match bytes with
  | [] | [_] | [_, _] | [_, _, _] => simp [read?]
  | _ :: _ :: _ :: _ :: _ => simp [read?]

/-- The number that bytes stand for, the lowest first. -/
def littleEndian : List UInt8 → Nat
  | [] => 0
  | byte :: rest => byte.toNat + 256 * littleEndian rest

theorem read?_eq_some {bytes rest : List UInt8} {word : UInt32} :
    read? bytes = some (word, rest) ↔
      4 ≤ bytes.length ∧ word.toNat = littleEndian (bytes.take 4) ∧ rest = bytes.drop 4 := by
  match bytes with
  | [] | [_] | [_, _] | [_, _, _] => simp [read?]
  | a :: b :: c :: d :: tail =>
      have first := a.toNat_lt
      have second := b.toNat_lt
      have third := c.toNat_lt
      have fourth := d.toNat_lt
      have value : littleEndian ((a :: b :: c :: d :: tail).take 4) =
          a.toNat + 256 * b.toNat + 65536 * c.toNat + 16777216 * d.toNat := by
        simp only [List.take_succ_cons, List.take_zero, littleEndian]
        omega
      have fits : littleEndian ((a :: b :: c :: d :: tail).take 4) < 2 ^ 32 := by omega
      rw [read?, ← value, Option.some.injEq, Prod.mk.injEq, eq_comm, ← UInt32.toNat_inj,
        UInt32.toNat_ofNat_of_lt' fits]
      simp [eq_comm]

theorem exists_read?_of_le {bytes : List UInt8} (enough : 4 ≤ bytes.length) :
    ∃ word, read? bytes = some (word, bytes.drop 4) := by
  obtain ⟨⟨word, rest⟩, found⟩ := Option.isSome_iff_exists.mp ((read?_isSome bytes).mpr enough)
  exact ⟨word, by rw [found, (read?_eq_some.mp found).2.2]⟩

end ShaderDriver.Word
