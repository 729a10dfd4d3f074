import ShaderDriver.Log.Console

namespace ShaderDriver.Log

/-! Text without its colours. A colour sequence is an escape character, a bracket, digits and
semicolons, and the letter m; text may have escape characters that begin no such sequence. -/

def escape : Char := '\x1b'

def isParameter (c : Char) : Bool :=
  c.isDigit || c == ';'

/-- What comes after a colour sequence, when its escape character has been read. -/
def afterColour? : List Char → Option (List Char)
  | '[' :: rest =>
      match rest.dropWhile isParameter with
      | 'm' :: after => some after
      | _ => none
  | _ => none

theorem afterColour?_length {text after : List Char} (read : afterColour? text = some after) :
    after.length < text.length := by
  unfold afterColour? at read
  split at read
  · next rest =>
      split at read
      · next found dropped =>
          cases read
          have shorter := (rest.dropWhile_sublist isParameter).length_le
          rw [dropped] at shorter
          simp only [List.length_cons] at shorter ⊢
          omega
      · cases read
  · cases read

/-- The text with every colour sequence deleted, read from the left. -/
def withoutColours : List Char → List Char
  | [] => []
  | c :: rest =>
      if c = escape then
        match read : afterColour? rest with
        | some after =>
            have _shorter := afterColour?_length read
            withoutColours after
        | none => c :: withoutColours rest
      else c :: withoutColours rest
termination_by text => text.length
decreasing_by all_goals simp only [List.length_cons]; omega

variable {text rest after : List Char} {colour : Colour}

@[simp] theorem withoutColours_nil : withoutColours [] = [] := by
  rw [withoutColours]

theorem withoutColours_cons {c : Char} (other : c ≠ escape) :
    withoutColours (c :: rest) = c :: withoutColours rest := by
  rw [withoutColours, if_neg other]

theorem withoutColours_sequence (read : afterColour? rest = some after) :
    withoutColours (escape :: rest) = withoutColours after := by
  rw [withoutColours, if_pos rfl]
  split
  · next found known =>
      rw [read] at known
      cases known
      rfl
  · next unread =>
      rw [read] at unread
      cases unread

theorem withoutColours_escape (unread : afterColour? rest = none) :
    withoutColours (escape :: rest) = escape :: withoutColours rest := by
  rw [withoutColours, if_pos rfl]
  split
  · next found known =>
      rw [unread] at known
      cases known
  · rfl

theorem withoutColours_opening (colour : Colour) (rest : List Char) :
    withoutColours (colour.opening ++ rest) = withoutColours rest := by
  have read : afterColour? ('[' :: (colour.parameter ++ 'm' :: rest)) = some rest := by
    cases colour <;> rfl
  have written : colour.opening ++ rest = escape :: '[' :: (colour.parameter ++ 'm' :: rest) := by
    simp [Colour.opening, escape]
  rw [written, withoutColours_sequence read]

theorem withoutColours_reset (rest : List Char) :
    withoutColours (colourReset ++ rest) = withoutColours rest := by
  have read : afterColour? ('[' :: '0' :: 'm' :: rest) = some rest := rfl
  exact withoutColours_sequence read

/-- Text without escape characters stays as it is, and does not matter for what follows. -/
theorem withoutColours_append (plain : escape ∉ text) (rest : List Char) :
    withoutColours (text ++ rest) = text ++ withoutColours rest := by
  induction text with
  | nil => rfl
  | cons c more ih =>
      obtain ⟨other, others⟩ := not_or.mp (mt List.mem_cons.mpr plain)
      rw [List.cons_append, withoutColours_cons (Ne.symm other), ih others, List.cons_append]

/-- A colour is switched on again only where it was reset, after an escape character. -/
theorem reopened_of_plain (plain : escape ∉ text) (opening : List Char) :
    reopened opening text = text := by
  induction text with
  | nil => rfl
  | cons c more ih =>
      obtain ⟨other, others⟩ := not_or.mp (mt List.mem_cons.mpr plain)
      have kept : reopened opening (c :: more) = c :: reopened opening more := by
        apply reopened.eq_2
        rintro rest rfl
        exact absurd rfl other
      rw [kept, ih others]

/-- A character that no colour sequence has after its escape character: one that has begun before it
comes to nothing. -/
def stopsColours (c : Char) : Prop :=
  c ≠ '[' ∧ c ≠ 'm' ∧ isParameter c = false

instance (c : Char) : Decidable (stopsColours c) :=
  inferInstanceAs (Decidable (c ≠ '[' ∧ c ≠ 'm' ∧ isParameter c = false))

theorem afterColour?_append_cons {c : Char} (stops : stopsColours c) (text rest : List Char) :
    afterColour? (text ++ c :: rest) = (afterColour? text).map (· ++ c :: rest) := by
  obtain ⟨bracketless, unfinished, ends⟩ := stops
  cases text with
  | nil => simp [afterColour?, bracketless]
  | cons first more =>
      by_cases bracket : first = '['
      · subst first
        have dropped : (more ++ c :: rest).dropWhile isParameter =
            more.dropWhile isParameter ++ c :: rest := by
          rw [List.dropWhile_append]
          split
          · next all =>
              rw [List.isEmpty_iff.mp all, List.dropWhile_cons, ends]
              rfl
          · rfl
        rw [List.cons_append, afterColour?, afterColour?, dropped]
        cases more.dropWhile isParameter with
        | nil => simp [unfinished]
        | cons next others =>
            by_cases final : next = 'm'
            · subst next
              rfl
            · simp [final]
      · simp [afterColour?, bracket]

/-- What stands before such a character does not matter for the colours from it on. -/
theorem withoutColours_append_cons {c : Char} (stops : stopsColours c) (text rest : List Char) :
    withoutColours (text ++ c :: rest) = withoutColours text ++ withoutColours (c :: rest) := by
  fun_induction withoutColours text with
  | case1 => rfl
  | case2 more after read _ ih =>
      have further : afterColour? (more ++ c :: rest) = some (after ++ c :: rest) := by
        rw [afterColour?_append_cons stops, read, Option.map_some]
      rw [List.cons_append, withoutColours_sequence further, ih]
  | case3 more unread ih =>
      have further : afterColour? (more ++ c :: rest) = none := by
        rw [afterColour?_append_cons stops, unread, Option.map_none]
      rw [List.cons_append, withoutColours_escape further, ih, List.cons_append]
  | case4 first more other ih =>
      rw [List.cons_append, withoutColours_cons other, ih, List.cons_append]

end ShaderDriver.Log
