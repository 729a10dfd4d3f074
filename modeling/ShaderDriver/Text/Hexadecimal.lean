namespace ShaderDriver.Text

/-! Numbers and bytes to base sixteen, in small letters. -/

def hexadecimal (value : Nat) : List Char :=
  Nat.toDigits 16 value

/-- A number after the mark `0x`. -/
def flagWord (value : Nat) : String :=
  "0x" ++ String.ofList (hexadecimal value)

end ShaderDriver.Text
