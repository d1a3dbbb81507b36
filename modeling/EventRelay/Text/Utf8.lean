namespace EventRelay.Text

/-- How many bytes follow a leading byte, and the range of the first of them. -/
def continuation (lead : Nat) : Option (Nat × Nat × Nat) :=
  if 0xC2 ≤ lead ∧ lead ≤ 0xDF then some (1, 0x80, 0xBF)
  else if lead = 0xE0 then some (2, 0xA0, 0xBF)
  else if lead = 0xED then some (2, 0x80, 0x9F)
  else if 0xE1 ≤ lead ∧ lead ≤ 0xEF then some (2, 0x80, 0xBF)
  else if lead = 0xF0 then some (3, 0x90, 0xBF)
  else if 0xF1 ≤ lead ∧ lead ≤ 0xF3 then some (3, 0x80, 0xBF)
  else if lead = 0xF4 then some (3, 0x80, 0x8F)
  else none

/-- A character still short of `missing` bytes: its bits so far, and the range of the next byte. -/
structure Begun where
  bits : Nat
  missing : Nat
  low : Nat
  high : Nat

def replacement : Char := Char.ofNat 0xFFFD

/-- Reads a byte with no character begun: a whole character, or the start of one. -/
def beginChar (b : Nat) : List Char × Option Begun :=
  if b < 0x80 then ([Char.ofNat b], none)
  else match continuation b with
    | some (n, low, high) => ([], some ⟨b % Nat.pow 2 (6 - n), n, low, high⟩)
    | none => ([replacement], none)

def readByte (begun : Option Begun) (b : Nat) : List Char × Option Begun :=
  match begun with
  | none => beginChar b
  | some p =>
    if p.low ≤ b ∧ b ≤ p.high then
      let bits := p.bits * 64 + b % 64
      if p.missing = 1 then ([Char.ofNat bits], none)
      else ([], some ⟨bits, p.missing - 1, 0x80, 0xBF⟩)
    else
      let (chars, next) := beginChar b
      (replacement :: chars, next)

def readFrom (begun : Option Begun) : List UInt8 → List Char
  | [] => if begun.isSome then [replacement] else []
  | b :: rest =>
    let (chars, next) := readByte begun b.toNat
    chars ++ readFrom next rest

/-- The text that the bytes stand for. -/
def ofBytes (bytes : List UInt8) : String := String.ofList (readFrom none bytes)

end EventRelay.Text
