/-!
Texts from byte strings in the eight-bit encoding of the character standard.

A byte string that is not the encoding of a text is read with replacement characters: one for each
longest run of bytes that begins an encoded character and cannot go on.
-/

namespace GraphQuery.Text

/-- The character that stands for bytes that encode none. -/
def replacement : Char := '\uFFFD'

/-- A partly read character: how many bytes are still to come, the interval of the next one, and
the bits read so far. -/
structure Pending where
  following : Nat
  low : Nat
  high : Nat
  bits : Nat

/-- What a byte begins: a whole character, the first part of one, or none. -/
def lead? (b : Nat) : Option Pending :=
  if b < 0x80 then some ⟨0, 0, 0, b⟩
  else if 0xC2 ≤ b && b ≤ 0xDF then some ⟨1, 0x80, 0xBF, b - 0xC0⟩
  else if b == 0xE0 then some ⟨2, 0xA0, 0xBF, 0⟩
  else if b == 0xED then some ⟨2, 0x80, 0x9F, 0xD⟩
  else if 0xE1 ≤ b && b ≤ 0xEF then some ⟨2, 0x80, 0xBF, b - 0xE0⟩
  else if b == 0xF0 then some ⟨3, 0x90, 0xBF, 0⟩
  else if 0xF1 ≤ b && b ≤ 0xF3 then some ⟨3, 0x80, 0xBF, b - 0xF0⟩
  else if b == 0xF4 then some ⟨3, 0x80, 0x8F, 4⟩
  else none

/-- Reads bytes one at a time; `bad` tells what is written for bytes that encode no character. -/
def readOctets (bad : List Char) : Option Pending → List UInt8 → List Char
  | none, [] => []
  | some _, [] => bad
  | pending, b :: rest =>
    let fresh (before : List Char) : List Char :=
      match lead? b.toNat with
      | none => before ++ bad ++ readOctets bad none rest
      | some ⟨0, _, _, bits⟩ => before ++ Char.ofNat bits :: readOctets bad none rest
      | some begun => before ++ readOctets bad (some begun) rest
    match pending with
    | none => fresh []
    | some p =>
      if p.low ≤ b.toNat && b.toNat ≤ p.high then
        let bits := p.bits * 64 + b.toNat % 64
        if p.following ≤ 1 then Char.ofNat bits :: readOctets bad none rest
        else readOctets bad (some ⟨p.following - 1, 0x80, 0xBF, bits⟩) rest
      else fresh bad

/-- The text of a byte string, with replacement characters where it encodes none. -/
def ofOctets (data : List UInt8) : String :=
  String.ofList (readOctets [replacement] none data)

/-- The text that a byte string encodes, if it encodes one. -/
def ofOctets? (data : List UInt8) : Option String :=
  let s := readOctets [] none data
  if (String.ofList s).toUTF8.toList == data then some (String.ofList s) else none

end GraphQuery.Text
