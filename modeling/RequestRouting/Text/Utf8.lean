/-!
# Reading UTF-8 that may be damaged

`decodeLossy` reads bytes as UTF-8 and writes one U+FFFD for every maximal part that is not
well-formed. It goes through the bytes once; `Pending` is what is known of a character whose
bytes have not all arrived.
-/

set_option autoImplicit false

namespace RequestRouting.Text

/-- A character begun: the bits so far, how many bytes are missing, and the range of the next. -/
structure Pending where
  bits : Nat
  missing : Nat
  low : Nat
  high : Nat

def replacement : Char := Char.ofNat 0xFFFD

def beginChar (b : Nat) : List Char × Option Pending :=
  if b < 0x80 then ([Char.ofNat b], none)
  else if 0xC2 ≤ b ∧ b ≤ 0xDF then ([], some ⟨b - 0xC0, 1, 0x80, 0xBF⟩)
  else if b = 0xE0 then ([], some ⟨0, 2, 0xA0, 0xBF⟩)
  else if b = 0xED then ([], some ⟨0xD, 2, 0x80, 0x9F⟩)
  else if 0xE1 ≤ b ∧ b ≤ 0xEF then ([], some ⟨b - 0xE0, 2, 0x80, 0xBF⟩)
  else if b = 0xF0 then ([], some ⟨0, 3, 0x90, 0xBF⟩)
  else if 0xF1 ≤ b ∧ b ≤ 0xF3 then ([], some ⟨b - 0xF0, 3, 0x80, 0xBF⟩)
  else if b = 0xF4 then ([], some ⟨4, 3, 0x80, 0x8F⟩)
  else ([replacement], none)

/-- One byte: a byte that cannot continue an open character ends it as damaged and begins anew. -/
def feedByte (open? : Option Pending) (b : Nat) : List Char × Option Pending :=
  match open? with
  | none => beginChar b
  | some p =>
    if p.low ≤ b ∧ b ≤ p.high then
      let bits := p.bits * 64 + (b - 0x80)
      if p.missing = 1 then ([Char.ofNat bits], none)
      else ([], some ⟨bits, p.missing - 1, 0x80, 0xBF⟩)
    else
      let (now, later) := beginChar b
      (replacement :: now, later)

def decodeFrom (open? : Option Pending) : List UInt8 → List Char
  | [] => if open?.isSome then [replacement] else []
  | b :: rest =>
    let (now, later) := feedByte open? b.toNat
    now ++ decodeFrom later rest

/-- The text of the bytes, with U+FFFD for every maximal part that is not UTF-8. -/
def decodeLossy (bytes : List UInt8) : String := String.ofList (decodeFrom none bytes)

def utf8Bytes (s : String) : List UInt8 := s.toList.flatMap String.utf8EncodeChar

end RequestRouting.Text
