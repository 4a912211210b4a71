import ValidatorSigner.Text.Quoted

/-! # Hexadecimal digits

Bytes are written as two lower-case digits each and read in either case. The reader looks at the
bytes of the text, so positions count bytes and a refused character is one byte.
-/
namespace ValidatorSigner.Text.Hex

inductive Fault where
  | oddLength
  | badDigit (byte : UInt8) (position : Nat)
deriving DecidableEq, Repr

/-- A refused byte is shown as the Latin-1 character of that number. -/
def Fault.message : Fault → String
  | .oddLength => "Odd number of digits"
  | .badDigit byte position =>
    "Invalid character " ++ quotedSingle (Char.ofNat byte.toNat) ++ " at position " ++
      toString position

def digit (value : Nat) : Char :=
  Char.ofNat (if value < 10 then 48 + value else 87 + value)

/-- The two digits of a byte, high half first. -/
def encodeByte (byte : UInt8) : List Char :=
  [digit (byte.toNat / 16), digit (byte.toNat % 16)]

def encode (bytes : List UInt8) : List Char :=
  bytes.flatMap encodeByte

def digitValue? (byte : UInt8) : Option Nat :=
  let code := byte.toNat
  if 48 ≤ code ∧ code ≤ 57 then some (code - 48)
  else if 97 ≤ code ∧ code ≤ 102 then some (code - 87)
  else if 65 ≤ code ∧ code ≤ 70 then some (code - 55)
  else none

def readDigit (byte : UInt8) (position : Nat) : Except Fault Nat :=
  match digitValue? byte with
  | some value => .ok value
  | none => .error (.badDigit byte position)

/-- Reads digits two by two from `position` on; the first bad digit is the fault. -/
def decodeFrom (position : Nat) : List UInt8 → Except Fault (List UInt8)
  | high :: low :: rest => do
    let h ← readDigit high position
    let l ← readDigit low (position + 1)
    let tail ← decodeFrom (position + 2) rest
    return UInt8.ofNat (16 * h + l) :: tail
  | [_] => .error .oddLength
  | [] => .ok []

def decode (text : List UInt8) : Except Fault (List UInt8) :=
  if text.length % 2 = 1 then .error .oddLength else decodeFrom 0 text

end ValidatorSigner.Text.Hex
