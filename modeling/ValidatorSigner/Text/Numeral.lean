/-! # Decimal numbers in settings

A number is one or more ASCII digits, with an optional sign in front; nothing else may stand in
the text. Leading zeros are read.
-/
namespace ValidatorSigner.Text

def decimalDigit? (c : Char) : Option Nat :=
  if '0' ≤ c ∧ c ≤ '9' then some (c.toNat - 48) else none

/-- Continues a number whose leading digits have the value `value`. -/
def readDigits (value : Nat) : List Char → Option Nat
  | [] => some value
  | c :: rest =>
    match decimalDigit? c with
    | some d => readDigits (10 * value + d) rest
    | none => none

def readDecimal : List Char → Option Nat
  | [] => none
  | chars => readDigits 0 chars

/-- A natural number below `bound`, with an optional plus sign. -/
def readBounded (bound : Nat) (chars : List Char) : Option Nat :=
  let digits := match chars with
    | '+' :: rest => rest
    | _ => chars
  (readDecimal digits).filter (· < bound)

/-- A whole number `n` with `-bound ≤ n < bound`, with an optional sign. -/
def readSigned (bound : Nat) (chars : List Char) : Option Int :=
  match chars with
  | '-' :: rest => ((readDecimal rest).filter (· ≤ bound)).map fun n => -(n : Int)
  | _ => (readBounded bound chars).map Int.ofNat

end ValidatorSigner.Text
