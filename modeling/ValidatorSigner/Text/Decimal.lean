import ValidatorSigner.Text.Numeral

/-! # Decimal fractions

A decimal fraction is a whole number and a power of ten. It is written with a point among or around
its digits and with an exponent, and either may be missing.
-/
namespace ValidatorSigner.Text

/-- The number `digits` times ten to the power `exponent`. -/
structure Decimal where
  digits : Nat
  exponent : Int
deriving DecidableEq, Repr

def readExponent : List Char → Option Int
  | '-' :: digits => (readDecimal digits).map fun n => -(n : Int)
  | '+' :: digits => (readDecimal digits).map Int.ofNat
  | digits => (readDecimal digits).map Int.ofNat

namespace Decimal

/-- Reads a fraction without a sign. There must be a digit before or behind the point. -/
def read? (chars : List Char) : Option Decimal := do
  let whole := chars.takeWhile Char.isDigit
  let rest := chars.drop whole.length
  let (fraction, rest) := match rest with
    | '.' :: rest => (rest.takeWhile Char.isDigit, rest.dropWhile Char.isDigit)
    | _ => ([], rest)
  let digits ← readDecimal (whole ++ fraction)
  let exponent ← match rest with
    | [] => some 0
    | c :: rest => if c = 'e' ∨ c = 'E' then readExponent rest else none
  return ⟨digits, exponent - fraction.length⟩

/-- Compares the number with `n` times two to the power `j`. -/
def compareBinary (a : Decimal) (n : Nat) (j : Int) : Ordering :=
  compare (a.digits * Nat.pow 10 a.exponent.toNat * Nat.pow 2 (-j).toNat)
    (n * Nat.pow 2 j.toNat * Nat.pow 10 (-a.exponent).toNat)

end Decimal
end ValidatorSigner.Text
