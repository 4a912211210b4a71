import ValidatorSigner.Text.Decimal

/-! # The shortest text of a double

Every decimal fraction near enough to a double reads back as that double. Among them its text has
the fewest digits, and of several with so few digits the one that is nearest. The search is done in
exact arithmetic on the bits.
-/
namespace ValidatorSigner.Text

/-- A finite double without its sign: `mantissa` times two to the power `exponent`. -/
structure Binary where
  mantissa : Nat
  exponent : Int
  /-- Whether the next smaller double is only half as far away as the next greater one. -/
  narrowBelow : Bool
deriving DecidableEq, Repr

namespace Binary

def ofBits (bits : UInt64) : Binary :=
  let exponent := ((bits >>> 52) &&& 0x7ff).toNat
  let fraction := (bits &&& 0xfffffffffffff).toNat
  if exponent = 0 then ⟨fraction, -1074, false⟩
  else ⟨1 <<< 52 + fraction, (exponent : Int) - 1075, fraction = 0 ∧ 1 < exponent⟩

/-- Whether a decimal fraction reads back as this value: it lies between the points halfway to the
neighbours, and may be one of them if the mantissa is even. -/
def readsBack (x : Binary) (a : Decimal) : Bool :=
  let below := a.compareBinary (4 * x.mantissa - if x.narrowBelow then 1 else 2) (x.exponent - 2)
  let above := a.compareBinary (4 * x.mantissa + 2) (x.exponent - 2)
  let even : Bool := x.mantissa % 2 = 0
  (below == .gt || (even && below == .eq)) && (above == .lt || (even && above == .eq))

def scaled (x : Binary) (place : Int) : Nat :=
  (x.mantissa * Nat.pow 2 x.exponent.toNat * Nat.pow 10 (-place).toNat) /
    (Nat.pow 2 (-x.exponent).toNat * Nat.pow 10 place.toNat)

/-- Of the two multiples of ten to the power `place` beside the value, the one that reads back. If
both do, the nearer one is taken, and the even one if they are equally near. -/
def onGrid? (x : Binary) (place : Int) : Option Decimal :=
  let low := x.scaled place
  let lower : Decimal := ⟨low, place⟩
  let upper : Decimal := ⟨low + 1, place⟩
  match x.readsBack lower, x.readsBack upper with
  | true, false => some lower
  | false, true => some upper
  | false, false => none
  | true, true =>
    -- the point halfway between them
    match (⟨10 * low + 5, place - 1⟩ : Decimal).compareBinary x.mantissa x.exponent with
    | .gt => some lower
    | .lt => some upper
    | .eq => some (if low % 2 = 0 then lower else upper)

def topPlace (x : Binary) : Int :=
  ((x.mantissa.log2 : Int) + x.exponent + 1) * 30103 / 100000 + 2

/-- The shortest decimal fraction that reads back, from the coarsest grid down. -/
def shortest (x : Binary) : Decimal :=
  -- Seventeen digits are always enough.
  ((List.range 22).findSome? fun (n : Nat) => x.onGrid? (x.topPlace - n)).getD ⟨0, 0⟩

end Binary

def Decimal.trim (a : Decimal) : Decimal :=
  let zeros := ((Nat.toDigits 10 a.digits).reverse.takeWhile (· = '0')).length
  ⟨a.digits / Nat.pow 10 zeros, a.exponent + zeros⟩

structure Double where
  bits : UInt64
deriving DecidableEq, Repr

namespace Double

def isNegative (x : Double) : Bool := x.bits >>> 63 = 1

/-- The digits of a finite value, and the place of the first one: zero for the ones, one for the
tens. -/
def digits (x : Double) : List Char × Int :=
  let value := Binary.ofBits x.bits
  if value.mantissa = 0 then (['0'], 0)
  else
    let decimal := value.shortest.trim
    let digits := Nat.toDigits 10 decimal.digits
    (digits, decimal.exponent + digits.length - 1)

end Double
end ValidatorSigner.Text
