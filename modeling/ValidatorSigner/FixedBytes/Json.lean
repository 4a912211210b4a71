import ValidatorSigner.FixedBytes
import ValidatorSigner.Text.Double
import ValidatorSigner.Text.Quoted

/-! # Byte strings in JSON

A byte string is a JSON text in its written form. Every other value is refused by its type, and a
number by its value too: it is an integer of 64 bits if it is written as one, and a double
otherwise.
-/
namespace ValidatorSigner

inductive JsonShape where
  | null
  | boolean (value : Bool)
  | integer (value : Int)
  | fraction (value : Text.Double)
  | text (value : String)
  | list
  | object
deriving DecidableEq, Repr

namespace JsonShape

/-- What was read of a long number: digits that fit 64 bits, and the power of ten that belongs to
them. -/
structure Significand where
  value : Nat := 0
  exponent : Int := 0
  /-- Whether a digit did not fit. -/
  isFull : Bool := false

def Significand.takeWhole (s : Significand) (c : Char) : Significand :=
  let next := 10 * s.value + (c.toNat - 48)
  -- Behind the first digit that does not fit, none is taken, but each counts for the power of ten.
  if s.isFull ∨ 1 <<< 64 ≤ next then { s with exponent := s.exponent + 1, isFull := true }
  else { s with value := next }

def Significand.takeFraction (s : Significand) (c : Char) : Significand :=
  let next := 10 * s.value + (c.toNat - 48)
  if s.isFull ∨ 1 <<< 64 ≤ next then { s with isFull := true }
  else { s with value := next, exponent := s.exponent - 1 }

def powerOfTen (n : Nat) : Float := Float.ofScientific 1 false n

/-- A value times ten to a power, in steps of which each is rounded; none if it is infinite. -/
def scale (value : Float) (exponent : Int) : Option Float :=
  if 0 ≤ exponent then
    if value == 0 then some value
    else if 308 < exponent then none
    else
      let product := value * powerOfTen exponent.toNat
      if product.isInf then none else some product
  else if -308 ≤ exponent then some (value / powerOfTen exponent.natAbs)
  else if -616 ≤ exponent then
    some (value / powerOfTen 308 / powerOfTen (exponent.natAbs - 308))
  else some 0

def ofNumeral? (chars : List Char) : Option JsonShape :=
  let (isNegative, chars) : Bool × List Char := match chars with
    | '-' :: rest => (true, rest)
    | _ => (false, chars)
  let whole := chars.takeWhile Char.isDigit
  let rest := chars.drop whole.length
  let fraction := match rest with
    | '.' :: rest => rest.takeWhile Char.isDigit
    | _ => []
  let n : Nat := whole.foldl (fun n c => 10 * n + (c.toNat - 48)) 0
  -- What is written as an integer is one if it fits 64 bits, but minus zero is a double.
  if rest = [] ∧ !isNegative ∧ n < 1 <<< 64 then some (.integer n)
  else if rest = [] ∧ isNegative ∧ 0 < n ∧ n ≤ 1 <<< 63 then some (.integer (-(n : Int)))
  else do
    let exponent : Int ← match rest.dropWhile fun c => c = '.' ∨ c.isDigit with
      | [] => some 0
      | _ :: rest => Text.readExponent rest
    let whole : Significand := whole.foldl Significand.takeWhole {}
    -- Digits behind the point are taken again, even if one before it did not fit.
    let all := fraction.foldl Significand.takeFraction { whole with isFull := false }
    -- Numbers that are too great are refused.
    let value ← scale (UInt64.ofNat all.value).toFloat (all.exponent + exponent)
    return .fraction ⟨(if isNegative then -value else value).toBits⟩

/-- A double is written positionally if its first digit stands between the fifth place behind the
point and the sixteenth before it, and with an exponent of two digits at least otherwise. -/
def doubleText (x : Text.Double) : String :=
  let (digits, place) := x.digits
  let zeros (n : Int) : List Char := List.replicate n.toNat '0'
  let text : List Char :=
    if -5 ≤ place ∧ place < 0 then "0.".toList ++ zeros (-place - 1) ++ digits
    else if 0 ≤ place ∧ place ≤ 15 then
      let whole := digits.take (place.toNat + 1)
      let fraction := digits.drop (place.toNat + 1)
      whole ++ zeros (place + 1 - whole.length) ++
        '.' :: (if fraction = [] then ['0'] else fraction)
    else
      let power := Nat.toDigits 10 place.natAbs
      digits.take 1 ++ (if digits.length = 1 then [] else '.' :: digits.drop 1) ++
        'e' :: (if place < 0 then '-' else '+') :: zeros (2 - power.length) ++ power
  String.ofList (if x.isNegative then '-' :: text else text)

def noun : JsonShape → String
  | null => "null"
  | boolean value => s!"boolean \x60{value}\x60"
  | integer value => s!"integer \x60{value}\x60"
  | fraction value => "floating point \x60" ++ doubleText value ++ "\x60"
  | text value => "string " ++ Text.quoted value
  | list => "sequence"
  | object => "map"

end JsonShape

inductive JsonError where
  | notText (found : JsonShape)
  | bytes (error : BytesError)
deriving DecidableEq, Repr

def JsonError.message : JsonError → String
  | .notText found => "invalid type: " ++ found.noun ++ ", expected a string"
  | .bytes error => error.message

def FixedBytes.ofJson (kind : ByteKind) : JsonShape → Except JsonError (FixedBytes kind)
  | .text value =>
    match FixedBytes.ofHex kind value with
    | .ok bytes => .ok bytes
    | .error e => .error (.bytes e)
  | other => .error (.notText other)

def FixedBytes.toJson {kind : ByteKind} (value : FixedBytes kind) : JsonShape := .text value.toHex

end ValidatorSigner
