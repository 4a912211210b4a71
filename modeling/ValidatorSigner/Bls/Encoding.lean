import ValidatorSigner.Bls.Curve
import ValidatorSigner.FixedBytes

/-! # Compressed points

A point is written as its first coordinate, most significant byte first. The three top bits of
the first byte are free for flags: compressed (always set), infinity, and whether the second
coordinate is the larger of its two candidates.
-/
namespace ValidatorSigner.Bls

/-- The number written in these bytes, most significant first. -/
def numberOfBytes (bytes : List UInt8) : Nat :=
  bytes.foldl (fun n byte => 256 * n + byte.toNat) 0

/-- The lowest `width` bytes of a number, most significant first. -/
def bytesOfNumber (width n : Nat) : List UInt8 :=
  (List.range width).map fun i => UInt8.ofNat (n / Nat.pow 256 (width - 1 - i))

@[simp]
theorem length_bytesOfNumber (width n : Nat) : (bytesOfNumber width n).length = width := by
  simp [bytesOfNumber]

def withFlags (upper : Bool) : List UInt8 → List UInt8
  | [] => []
  | first :: rest => (first ||| 0x80 ||| (if upper then 0x20 else 0)) :: rest

@[simp]
theorem length_withFlags (upper : Bool) (bytes : List UInt8) :
    (withFlags upper bytes).length = bytes.length := by
  cases bytes <;> rfl

structure Flags where
  infinity : Bool
  upper : Bool
  bytes : List UInt8

/-- Reads the flags; bytes without the compressed flag are refused. -/
def Flags.ofBytes? : List UInt8 → Option Flags
  | [] => none
  | first :: rest =>
    if first &&& 0x80 = 0 then none
    else some ⟨first &&& 0x40 != 0, first &&& 0x20 != 0, (first &&& 0x1f) :: rest⟩

/-- The point at infinity leaves every other bit clear. -/
def Flags.isPlainInfinity (flags : Flags) : Bool :=
  !flags.upper && flags.bytes.all (· == 0)

/-- A base field element; numbers from the field order up are refused. -/
def Fp.ofBytes? (bytes : List UInt8) : Option Fp :=
  let n := numberOfBytes bytes
  if h : n < fieldOrder then some ⟨n, h⟩ else none

namespace Point

def chooseRoot {F : Type} [Neg F] (isUpper : F → Bool) (upper : Bool) (root : F) : F :=
  if isUpper root == upper then root else -root

def compressFirst : Point Fp → PublicKey
  | .infinity => ⟨0xc0 :: List.replicate 47 0, rfl⟩
  | .affine x y => ⟨withFlags y.isUpper (bytesOfNumber 48 x.val), by simp [ByteKind.width]⟩

/-- The 96 bytes of a point of the second curve, the imaginary part first. -/
def compressSecond : Point Fp2 → Signature
  | .infinity => ⟨0xc0 :: List.replicate 95 0, rfl⟩
  | .affine x y =>
    ⟨withFlags y.isUpper (bytesOfNumber 48 x.im.val ++ bytesOfNumber 48 x.re.val),
      by simp [ByteKind.width]⟩

/-- Reads a point of the first curve, in its subgroup or not. -/
def uncompressFirst? (bytes : List UInt8) : Option (Point Fp) := do
  let flags ← Flags.ofBytes? bytes
  if flags.infinity then
    if flags.isPlainInfinity then some .infinity else none
  else
    let x ← Fp.ofBytes? flags.bytes
    let root ← (x * x * x + curveConstant).sqrt?
    return .affine x (chooseRoot Fp.isUpper flags.upper root)

def uncompressSecond? (bytes : List UInt8) : Option (Point Fp2) := do
  let flags ← Flags.ofBytes? bytes
  if flags.infinity then
    if flags.isPlainInfinity then some .infinity else none
  else
    let im ← Fp.ofBytes? (flags.bytes.take 48)
    let re ← Fp.ofBytes? (flags.bytes.drop 48)
    let x : Fp2 := ⟨re, im⟩
    let root ← (x * x * x + twistConstant).sqrt?
    return .affine x (chooseRoot Fp2.isUpper flags.upper root)

end Point
end ValidatorSigner.Bls
