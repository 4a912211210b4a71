import ValidatorSigner.Bls.Encoding
import ValidatorSigner.Bls.Sha256

/-! # From messages to points of the second group

A message is stretched to two elements of `Fp2`. Each is mapped to a curve that is isogenous to
the second curve and whose coefficients do not vanish, carried over by the isogeny of degree
three, and the sum of the two is multiplied into the subgroup.
-/
namespace ValidatorSigner.Bls

def signatureDomain : String := "BLS_SIG_BLS12381G2_XMD:SHA-256_SSWU_RO_POP_"

def xorBytes (a b : List UInt8) : List UInt8 := List.zipWith (· ^^^ ·) a b

def stretchBlocks (seed tag previous : List UInt8) (index : UInt8) : Nat → List UInt8
  | 0 => []
  | count + 1 =>
    let block := Sha256.digest (xorBytes seed previous ++ index :: tag)
    block ++ stretchBlocks seed tag block (index + 1) count

/-- Stretches a message to `length` uniform bytes, for lengths up to 255 digests. -/
def stretch (message tag : List UInt8) (length : Nat) : List UInt8 :=
  let tag := tag ++ [UInt8.ofNat tag.length]
  let seed := Sha256.digest
    (List.replicate 64 0 ++ message ++ bytesOfNumber 2 length ++ 0 :: tag)
  (stretchBlocks seed tag (List.replicate 32 0) 1 ((length + 31) / 32)).take length

/-- The residue class of the number in 64 bytes, which is near to uniform. -/
def Fp.ofUniform (bytes : List UInt8) : Fp := Fp.ofNat (numberOfBytes bytes)

def hashToField (message tag : List UInt8) : Fp2 × Fp2 :=
  let bytes := stretch message tag 256
  let part (i : Nat) : Fp := Fp.ofUniform ((bytes.drop (64 * i)).take 64)
  (⟨part 0, part 1⟩, ⟨part 2, part 3⟩)

namespace Isogenous

def a : Fp2 := Fp2.ofInts 0 240

def b : Fp2 := Fp2.ofInts 1012 1012

/-- A fixed element that is no square. -/
def z : Fp2 := Fp2.ofInts (-2) (-1)

def cubic (x : Fp2) : Fp2 := x * x * x + a * x + b

/-- A point whose first coordinate is one of two candidates, only one of which is on the curve. -/
def ofField (u : Fp2) : Fp2 × Fp2 :=
  let t := z * u * u
  let s := t * t + t
  let x1 := if s = 0 then b * (z * a)⁻¹ else -(b * a⁻¹) * (1 + s⁻¹)
  -- The sign of the second coordinate follows that of the element.
  let signed (y : Fp2) : Fp2 := if y.isOdd == u.isOdd then y else -y
  match (cubic x1).sqrt? with
  | some y => (x1, signed y)
  | none =>
    let x2 := t * x1
    (x2, signed ((cubic x2).sqrt?.getD 0))

/-- Carries a point of the isogenous curve to the second curve. The isogeny is the one with the
pole at `6 u - 6`, scaled by a third. -/
def toSecond (point : Fp2 × Fp2) : Point Fp2 :=
  let (x, y) := point
  let pole := x + Fp2.ofInts 6 (-6)
  if pole = 0 then .infinity
  else
    let x2 := x * x
    let x3 := x2 * x
    let top := x3 + Fp2.ofInts 12 (-12) * x2 + Fp2.ofInts 0 (-24) * x + Fp2.ofInts 304 304
    let slope := x3 + Fp2.ofInts 18 (-18) * x2 + Fp2.ofInts 0 (-264) * x + Fp2.ofInts (-752) (-752)
    let inverse := pole⁻¹
    let inverse2 := inverse * inverse
    .affine (top * (Fp2.ofInts 9 0)⁻¹ * inverse2)
      (y * slope * (Fp2.ofInts (-27) 0)⁻¹ * (inverse2 * inverse))

end Isogenous

/-- A multiple of the cofactor of the second curve that is cheap to reach. -/
def cofactor : Nat :=
  0xbc69f08f2ee75b3584c6a0ea91b352888e2a8e9145ad7689986ff031508ffe1329c2f178731db956d82bf015d1212b02ec0ec69d7477c1ae954cbc06689f6a359894c0adebbf6b4e8020005aaa95551

def hashToSecond (message : List UInt8) : Jacobian Fp2 :=
  let tag := signatureDomain.toList.map fun c => UInt8.ofNat c.toNat
  let (u0, u1) := hashToField message tag
  let image (u : Fp2) : Jacobian Fp2 :=
    Jacobian.ofPoint (Isogenous.toSecond (Isogenous.ofField u))
  Jacobian.multiply cofactor ((image u0).add (image u1))

end ValidatorSigner.Bls
