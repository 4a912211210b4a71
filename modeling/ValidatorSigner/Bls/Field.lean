/-! # The tower of fields under BLS12-381

The base field has a 381-bit prime order. Above it lie `Fp2 = Fp[u]/(u² + 1)`,
`Fp6 = Fp2[v]/(v³ - ξ)` with `ξ = 1 + u`, and `Fp12 = Fp6[w]/(w² - v)`.
-/
namespace ValidatorSigner.Bls

def fieldOrder : Nat :=
  0x1a0111ea397fe69a4b1ba7b6434bacd764774b84f38512bf6730d2a0f6b0f6241eabfffeb153ffffb9feffffffffaaab

def groupOrder : Nat :=
  0x73eda753299d7d483339d80809a1d80553bda402fffe5bfeffffffff00000001

instance : @NeZero Nat Zero.ofOfNat0 fieldOrder := ⟨by decide⟩

class Arithmetic (F : Type) extends Add F, Sub F, Neg F, Mul F, Zero F, One F, Inv F where
  same : F → F → Bool

/-- `x ^ n` by repeated squaring. -/
@[specialize]
def power {F : Type} [Mul F] [One F] (x : F) (n : Nat) : F :=
  if n = 0 then 1
  else
    let half := power x (n / 2)
    if n % 2 = 0 then half * half else half * half * x
termination_by n

abbrev Fp := Fin fieldOrder

namespace Fp

def ofNat (n : Nat) : Fp := Fin.ofNat fieldOrder n

instance : Zero Fp := ⟨0⟩
instance : One Fp := ⟨1⟩

/-- The inverse, by Fermat's little theorem; the inverse of zero is zero. -/
def inverse (a : Fp) : Fp := power a (fieldOrder - 2)

instance : Inv Fp := ⟨inverse⟩

instance : Arithmetic Fp where
  same a b := decide (a = b)

def sqrt? (a : Fp) : Option Fp :=
  -- The order is 3 modulo 4.
  let root := power a ((fieldOrder + 1) / 4)
  if root * root = a then some root else none

/-- The larger of an element and its negative. -/
def isUpper (a : Fp) : Bool := a.val > (fieldOrder - 1) / 2

end Fp

/-- `re + im · u` with `u² = -1`. -/
structure Fp2 where
  re : Fp
  im : Fp
deriving DecidableEq

namespace Fp2

instance : Zero Fp2 := ⟨⟨0, 0⟩⟩
instance : One Fp2 := ⟨⟨1, 0⟩⟩
instance : Add Fp2 := ⟨fun a b => ⟨a.re + b.re, a.im + b.im⟩⟩
instance : Sub Fp2 := ⟨fun a b => ⟨a.re - b.re, a.im - b.im⟩⟩
instance : Neg Fp2 := ⟨fun a => ⟨-a.re, -a.im⟩⟩

/-- Three base multiplications instead of four. -/
protected def mul (a b : Fp2) : Fp2 :=
  let low := a.re * b.re
  let high := a.im * b.im
  ⟨low - high, (a.re + a.im) * (b.re + b.im) - low - high⟩

instance : Mul Fp2 := ⟨Fp2.mul⟩

/-- The conjugate over the norm. -/
def inverse (a : Fp2) : Fp2 :=
  let scale := (a.re * a.re + a.im * a.im)⁻¹
  ⟨a.re * scale, -(a.im * scale)⟩

instance : Inv Fp2 := ⟨inverse⟩

instance : Arithmetic Fp2 where
  same a b := decide (a = b)

def ofInts (re im : Int) : Fp2 :=
  ⟨Fp.ofNat (re % fieldOrder).toNat, Fp.ofNat (im % fieldOrder).toNat⟩

def scale (a : Fp2) (k : Fp) : Fp2 := ⟨a.re * k, a.im * k⟩

def mulXi (a : Fp2) : Fp2 := ⟨a.re - a.im, a.re + a.im⟩

/-- A square root, if there is one, found through the norm. -/
def sqrt? (a : Fp2) : Option Fp2 :=
  let quarter := power a ((fieldOrder - 3) / 4)
  let character := quarter * quarter * a
  let candidate := quarter * a
  -- The candidate `a ^ ((p + 1) / 4)` is corrected by a power of `1 + a ^ ((p - 1) / 2)`, or by `u`
  -- where that vanishes.
  let root :=
    if character = -1 then ⟨0, 1⟩ * candidate
    else power (1 + character) ((fieldOrder - 1) / 2) * candidate
  if root * root = a then some root else none

/-- Which of an element and its negative is larger: compared by imaginary, then real part. -/
def isUpper (a : Fp2) : Bool :=
  if a.im = 0 then a.re.isUpper else a.im.isUpper

/-- The sign used when a field element picks one of two roots: the parity of the first part that
is not zero. -/
def isOdd (a : Fp2) : Bool :=
  if a.re = 0 then a.im.val % 2 == 1 else a.re.val % 2 == 1

end Fp2

/-- `c0 + c1 · v + c2 · v²` with `v³ = ξ`. -/
structure Fp6 where
  c0 : Fp2
  c1 : Fp2
  c2 : Fp2
deriving DecidableEq

namespace Fp6

instance : Zero Fp6 := ⟨⟨0, 0, 0⟩⟩
instance : One Fp6 := ⟨⟨1, 0, 0⟩⟩
instance : Add Fp6 := ⟨fun a b => ⟨a.c0 + b.c0, a.c1 + b.c1, a.c2 + b.c2⟩⟩
instance : Sub Fp6 := ⟨fun a b => ⟨a.c0 - b.c0, a.c1 - b.c1, a.c2 - b.c2⟩⟩
instance : Neg Fp6 := ⟨fun a => ⟨-a.c0, -a.c1, -a.c2⟩⟩

protected def mul (a b : Fp6) : Fp6 :=
  let t0 := a.c0 * b.c0
  let t1 := a.c1 * b.c1
  let t2 := a.c2 * b.c2
  ⟨t0 + ((a.c1 + a.c2) * (b.c1 + b.c2) - t1 - t2).mulXi,
    (a.c0 + a.c1) * (b.c0 + b.c1) - t0 - t1 + t2.mulXi,
    (a.c0 + a.c2) * (b.c0 + b.c2) - t0 - t2 + t1⟩

instance : Mul Fp6 := ⟨Fp6.mul⟩

def mulV (a : Fp6) : Fp6 := ⟨a.c2.mulXi, a.c0, a.c1⟩

/-- The product of the other two conjugates, over the norm. -/
def inverse (a : Fp6) : Fp6 :=
  let t0 := a.c0 * a.c0 - (a.c1 * a.c2).mulXi
  let t1 := (a.c2 * a.c2).mulXi - a.c0 * a.c1
  let t2 := a.c1 * a.c1 - a.c0 * a.c2
  let scale := (a.c0 * t0 + (a.c2 * t1 + a.c1 * t2).mulXi)⁻¹
  ⟨t0 * scale, t1 * scale, t2 * scale⟩

instance : Inv Fp6 := ⟨inverse⟩

end Fp6

/-- `c0 + c1 · w` with `w² = v`. -/
structure Fp12 where
  c0 : Fp6
  c1 : Fp6
deriving DecidableEq

namespace Fp12

instance : One Fp12 := ⟨⟨1, 0⟩⟩

protected def mul (a b : Fp12) : Fp12 :=
  let low := a.c0 * b.c0
  let high := a.c1 * b.c1
  ⟨low + high.mulV, (a.c0 + a.c1) * (b.c0 + b.c1) - low - high⟩

instance : Mul Fp12 := ⟨Fp12.mul⟩

/-- The conjugate over `Fp6`, which is also the power by the sixth power of the field order. -/
def conjugate (a : Fp12) : Fp12 := ⟨a.c0, -a.c1⟩

def inverse (a : Fp12) : Fp12 :=
  let scale := (a.c0 * a.c0 - (a.c1 * a.c1).mulV)⁻¹
  ⟨a.c0 * scale, -(a.c1 * scale)⟩

instance : Inv Fp12 := ⟨inverse⟩

end Fp12
end ValidatorSigner.Bls
