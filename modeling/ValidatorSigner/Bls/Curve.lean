import ValidatorSigner.Bls.Field

/-! # Points on the two curves

Both pairing groups lie on curves `y² = x³ + b`: the first over `Fp` with `b = 4`, the second over
`Fp2` with `b = 4 (1 + u)`. Sums are taken in Jacobian coordinates, where a point `(x, y)` is any
`(x z², y z³, z)` and the point at infinity has `z = 0`.
-/
namespace ValidatorSigner.Bls

inductive Point (F : Type) where
  | infinity
  | affine (x y : F)
deriving DecidableEq

structure Jacobian (F : Type) where
  x : F
  y : F
  z : F

namespace Jacobian

variable {F : Type} [Arithmetic F]

@[specialize]
def infinity : Jacobian F := ⟨1, 1, 0⟩

@[specialize]
def isInfinity (a : Jacobian F) : Bool := Arithmetic.same a.z 0

@[specialize]
def ofPoint : Point F → Jacobian F
  | .infinity => infinity
  | .affine x y => ⟨x, y, 1⟩

@[specialize]
def toPoint (a : Jacobian F) : Point F :=
  if a.isInfinity then .infinity
  else
    let inverse := a.z⁻¹
    let square := inverse * inverse
    .affine (a.x * square) (a.y * (square * inverse))

@[specialize]
def double (a : Jacobian F) : Jacobian F :=
  let xx := a.x * a.x
  let yy := a.y * a.y
  let yyyy := yy * yy
  let t := a.x + yy
  let s := t * t - xx - yyyy
  let d := s + s
  let e := xx + xx + xx
  let x := e * e - (d + d)
  let eight := yyyy + yyyy
  let eight := eight + eight
  let z := a.y * a.z
  ⟨x, e * (d - x) - (eight + eight), z + z⟩

@[specialize]
def add (a b : Jacobian F) : Jacobian F :=
  if a.isInfinity then b
  else if b.isInfinity then a
  else
    let za := a.z * a.z
    let zb := b.z * b.z
    let ua := a.x * zb
    let ub := b.x * za
    let sa := a.y * (b.z * zb)
    let sb := b.y * (a.z * za)
    if Arithmetic.same ua ub then
      if Arithmetic.same sa sb then a.double else infinity
    else
      let h := ub - ua
      let r := sb - sa
      let hh := h * h
      let hhh := h * hh
      let v := ua * hh
      let x := r * r - hhh - (v + v)
      ⟨x, r * (v - x) - sa * hhh, a.z * b.z * h⟩

@[specialize]
def multiply (n : Nat) (a : Jacobian F) : Jacobian F :=
  if n = 0 then infinity
  else
    let half := (multiply (n / 2) a).double
    if n % 2 = 0 then half else half.add a
termination_by n

end Jacobian

namespace Point

/-- Whether the `groupOrder`-fold sum vanishes. -/
@[specialize]
def inSubgroup {F : Type} [Arithmetic F] (point : Point F) : Bool :=
  (Jacobian.multiply groupOrder (Jacobian.ofPoint point)).isInfinity

end Point

def curveConstant : Fp := 4

def twistConstant : Fp2 := ⟨4, 4⟩

def generator : Point Fp :=
  .affine
    (Fp.ofNat 0x17f1d3a73197d7942695638c4fa9ac0fc3688c4f9774b905a14e3a3f171bac586c55e83ff97a1aeffb3af00adb22c6bb)
    (Fp.ofNat 0x08b3f481e3aaa0f1a09e30ed741d8ae4fcf5e095d5d00af600db18cb2c04b3edd03cc744a2888ae40caa232946c5e7e1)

end ValidatorSigner.Bls
