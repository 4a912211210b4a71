import ValidatorSigner.Bls.Curve

/-! # The pairing

The pairing sends a point of each group to `Fp12`. It is computed up to a power as a product of
lines along the multiples of the second point, taken in the coordinates of the second curve; only
whether a product of two pairings is one is asked.
-/
namespace ValidatorSigner.Bls

/-- The size of the curve parameter, which is negative. -/
def loopCount : Nat := 0xd201000000010000

/-- The line with slope `slope` through the point `(x, y)` of the second curve, at the point
`(px, py)` of the first one, scaled by `w³`. -/
def lineAt (slope x y : Fp2) (px py : Fp) : Fp12 :=
  ⟨⟨slope * x - y, -(slope.scale px), 0⟩, ⟨0, ⟨py, 0⟩, 0⟩⟩

/-- A multiple of the second point beside the product of lines so far. -/
structure LineProduct where
  x : Fp2
  y : Fp2
  value : Fp12

/-- The chord or tangent with the given slope ends at the negative of the sum. -/
def LineProduct.follow (state : LineProduct) (slope x : Fp2) (px py : Fp) (value : Fp12) :
    LineProduct :=
  let x3 := slope * slope - state.x - x
  ⟨x3, slope * (state.x - x3) - state.y, value * lineAt slope state.x state.y px py⟩

def LineProduct.double (state : LineProduct) (px py : Fp) : LineProduct :=
  let xx := state.x * state.x
  let slope := (xx + xx + xx) * (state.y + state.y)⁻¹
  state.follow slope state.x px py (state.value * state.value)

def LineProduct.add (state : LineProduct) (x y : Fp2) (px py : Fp) : LineProduct :=
  let slope := (state.y - y) * (state.x - x)⁻¹
  state.follow slope x px py state.value

def lineProduct (x y : Fp2) (px py : Fp) (n : Nat) : LineProduct :=
  if n ≤ 1 then ⟨x, y, 1⟩
  else
    let half := (lineProduct x y px py (n / 2)).double px py
    if n % 2 = 0 then half else half.add x y px py
termination_by n

def millerLoop : Point Fp → Point Fp2 → Fp12
  | .affine px py, .affine x y => (lineProduct x y px py loopCount).value.conjugate
  -- A point at infinity contributes nothing.
  | _, _ => 1

/-- The power that makes pairings unique: `p¹² - 1` over the group order, in three factors. -/
def finalPower (a : Fp12) : Fp12 :=
  let b := a.conjugate * a⁻¹
  let c := power b (Nat.pow fieldOrder 2) * b
  power c ((Nat.pow fieldOrder 4 - Nat.pow fieldOrder 2 + 1) / groupOrder)

def pairingsAgree (p1 : Point Fp) (q1 : Point Fp2) (p2 : Point Fp) (q2 : Point Fp2) : Bool :=
  -- The quotient of the pairings has to be one.
  let negated := match p1 with
    | .infinity => .infinity
    | .affine x y => .affine x (-y)
  finalPower (millerLoop negated q1 * millerLoop p2 q2) = 1

end ValidatorSigner.Bls
