import ValidatorSigner.Text.Hex

/-! # Percent signs

A byte may be written as a percent sign and two hexadecimal digits.
-/
namespace ValidatorSigner.Text.Percent

def octet? (high low : UInt8) : Option UInt8 := do
  return UInt8.ofNat (16 * (← Hex.digitValue? high) + (← Hex.digitValue? low))

def decode : List UInt8 → List UInt8
  | 37 :: high :: low :: rest =>
    match octet? high low with
    | some byte => byte :: decode rest
    -- A percent sign without two digits behind it stays.
    | none => 37 :: decode (high :: low :: rest)
  | byte :: rest => byte :: decode rest
  | [] => []

end ValidatorSigner.Text.Percent
