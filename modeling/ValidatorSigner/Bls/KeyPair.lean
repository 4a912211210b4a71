import ValidatorSigner.Bls.HashToCurve
import ValidatorSigner.Bls.Pairing
import ValidatorSigner.FixedBytes
import ValidatorSigner.Text.Blank

/-! # Signing keys

A secret key is a number below the group order, and not zero. Its public key is that multiple of
the generator of the first group; a signature is that multiple of the point of a message.
-/
namespace ValidatorSigner.Bls

structure SecretKey where
  value : Nat
  pos : 0 < value
  lt_order : value < groupOrder

inductive SecretKeyError where
  | hex (fault : Text.Hex.Fault)
  | badEncoding
deriving DecidableEq, Repr

/-- The reason, as it is shown after `Invalid private key: `. -/
def SecretKeyError.reason : SecretKeyError → String
  | .hex fault => fault.message
  | .badEncoding => "BLST_BAD_ENCODING"

namespace SecretKey

def ofNumber (n : Nat) : Except SecretKeyError SecretKey :=
  if h : 0 < n ∧ n < groupOrder then .ok ⟨n, h.1, h.2⟩ else .error .badEncoding

/-- Exactly 32 bytes, most significant first. -/
def ofBytes (bytes : List UInt8) : Except SecretKeyError SecretKey :=
  if bytes.length = 32 then ofNumber (numberOfBytes bytes) else .error .badEncoding

/-- Hexadecimal digits between blanks, after at most one `0x`. -/
def ofHex (text : String) : Except SecretKeyError SecretKey :=
  let digits := Text.dropHexMark (Text.trimBlanks text.toList)
  match Text.Hex.decode (Text.utf8Bytes (String.ofList digits)) with
  | .ok bytes => ofBytes bytes
  | .error fault => .error (.hex fault)

/-- Derives a key from keying material, in a bounded number of rounds. -/
def derive (material salt : List UInt8) : Nat → Except SecretKeyError SecretKey
  | 0 => .error .badEncoding
  | rounds + 1 =>
    let salt := Sha256.digest salt
    let key := Sha256.extract salt (material ++ [0])
    let n := numberOfBytes (Sha256.expand key (bytesOfNumber 2 48) 48) % groupOrder
    -- The first round all but surely reaches a number that is not zero.
    if n = 0 then derive material salt rounds else ofNumber n

/-- A key from at least 32 bytes of keying material. -/
def ofKeyMaterial (material : List UInt8) : Except SecretKeyError SecretKey :=
  if material.length < 32 then .error .badEncoding
  else derive material (Text.utf8Bytes "BLS-SIG-KEYGEN-SALT-") 256

def toBytes (key : SecretKey) : List UInt8 := bytesOfNumber 32 key.value

def toHex (key : SecretKey) : String := String.ofList (Text.Hex.encode key.toBytes)

def publicKey (key : SecretKey) : PublicKey :=
  Point.compressFirst (Jacobian.multiply key.value (Jacobian.ofPoint generator)).toPoint

def sign (key : SecretKey) (message : List UInt8) : Signature :=
  Point.compressSecond (Jacobian.multiply key.value (hashToSecond message)).toPoint

end SecretKey

def verify (publicKey : PublicKey) (message : List UInt8) (signature : Signature) : Bool :=
  match Point.uncompressFirst? publicKey.toList, Point.uncompressSecond? signature.toList with
  | some key, some point =>
    -- Both must be points of their groups, and the key must not be the point at infinity.
    key != .infinity && key.inSubgroup && point.inSubgroup &&
      pairingsAgree generator point key (hashToSecond message).toPoint
  | _, _ => false

end ValidatorSigner.Bls
