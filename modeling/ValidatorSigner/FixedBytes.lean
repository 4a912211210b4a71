import ValidatorSigner.Text.Hex
import ValidatorSigner.Text.Utf8

/-! # Roots, public keys and signatures

Three kinds of byte strings have a fixed width: roots, public keys and signatures. The width is
part of the type, and so is the meaning: a root is never taken for a key. All are written as `0x`
and lower-case hexadecimal digits, and ordered byte by byte.
-/
namespace ValidatorSigner

inductive ByteKind where
  | root
  | publicKey
  | signature
deriving DecidableEq, Repr

namespace ByteKind

def width : ByteKind → Nat
  | root => 32
  | publicKey => 48
  | signature => 96

def label : ByteKind → String
  | root => "root"
  | publicKey => "BLS public key"
  | signature => "BLS signature"

def typeName : ByteKind → String
  | root => "Root"
  | publicKey => "BlsPublicKey"
  | signature => "BlsSignature"

end ByteKind

structure FixedBytes (kind : ByteKind) where
  toList : List UInt8
  length_eq : toList.length = kind.width
deriving DecidableEq

/-- A 32-byte hash tree root. -/
abbrev Root := FixedBytes .root
/-- A compressed point of the first BLS12-381 group. -/
abbrev PublicKey := FixedBytes .publicKey
/-- A compressed point of the second BLS12-381 group. -/
abbrev Signature := FixedBytes .signature

inductive BytesError where
  | length (kind : ByteKind) (found : Nat)
  | hex (kind : ByteKind) (fault : Text.Hex.Fault)
deriving DecidableEq, Repr

def BytesError.message : BytesError → String
  | .length kind found =>
    s!"Invalid length for {kind.label}: expected {kind.width} bytes, got {found}"
  | .hex kind fault => s!"Invalid hex for {kind.label}: {fault.message}"

namespace FixedBytes

variable {kind : ByteKind}

@[ext]
theorem ext {a b : FixedBytes kind} (h : a.toList = b.toList) : a = b := by
  cases a
  cases b
  simp_all

def ofBytes (kind : ByteKind) (bytes : List UInt8) : Except BytesError (FixedBytes kind) :=
  if h : bytes.length = kind.width then .ok ⟨bytes, h⟩
  else .error (.length kind bytes.length)

def replicate (kind : ByteKind) (byte : UInt8) : FixedBytes kind :=
  ⟨List.replicate kind.width byte, List.length_replicate⟩

/-- Reads hexadecimal digits of either case, after at most one leading `0x`. -/
def ofHex (kind : ByteKind) (text : String) : Except BytesError (FixedBytes kind) :=
  let digits := Text.utf8Bytes (String.ofList (Text.dropHexMark text.toList))
  match Text.Hex.decode digits with
  | .ok bytes => ofBytes kind bytes
  | .error fault => .error (.hex kind fault)

def ofText (kind : ByteKind) (text : String) : Except BytesError (FixedBytes kind) := ofHex kind text

def toBareHex (value : FixedBytes kind) : String :=
  String.ofList (Text.Hex.encode value.toList)

/-- The written form: `0x` and lower-case digits. -/
def toHex (value : FixedBytes kind) : String :=
  String.ofList ('0' :: 'x' :: Text.Hex.encode value.toList)

/-- The diagnostic form: the name of the kind around the written form. -/
def describe (value : FixedBytes kind) : String :=
  kind.typeName ++ "(" ++ value.toHex ++ ")"

instance : LT (FixedBytes kind) := ⟨fun a b => a.toList < b.toList⟩

instance (a b : FixedBytes kind) : Decidable (a < b) :=
  inferInstanceAs (Decidable (a.toList < b.toList))

/-- Ascending order, equal values kept. -/
def sort (values : List (FixedBytes kind)) : List (FixedBytes kind) :=
  values.mergeSort fun a b => !decide (b < a)

end FixedBytes
end ValidatorSigner
