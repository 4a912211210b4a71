/-! # Texts as bytes

Hexadecimal readers and message digests look at a text through its UTF-8 bytes. Bytes that are no
text are cut into characters and pieces of which nothing could become a character: a piece is as
long as its bytes begin one. A strict reader names the first such piece, and a lenient one puts a
replacement sign in the place of each.
-/
namespace ValidatorSigner.Text

def utf8Bytes (text : String) : List UInt8 :=
  text.toList.flatMap String.utf8EncodeChar

def ofUtf8? (bytes : List UInt8) : Option String :=
  String.fromUTF8? (ByteArray.mk bytes.toArray)

inductive Completeness where
  | whole
  /-- The next byte cannot follow, or the first one begins no character. -/
  | broken
  /-- The bytes end before the character does. -/
  | unfinished
deriving DecidableEq, Repr

/-- How many bytes follow the first byte of a character, and between which bytes the first of them
lies. -/
def successors? (first : UInt8) : Option (Nat × UInt8 × UInt8) :=
  if first < 0x80 then some (0, 0x80, 0xbf)
  else if first < 0xc2 then none
  else if first < 0xe0 then some (1, 0x80, 0xbf)
  else if first = 0xe0 then some (2, 0xa0, 0xbf)
  else if first = 0xed then some (2, 0x80, 0x9f)
  else if first < 0xf0 then some (2, 0x80, 0xbf)
  else if first = 0xf0 then some (3, 0x90, 0xbf)
  else if first < 0xf4 then some (3, 0x80, 0xbf)
  else if first = 0xf4 then some (3, 0x80, 0x8f)
  else none

/-- How many of the bytes complete a character that lacks some, and whether they do. -/
def completion : Nat → UInt8 → UInt8 → List UInt8 → Completeness × Nat
  | 0, _, _, _ => (.whole, 0)
  | _ + 1, _, _, [] => (.unfinished, 0)
  | lacking + 1, low, high, byte :: rest =>
    if low ≤ byte ∧ byte ≤ high then
      let (result, taken) := completion lacking 0x80 0xbf rest
      (result, taken + 1)
    else (.broken, 0)

structure Utf8Piece where
  completeness : Completeness
  bytes : List UInt8
deriving DecidableEq, Repr

/-- Cuts bytes into characters and pieces that are none. -/
def utf8Pieces : List UInt8 → List Utf8Piece
  | [] => []
  | first :: rest =>
    let (completeness, taken) :=
      match successors? first with
      | some (lacking, low, high) => completion lacking low high rest
      | none => (.broken, 0)
    ⟨completeness, first :: rest.take taken⟩ :: utf8Pieces (rest.drop taken)
termination_by bytes => bytes.length

/-- Bytes as text, with a replacement sign for each piece that is no character. -/
def lenientText (bytes : List UInt8) : String :=
  String.join ((utf8Pieces bytes).map fun piece => (ofUtf8? piece.bytes).getD "\ufffd")

inductive Utf8Error where
  | invalid (length index : Nat)
  | incomplete (index : Nat)
deriving DecidableEq, Repr

def Utf8Error.message : Utf8Error → String
  | invalid length index => s!"invalid utf-8 sequence of {length} bytes from index {index}"
  | incomplete index => s!"incomplete utf-8 byte sequence from index {index}"

def firstFault? (index : Nat) : List Utf8Piece → Option Utf8Error
  | [] => none
  | piece :: rest =>
    match piece.completeness with
    | .whole => firstFault? (index + piece.bytes.length) rest
    | .broken => some (.invalid piece.bytes.length index)
    | .unfinished => some (.incomplete index)

def readUtf8 (bytes : List UInt8) : Except Utf8Error String :=
  match firstFault? 0 (utf8Pieces bytes) with
  | some fault => .error fault
  | none => .ok (lenientText bytes)

def dropHexMark : List Char → List Char
  | '0' :: 'x' :: rest => rest
  | chars => chars

end ValidatorSigner.Text
