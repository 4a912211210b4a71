import ValidatorSigner.Text.Decimal
import ValidatorSigner.Yaml.Document

/-! # The types of plain scalars

A scalar without quotes is null, a truth value, an integer, a number with a fraction, or else a
text. Which of them it is depends on its characters alone.
-/
namespace ValidatorSigner.Yaml

/-- A value of a document. Of fractional numbers only their presence matters. -/
inductive Value where
  | null
  | boolean (value : Bool)
  | natural (value : Nat)
  | negative (magnitude : Nat)
  | fractional
  | text (value : String)
  | sequence (items : List Value)
  | mapping (entries : List (Value × Value))
deriving Repr

def numeral? (base : Nat) : List Char → Option Nat
  | [] => none
  | chars => chars.foldlM (fun n c => ((hexDigit? c).filter (· < base)).map (base * n + ·)) 0

/-- Digits that begin with a zero and go on. Such a text is no decimal number. -/
def hasLeadingZero : List Char → Bool
  | '0' :: c :: rest => (c :: rest).all Char.isDigit
  | _ => false

def magnitude? : List Char → Option Nat
  | '0' :: 'x' :: digits => numeral? 16 digits
  | '0' :: 'o' :: digits => numeral? 8 digits
  | '0' :: 'b' :: digits => numeral? 2 digits
  | digits => if hasLeadingZero digits then none else numeral? 10 digits

inductive IntegerReading where
  /-- The text is no integer, or one beyond 128 bits. -/
  | none
  /-- An integer beyond 64 bits. -/
  | tooWide
  | value (value : Value)

def readInteger : List Char → IntegerReading
  | '-' :: rest =>
    match magnitude? rest with
    | some n =>
      if n ≤ 1 <<< 63 then .value (.negative n)
      else if n ≤ 1 <<< 127 then .tooWide else .none
    | none => .none
  | chars =>
    let digits := match chars with
      | '+' :: rest => rest
      | _ => chars
    match magnitude? digits with
    | some n =>
      if n < 1 <<< 64 then .value (.natural n)
      else if n < 1 <<< 128 then .tooWide else .none
    | none => .none

/-- Whether a number is nearer to a double than to infinity. -/
def isFinite (number : Text.Decimal) : Bool :=
  let size : Int := if number.digits = 0 then 0 else (Nat.toDigits 10 number.digits).length
  -- The first two tests keep the powers small.
  if number.digits = 0 ∨ size + number.exponent ≤ 308 then true
  else if 310 ≤ size + number.exponent then false
  else number.compareBinary (1 <<< 54 - 1) 970 == .lt

/-- Whether a text is a number with a fraction, an infinity, or no number by name. -/
def isFractional (chars : List Char) : Bool :=
  let (signed, digits) := match chars with
    | '+' :: rest => (true, rest)
    | '-' :: rest => (true, rest)
    | _ => (false, chars)
  let name := String.ofList digits
  name = ".inf" || name = ".Inf" || name = ".INF" ||
    (!signed && (name = ".nan" || name = ".NaN" || name = ".NAN")) ||
    (match Text.Decimal.read? digits with
      | some number => isFinite number
      | none => false)

/-- The spellings of null; nothing at all is one of them, but only for a plain scalar. -/
def isNull (text : String) : Bool :=
  text = "null" || text = "Null" || text = "NULL" || text = "~"

def boolean? (text : String) : Option Bool :=
  if text = "true" ∨ text = "True" ∨ text = "TRUE" then some true
  else if text = "false" ∨ text = "False" ∨ text = "FALSE" then some false
  else none

def Value.ofPlain (text : String) : Except Fault Value :=
  if text = "" ∨ isNull text then .ok .null
  else match boolean? text with
    | some b => .ok (.boolean b)
    | none =>
      match readInteger text.toList with
      | .value v => .ok v
      -- Integers beyond 64 bits are neither numbers nor texts.
      | .tooWide => .error .value
      | .none =>
        let chars := text.toList
        let digits := match chars with
          | '+' :: rest => rest
          | '-' :: rest => rest
          | _ => chars
        if !hasLeadingZero digits && isFractional chars then .ok .fractional
        else .ok (.text text)

/-- Types that a tag can demand of a scalar. -/
inductive ScalarType where
  | boolean
  | integer
  | fractional
  | null
deriving DecidableEq, Repr

def ScalarType.suffix : ScalarType → String
  | boolean => "bool"
  | integer => "int"
  | fractional => "float"
  | null => "null"

namespace Tag

def isMarked (tag : Tag) : Bool := tag.head? = some 33

/-- Whether the tag is one of one's own, with a name that can be read. -/
def isLocal (tag : Tag) : Bool := tag.isMarked && (Text.ofUtf8? tag).isSome

def type? (tag : Tag) : Option ScalarType :=
  [.boolean, .integer, .fractional, .null].find? fun type =>
    tag = Text.utf8Bytes ("tag:yaml.org,2002:" ++ type.suffix)

end Tag

def Value.ofTyped (type : ScalarType) (text : String) : Except Fault Value :=
  match type with
  | .boolean =>
    match boolean? text with
    | some b => .ok (.boolean b)
    | none => .error .value
  | .integer =>
    match readInteger text.toList with
    | .value v => .ok v
    | _ => .error .value
  | .fractional => if isFractional text.toList then .ok .fractional else .error .value
  | .null => if isNull text then .ok .null else .error .value

def Value.ofScalar (tag : Option Tag) (style : ScalarStyle) (text : String) :
    Except Fault Value :=
  match tag.bind Tag.type? with
  -- Some tags demand a type, whatever the style of the scalar.
  | some type => ofTyped type text
  | none =>
    -- On a plain scalar a marked tag is left out of account; any other one makes a text of it.
    if style = .plain ∧ (tag.map Tag.isMarked).getD true then ofPlain text else .ok (.text text)

end ValidatorSigner.Yaml
