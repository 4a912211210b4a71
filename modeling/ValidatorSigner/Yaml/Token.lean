/-! # Tokens of YAML documents

A document is first cut into tokens. Indentation is turned into explicit beginnings and ends of
blocks, so that the grammar over tokens is free of columns.
-/
namespace ValidatorSigner.Yaml

/-- How a scalar was written. Only the plain style leaves the type of the value open. -/
inductive ScalarStyle where
  | plain
  | singleQuoted
  | doubleQuoted
  | literal
  | folded
deriving DecidableEq, Repr

/-- A tag. It is made of bytes, since numbers behind percent signs may spell out what is no text. -/
abbrev Tag := List UInt8

inductive Token where
  | versionDirective (major minor : Nat)
  | tagDirective (handle : String) (lead : Tag)
  | documentStart
  | documentEnd
  | blockSequenceStart
  | blockMappingStart
  | blockEnd
  | flowSequenceStart
  | flowSequenceEnd
  | flowMappingStart
  | flowMappingEnd
  | flowEntry
  | blockEntry
  | key
  | value
  | anchor (name : String)
  | reference (name : String)
  | tag (handle : String) (suffix : Tag)
  | scalar (style : ScalarStyle) (text : String)
deriving DecidableEq, Repr

/-- Why a text is no document. The causes are told apart for diagnosis only. -/
inductive Fault where
  | character
  | directive
  | indentation
  | unexpectedBlockEntry
  | unexpectedKey
  | unexpectedValue
  | missingValueMark
  | name
  | tag
  | blockHeader
  | unclosedQuote
  | escape
  | indicatorInQuote
  | plainText
  | grammar
  | undefinedHandle
  | undefinedAnchor
  | tooManyReferences
  | tooDeep
  | value
deriving DecidableEq, Repr

def isBreak (c : Char) : Bool :=
  c == '\n' || c == '\r' || c == '\u0085' || c == '\u2028' || c == '\u2029'

def isSpace (c : Char) : Bool := c == ' ' || c == '\t'

def endsWord : List Char → Bool
  | [] => true
  | c :: _ => isSpace c || isBreak c

def endsLine : List Char → Bool
  | [] => true
  | c :: _ => isBreak c

def isNameChar (c : Char) : Bool :=
  ('0' ≤ c && c ≤ '9') || ('A' ≤ c && c ≤ 'Z') || ('a' ≤ c && c ≤ 'z') || c == '_' || c == '-'

def isAllowed (c : Char) : Bool :=
  let n := c.toNat
  n == 9 || n == 10 || n == 13 || (0x20 ≤ n && n ≤ 0x7e) || n == 0x85 ||
    (0xa0 ≤ n && n ≤ 0xd7ff) || (0xe000 ≤ n && n ≤ 0xfffd) || 0x10000 ≤ n

end ValidatorSigner.Yaml
