import ValidatorSigner.Text.Blank
import ValidatorSigner.Text.Hex
import ValidatorSigner.Text.Letters

/-! # Patterns of field values

A filter may demand that the value of a field matches a pattern. Filters are only read here, so of
a pattern nothing matters but whether it can be used: it has to follow the grammar of regular
expressions, it must not nest too deeply, and it must not need tables of characters, which are not
at hand. Without those tables there is no case folding beyond ASCII, no shorthand for classes like
that of all digits, no property of characters and no boundary of words, unless the pattern says
that it works on bytes.

A pattern stands between braces. It cannot hold the closing one, so an opening brace, which would
need it, is an error everywhere but in sets.
-/
namespace ValidatorSigner.Telemetry

inductive Flag where
  | ignoreCase
  | multiLine
  | dotMatchesNewline
  | swapGreed
  | unicode
  | crlf
  /-- Blanks and comments may stand between the parts of the pattern. -/
  | freeSpacing
deriving DecidableEq, Repr

def Flag.ofLetter? : Char → Option Flag
  | 'i' => some ignoreCase
  | 'm' => some multiLine
  | 's' => some dotMatchesNewline
  | 'U' => some swapGreed
  | 'u' => some unicode
  | 'R' => some crlf
  | 'x' => some freeSpacing
  | _ => none

structure FlagChange where
  on : List Flag := []
  off : List Flag := []
deriving Repr

namespace FlagChange

def apply (change : FlagChange) (flag : Flag) (before : Bool) : Bool :=
  (before || change.on.contains flag) && !change.off.contains flag

/-- Reads switches: those that are turned on, and behind a dash those that are turned off. None may
be named twice, and something has to follow the dash. -/
def read? (letters : List Char) : Option FlagChange := do
  let on := letters.takeWhile (· ≠ '-')
  let rest := letters.drop on.length
  if rest = ['-'] then none
  else
    let on ← on.mapM Flag.ofLetter?
    let off ← (rest.drop 1).mapM Flag.ofLetter?
    if (on ++ off).Nodup then some { on, off } else none

end FlagChange

structure PatternChar where
  char : Char
  /-- Whether it was written as a byte, by two hexadecimal digits. -/
  isByte : Bool := false
deriving DecidableEq, Repr

inductive CharSet where
  | empty
  | char (c : PatternChar)
  | range (first last : PatternChar)
  /-- An ASCII class by name, like that of all letters. -/
  | named (negated : Bool)
  /-- A class by a letter, like that of all digits. -/
  | shorthand (negated : Bool)
  | union (parts : List CharSet)
  /-- What two sets have in common, or in which they differ. -/
  | operation (left right : CharSet)
  | bracketed (negated : Bool) (content : CharSet)
deriving Repr

inductive Pattern where
  | empty
  | flags (change : FlagChange)
  | char (c : PatternChar)
  | anyChar
  | anchor
  | wordBoundary
  | set (s : CharSet)
  | repetition (body : Pattern)
  | group (change : FlagChange) (body : Pattern)
  | alternation (branches : List Pattern)
  | concatenation (parts : List Pattern)
deriving Repr

namespace CharSet

def ofParts : List CharSet → CharSet
  | [] => empty
  | [part] => part
  | parts => union parts

mutual

def depth : CharSet → Nat
  | bracketed _ content => 1 + content.depth
  | union parts => 1 + depthOfParts parts
  | operation left right => 1 + max left.depth right.depth
  | _ => 0

def depthOfParts : List CharSet → Nat
  | [] => 0
  | part :: rest => max part.depth (depthOfParts rest)

end

end CharSet

namespace Pattern

def ofParts : List Pattern → Pattern
  | [] => empty
  | [part] => part
  | parts => concatenation parts

def ofBranches : List Pattern → Pattern
  | [] => empty
  | [branch] => branch
  | branches => alternation branches

mutual

def depth : Pattern → Nat
  | set s => s.depth
  | repetition body => 1 + body.depth
  | group _ body => 1 + body.depth
  | alternation branches => 1 + depthOfParts branches
  | concatenation parts => 1 + depthOfParts parts
  | _ => 0

def depthOfParts : List Pattern → Nat
  | [] => 0
  | part :: rest => max part.depth (depthOfParts rest)

end

def isRepeatable : Pattern → Bool
  | empty | flags _ => false
  | _ => true

end Pattern

structure PatternMode where
  ignoreCase : Bool := false
  unicode : Bool := true

namespace PatternMode

def apply (mode : PatternMode) (change : FlagChange) : PatternMode :=
  ⟨change.apply .ignoreCase mode.ignoreCase, change.apply .unicode mode.unicode⟩

def allowsChar (mode : PatternMode) (c : PatternChar) : Bool :=
  -- To ignore the case of a character a table is needed. A byte has to be a character by itself.
  if mode.unicode then !mode.ignoreCase else !c.isByte || c.char.toNat < 128

/-- Whether a character works in a set. Sets of bytes hold ASCII characters only. -/
def allowsMember (mode : PatternMode) (c : PatternChar) : Bool :=
  if mode.unicode then !mode.ignoreCase else c.char.toNat < 128

mutual

def allowsSet (mode : PatternMode) : CharSet → Bool
  | .empty => true
  | .char c => mode.allowsMember c
  | .range first last => mode.allowsMember first && mode.allowsMember last
  | .named negated => if mode.unicode then !mode.ignoreCase else !negated
  | .shorthand negated => !mode.unicode && !negated
  | .union parts => mode.allowsSets parts
  | .operation left right => mode.allowsSet left && mode.allowsSet right
  -- The negation of a set of bytes would match parts of characters.
  | .bracketed negated content => (mode.unicode || !negated) && mode.allowsSet content

def allowsSets (mode : PatternMode) : List CharSet → Bool
  | [] => true
  | part :: rest => mode.allowsSet part && mode.allowsSets rest

end

mutual

/-- The mode behind a pattern; none if the pattern does not work. -/
def pass? (mode : PatternMode) : Pattern → Option PatternMode
  | .empty | .anchor => some mode
  | .flags change => some (mode.apply change)
  | .char c => if mode.allowsChar c then some mode else none
  | .anyChar => if mode.unicode then some mode else none
  | .wordBoundary => if mode.unicode then none else some mode
  | .set s => if mode.allowsSet s then some mode else none
  | .repetition body => mode.pass? body
  -- Switches hold up to the end of the group in which they are set.
  | .group change body => ((mode.apply change).pass? body).map fun _ => mode
  | .alternation branches => mode.passAll? branches
  | .concatenation parts => mode.passAll? parts

def passAll? (mode : PatternMode) : List Pattern → Option PatternMode
  | [] => some mode
  | part :: rest => (mode.pass? part).bind fun mode => mode.passAll? rest

end

end PatternMode

structure PatternText where
  rest : List Char
  freeSpacing : Bool := false
  /-- The names of groups so far. -/
  names : List (List Char) := []

abbrev PatternReading := StateT PatternText Option

namespace PatternReading

/-- Drops blanks and comments. A comment goes to the end of its line. -/
def dropSpacing (comment : Bool) : List Char → List Char
  | [] => []
  | c :: rest =>
    if comment then dropSpacing (c ≠ '\n') rest
    else if Text.isBlank c then dropSpacing false rest
    else if c = '#' then dropSpacing true rest
    else c :: rest

def space : PatternReading Unit :=
  modify fun s => if s.freeSpacing then { s with rest := dropSpacing false s.rest } else s

def peek : PatternReading Char := do
  match (← get).rest with
  | c :: _ => return c
  | [] => failure

def skip (n : Nat) : PatternReading Unit := modify fun s => { s with rest := s.rest.drop n }

def skipSpaced : PatternReading Unit := do
  skip 1
  space

def accept (text : String) : PatternReading Bool := do
  if text.toList.isPrefixOf (← get).rest then
    skip text.length
    return true
  else return false

/-- The character behind the next one, blanks left out. -/
def peekBehind : PatternReading (Option Char) := do
  let s ← get
  let rest := s.rest.drop 1
  if !s.freeSpacing then return rest.head?
  else
    match rest.dropWhile Text.isBlank with
    | '#' :: more => return (more.dropWhile Text.isBlank).head?.or rest.head?
    | [] => return rest.head?
    | c :: _ => return c

inductive Escaped where
  | char (c : PatternChar)
  | shorthand (negated : Bool)
  | anchor
  | wordBoundary

def hexDigits : Nat → Nat → PatternReading Nat
  | 0, value => return value
  | n + 1, value => do
    let c ← peek
    let byte := if c.toNat < 128 then UInt8.ofNat c.toNat else 0
    let digit ← (Text.Hex.digitValue? byte : Option Nat)
    skipSpaced
    hexDigits n (16 * value + digit)

def charByNumber (digits : Nat) : PatternReading Escaped := do
  skipSpaced
  let value ← hexDigits digits 0
  if value.isValidChar then return .char ⟨Char.ofNat value, digits = 2⟩ else failure

/-- The character without a form that a letter stands for behind a backslash. -/
def controlChar? : Char → Option Char
  | 'a' => some '\x07'
  | 'f' => some '\x0c'
  | 't' => some '\t'
  | 'n' => some '\n'
  | 'r' => some '\r'
  | 'v' => some '\x0b'
  | _ => none

/-- Reads what follows a backslash. References to groups and properties of characters are not
supported. -/
def escaped : PatternReading Escaped := do
  skip 1
  let c ← peek
  match c with
  | 'x' => charByNumber 2
  | 'u' => charByNumber 4
  | 'U' => charByNumber 8
  | _ =>
    skip 1
    if "dsw".toList.contains c then return .shorthand false
    else if "DSW".toList.contains c then return .shorthand true
    else if c = 'A' ∨ c = 'z' then return .anchor
    else if c = 'b' ∨ c = 'B' ∨ c = '<' ∨ c = '>' then return .wordBoundary
    else if let some control := controlChar? c then return .char ⟨control, false⟩
    -- Signs stand for themselves; a letter that means nothing is an error.
    else if c.toNat < 128 ∧ !c.isAlphanum then return .char ⟨c, false⟩
    else failure

def member : PatternReading Escaped := do
  let c ← peek
  if c = '\\' then escaped
  else
    skip 1
    return .char ⟨c, false⟩

/-- A member of a set, or a range of characters, which must not descend. -/
def memberOrRange : PatternReading CharSet := do
  let first ← member
  space
  let next ← peek
  let behind ← peekBehind
  if next ≠ '-' ∨ behind = some ']' ∨ behind = some '-' then
    match first with
    | .char c => return .char c
    | .shorthand negated => return .shorthand negated
    | _ => failure
  else
    skipSpaced
    match first, ← member with
    | .char first, .char last => if first.char ≤ last.char then return .range first last else failure
    | _, _ => failure

def classNames : List String :=
  ["alnum", "alpha", "ascii", "blank", "cntrl", "digit", "graph", "lower", "print", "punct",
    "space", "upper", "word", "xdigit"]

def named? : List Char → Option (Bool × List Char)
  | '[' :: ':' :: rest =>
    let (negated, rest) := match rest with
      | '^' :: rest => (true, rest)
      | _ => (false, rest)
    let name := rest.takeWhile (· ≠ ':')
    match rest.drop name.length with
    | ':' :: ']' :: rest =>
      if classNames.contains (String.ofList name) then some (negated, rest) else none
    | _ => none
  | _ => none

/-- Dashes at the beginning of a set, which stand for themselves. -/
def leadingDashes : Nat → PatternReading (List CharSet)
  | 0 => return []
  | rounds + 1 => do
    if (← peek) ≠ '-' then return []
    else
      skipSpaced
      return .char ⟨'-', false⟩ :: (← leadingDashes rounds)

/-- The beginning of a set: whether it is negated, and the signs that stand for themselves there. -/
def setOpening : PatternReading (Bool × List CharSet) := do
  skipSpaced
  let negated := (← peek) = '^'
  if negated then skipSpaced
  let dashes ← leadingDashes (← get).rest.length
  if dashes = [] ∧ (← peek) = ']' then
    skipSpaced
    return (negated, [.char ⟨']', false⟩])
  else return (negated, dashes)

/-- The content of a set: its last parts, together with what stands before the last operation. -/
def joinParts (left : Option CharSet) (parts : List CharSet) : CharSet :=
  match left with
  | none => .ofParts parts
  | some left => .operation left (.ofParts parts)

/-- Reads a set up to its closing bracket. Each round takes a character at least. -/
def setContent (left : Option CharSet) (parts : List CharSet) : Nat → PatternReading CharSet
  | 0 => failure
  | rounds + 1 => do
    space
    let s ← get
    match s.rest with
    | [] => failure
    | ']' :: _ =>
      skip 1
      return joinParts left parts
    | '&' :: '&' :: _ | '-' :: '-' :: _ | '~' :: '~' :: _ =>
      skip 2
      setContent (some (joinParts left parts)) [] rounds
    | '[' :: _ =>
      match named? s.rest with
      | some (negated, rest) =>
        set { s with rest }
        setContent left (parts ++ [.named negated]) rounds
      | none =>
        let (negated, opening) ← setOpening
        let content ← setContent none opening rounds
        setContent left (parts ++ [.bracketed negated content]) rounds
    | _ =>
      let part ← memberOrRange
      setContent left (parts ++ [part]) rounds

def bracketedSet (rounds : Nat) : PatternReading CharSet := do
  let (negated, opening) ← setOpening
  return .bracketed negated (← setContent none opening rounds)

def isNameRest (c : Char) : Bool :=
  c = '_' || c = '.' || c = '[' || c = ']' || Text.isLetterOrNumber c

def groupName : PatternReading Unit := do
  let s ← get
  let name := s.rest.takeWhile (· ≠ '>')
  skip name.length
  discard peek
  skip 1
  match name with
  | [] => failure
  | c :: more =>
    if (c = '_' || Text.isLetter c) && more.all isNameRest && !s.names.contains name then
      modify fun s => { s with names := name :: s.names }
    else failure

/-- Switches behind a question mark. The second part tells whether they stand alone. -/
def switches : PatternReading (FlagChange × Bool) := do
  let letters := (← get).rest.takeWhile fun c => c ≠ ':' && c ≠ ')'
  skip letters.length
  let alone := (← peek) = ')'
  skip 1
  if alone ∧ letters = [] then failure
  else
    let change ← FlagChange.read? letters
    return (change, alone)

/-- What stands behind an opening parenthesis: the switches of a group, or switches alone. -/
def groupOpening : PatternReading (FlagChange × Bool) := do
  let rest := (← get).rest
  -- Groups that look around are not supported.
  if ["?=", "?!", "?<=", "?<!"].any fun mark => mark.toList.isPrefixOf rest then failure
  if ← accept "?P<" then
    groupName
    return ({}, false)
  if ← accept "?<" then
    groupName
    return ({}, false)
  if ← accept "?" then switches
  else return ({}, false)

def Escaped.pattern : Escaped → Pattern
  | char c => .char c
  | shorthand negated => .set (.shorthand negated)
  | anchor => .anchor
  | wordBoundary => .wordBoundary

def simplePart : PatternReading Pattern := do
  let c ← peek
  if c = '\\' then return (← escaped).pattern
  else
    skip 1
    if c = '.' then return .anyChar
    else if c = '^' ∨ c = '$' then return .anchor
    else return .char ⟨c, false⟩

/-- Reads a pattern up to its end, or to the end of the group around it. Each round takes a
character at least. -/
def content (branches parts : List Pattern) : Nat → PatternReading Pattern
  | 0 => failure
  | rounds + 1 => do
    space
    match (← get).rest with
    | [] | ')' :: _ => return .ofBranches (branches ++ [.ofParts parts])
    | '|' :: _ =>
      skip 1
      content (branches ++ [.ofParts parts]) [] rounds
    | '(' :: _ =>
      skipSpaced
      let outer := (← get).freeSpacing
      let (change, alone) ← groupOpening
      modify fun s => { s with freeSpacing := change.apply .freeSpacing outer }
      if alone then content branches (parts ++ [.flags change]) rounds
      else
        let body ← content [] [] rounds
        discard peek
        skip 1
        modify fun s => { s with freeSpacing := outer }
        content branches (parts ++ [.group change body]) rounds
    | '[' :: _ =>
      let s ← bracketedSet rounds
      content branches (parts ++ [.set s]) rounds
    | '?' :: _ | '*' :: _ | '+' :: _ =>
      skip 1
      -- A question mark behind it asks for as few repetitions as possible.
      discard (accept "?")
      match parts.getLast? with
      | some last =>
        if last.isRepeatable then content branches (parts.dropLast ++ [.repetition last]) rounds
        else failure
      | none => failure
    -- The closing brace would end the field before it ended the repetition.
    | '{' :: _ => failure
    | _ =>
      let part ← simplePart
      content branches (parts ++ [part]) rounds

end PatternReading

namespace Pattern

def read? (chars : List Char) : Option Pattern := do
  let (pattern, s) ← (PatternReading.content [] [] (chars.length + 1)).run { rest := chars }
  if s.rest = [] then some pattern else none

def deepest : Nat := 250

def isUsable (chars : List Char) : Bool :=
  match read? chars with
  | some pattern => decide (pattern.depth ≤ deepest) && (PatternMode.pass? {} pattern).isSome
  | none => false

end Pattern
end ValidatorSigner.Telemetry
