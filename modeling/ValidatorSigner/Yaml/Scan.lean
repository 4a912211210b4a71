import ValidatorSigner.Text.Hex
import ValidatorSigner.Yaml.Token

/-! # Reading single tokens

Each reader starts at a cursor and stops behind what it read. A run of blanks and line breaks
inside a scalar is folded: blanks within a line stay, one break becomes a blank, and of several
breaks the first one is dropped.
-/
namespace ValidatorSigner.Yaml

structure Cursor where
  rest : List Char
  line : Nat := 0
  column : Nat := 0

namespace Cursor

def skip (cursor : Cursor) (n : Nat) : Cursor :=
  { cursor with rest := cursor.rest.drop n, column := cursor.column + n }

def takeWhile (cursor : Cursor) (test : Char → Bool) : List Char × Cursor :=
  let taken := cursor.rest.takeWhile test
  (taken, cursor.skip taken.length)

def bytesLeft (cursor : Cursor) : Nat :=
  cursor.rest.foldl (fun n c => n + c.utf8Size) 0

def skipToLineEnd (cursor : Cursor) : Cursor :=
  let (_, cursor) := cursor.takeWhile isSpace
  match cursor.rest with
  | '#' :: _ => (cursor.takeWhile fun c => !isBreak c).2
  | _ => cursor

/-- Goes over one line break, which is given in the form in which scalars keep it. -/
def takeBreak (cursor : Cursor) : Option (Char × Cursor) :=
  match cursor.rest with
  | '\r' :: '\n' :: rest => some ('\n', ⟨rest, cursor.line + 1, 0⟩)
  | c :: rest =>
    if c == '\u2028' || c == '\u2029' then some (c, ⟨rest, cursor.line + 1, 0⟩)
    else if isBreak c then some ('\n', ⟨rest, cursor.line + 1, 0⟩)
    else none
  | [] => none

end Cursor

/-- Three dashes or dots that stand alone at the beginning of a line. -/
def isDocumentMark (mark : Char) : List Char → Bool
  | a :: b :: c :: rest => a == mark && b == mark && c == mark && endsWord rest
  | _ => false

def startsDocumentMark (chars : List Char) : Bool :=
  isDocumentMark '-' chars || isDocumentMark '.' chars

inductive Gap where
  /-- Blanks within a line. -/
  | blanks (chars : List Char)
  /-- Line breaks: the first one, unless it was escaped, and the others. -/
  | breaks (first : Option Char) (more : List Char)

namespace Gap

def empty : Gap := blanks []

def hasBreak : Gap → Bool
  | blanks _ => false
  | breaks .. => true

def addBlank (gap : Gap) (c : Char) : Gap :=
  match gap with
  | blanks chars => blanks (chars ++ [c])
  | breaks first more => breaks first more

def addBreak (gap : Gap) (c : Char) : Gap :=
  match gap with
  | blanks _ => breaks (some c) []
  | breaks first more => breaks first (more ++ [c])

def folded : Gap → List Char
  | blanks chars => chars
  -- One break becomes a blank, and of several the first one is dropped.
  | breaks (some '\n') [] => [' ']
  | breaks (some '\n') more => more
  | breaks first more => first.toList ++ more

end Gap

def keptBreak (c : Char) : Char :=
  if c == '\u2028' || c == '\u2029' then c else '\n'

/-- Skips blanks, comments and line ends before the next token. Says whether a key may begin there;
`flow` is set inside brackets. -/
def skipToToken (flow : Bool) (keyAllowed comment : Bool) (line column : Nat) :
    List Char → Bool × Cursor
  | [] => (keyAllowed, ⟨[], line, column⟩)
  | '\r' :: '\n' :: rest => skipToToken flow (keyAllowed || !flow) false (line + 1) 0 rest
  | c :: rest =>
    if isBreak c then skipToToken flow (keyAllowed || !flow) false (line + 1) 0 rest
    -- A byte order mark at the beginning of a line is passed over too, but takes a column.
    else if comment || c == ' ' || (c == '\t' && (flow || !keyAllowed)) ||
        (c == '\ufeff' && column == 0) then
      skipToToken flow keyAllowed comment line (column + 1) rest
    else if c == '#' then skipToToken flow keyAllowed true line (column + 1) rest
    else (keyAllowed, ⟨c :: rest, line, column⟩)

inductive Escape where
  | none
  /-- Behind the backslash. -/
  | opened
  /-- Within a character number, with digits left to read. -/
  | digits (left value : Nat)

def escapedChar? : Char → Option Char
  | '0' => some '\x00'
  | 'a' => some '\x07'
  | 'b' => some '\x08'
  | 't' | '\t' => some '\t'
  | 'n' => some '\n'
  | 'v' => some '\x0b'
  | 'f' => some '\x0c'
  | 'r' => some '\r'
  | 'e' => some '\x1b'
  | ' ' => some ' '
  | '"' => some '"'
  | '/' => some '/'
  | '\\' => some '\\'
  | 'N' => some '\u0085'
  | '_' => some '\u00a0'
  | 'L' => some '\u2028'
  | 'P' => some '\u2029'
  | _ => none

def escapeDigits? : Char → Option Nat
  | 'x' => some 2
  | 'u' => some 4
  | 'U' => some 8
  | _ => none

def hexDigit? (c : Char) : Option Nat :=
  if c.toNat < 128 then Text.Hex.digitValue? (UInt8.ofNat c.toNat) else none

/-- Reads a quoted scalar behind its opening quote. `out` is what was read, last character first. -/
def quotedScalar (quote : Char) (escape : Escape) (gap : Gap) (out : List Char)
    (line column : Nat) : List Char → Except Fault (String × Cursor)
  | [] => .error .unclosedQuote
  | '\r' :: '\n' :: rest =>
    match escape with
    | .none => quotedScalar quote .none (gap.addBreak '\n') out (line + 1) 0 rest
    | .opened => quotedScalar quote .none (.breaks none []) out (line + 1) 0 rest
    | .digits .. => .error .escape
  | c :: rest =>
    match escape with
    | .digits left value =>
      match hexDigit? c with
      | some d =>
        let value := 16 * value + d
        if 1 < left then
          quotedScalar quote (.digits (left - 1) value) .empty out line (column + 1) rest
        else if value.isValidChar then
          quotedScalar quote .none .empty (Char.ofNat value :: out) line (column + 1) rest
        else .error .escape
      | none => .error .escape
    | .opened =>
      if isBreak c then quotedScalar quote .none (.breaks none []) out (line + 1) 0 rest
      else
        match escapedChar? c, escapeDigits? c with
        | some e, _ => quotedScalar quote .none .empty (e :: out) line (column + 1) rest
        | none, some n => quotedScalar quote (.digits n 0) .empty out line (column + 1) rest
        | none, none => .error .escape
    | .none =>
      if isBreak c then
        quotedScalar quote .none (gap.addBreak (keptBreak c)) out (line + 1) 0 rest
      else if isSpace c then quotedScalar quote .none (gap.addBlank c) out line (column + 1) rest
      else if column = 0 ∧ startsDocumentMark (c :: rest) then .error .indicatorInQuote
      else
        let out := gap.folded.reverse ++ out
        if c == quote then
          match rest with
          -- Between apostrophes, two of them stand for one.
          | '\x27' :: rest =>
            if quote == '\x27' then
              quotedScalar quote .none .empty ('\x27' :: out) line (column + 2) rest
            else .ok (String.ofList out.reverse, ⟨'\x27' :: rest, line, column + 1⟩)
          | rest => .ok (String.ofList out.reverse, ⟨rest, line, column + 1⟩)
        else if c == '\\' ∧ quote == '"' then
          quotedScalar quote .opened .empty out line (column + 1) rest
        else quotedScalar quote .none .empty (c :: out) line (column + 1) rest

/-- Whether a plain scalar ends before these characters, `flow` being set inside brackets. -/
def endsPlain (flow : Bool) : List Char → Bool
  | [] => true
  | ':' :: rest => endsWord rest
  | c :: _ => flow && (c == ',' || c == '[' || c == ']' || c == '{' || c == '}')

/-- A colon inside brackets must not touch these characters. -/
def isTightColon : List Char → Bool
  | ':' :: c :: _ => c == ',' || c == '?' || c == '[' || c == ']' || c == '{' || c == '}'
  | _ => false

structure Plain where
  text : String
  /-- Whether a line ended behind the scalar. -/
  endedLine : Bool
  cursor : Cursor

/-- Reads a plain scalar. Lines that continue it must be indented by `indent` at least. -/
def plainScalar (flow : Bool) (indent : Int) (gap : Gap) (out : List Char) (line column : Nat) :
    List Char → Except Fault Plain
  | [] => .ok ⟨String.ofList out.reverse, gap.hasBreak, ⟨[], line, column⟩⟩
  | '\r' :: '\n' :: rest => plainScalar flow indent (gap.addBreak '\n') out (line + 1) 0 rest
  | c :: rest =>
    let here : Plain := ⟨String.ofList out.reverse, gap.hasBreak, ⟨c :: rest, line, column⟩⟩
    let inGap : Bool := match gap with
      | .blanks [] => false
      | _ => true
    if isBreak c then plainScalar flow indent (gap.addBreak (keptBreak c)) out (line + 1) 0 rest
    else if isSpace c then
      if gap.hasBreak ∧ (column : Int) < indent ∧ c == '\t' then .error .indentation
      else plainScalar flow indent (gap.addBlank c) out line (column + 1) rest
    else if inGap ∧ !flow ∧ (column : Int) < indent then .ok here
    else if inGap ∧ (c == '#' ∨ (column = 0 ∧ startsDocumentMark (c :: rest))) then .ok here
    else if flow ∧ isTightColon (c :: rest) then .error .plainText
    else if endsPlain flow (c :: rest) then .ok here
    else
      plainScalar flow indent .empty (c :: (gap.folded.reverse ++ out)) line (column + 1) rest

/-- What happens to the line breaks at the end of a block scalar. -/
inductive Chomping where
  | strip
  | clip
  | keep
deriving DecidableEq, Repr

/-- The signs behind the mark of a block scalar: chomping, and the depth of indentation. -/
structure BlockHeader where
  chomping : Chomping := .clip
  depth : Option Nat := none

namespace BlockHeader

def readSign (header : BlockHeader) (cursor : Cursor) : BlockHeader × Cursor :=
  match cursor.rest with
  | '+' :: _ => ({ header with chomping := .keep }, cursor.skip 1)
  | '-' :: _ => ({ header with chomping := .strip }, cursor.skip 1)
  | _ => (header, cursor)

def readDepth (header : BlockHeader) (cursor : Cursor) : Except Fault (BlockHeader × Cursor) :=
  match cursor.rest with
  | c :: _ =>
    if c == '0' then .error .blockHeader
    else if '1' ≤ c ∧ c ≤ '9' then .ok ({ header with depth := some (c.toNat - 48) }, cursor.skip 1)
    else .ok (header, cursor)
  | [] => .ok (header, cursor)

/-- Reads both signs, in either order, and the end of the line. -/
def read (cursor : Cursor) : Except Fault (BlockHeader × Cursor) := do
  let (header, cursor) ←
    match cursor.rest with
    | '+' :: _ | '-' :: _ =>
      let (header, cursor) := readSign {} cursor
      readDepth header cursor
    | _ => do
      let (header, cursor) ← readDepth {} cursor
      pure (if header.depth.isSome then readSign header cursor else (header, cursor))
  let cursor := cursor.skipToLineEnd
  if endsLine cursor.rest then
    return (header, (cursor.takeBreak.map (·.2)).getD cursor)
  else .error .blockHeader

end BlockHeader

/-- Skips the indentation of the next lines, as far as they are empty, and collects their breaks.
`limit` is the indentation when it is known, and `deepest` the deepest one seen. -/
def blockIndentation (limit : Option Nat) (deepest : Nat) (breaks : List Char) (line column : Nat) :
    List Char → Except Fault (Nat × List Char × Cursor)
  | [] => .ok (max deepest column, breaks, ⟨[], line, column⟩)
  | '\r' :: '\n' :: rest =>
    blockIndentation limit (max deepest column) (breaks ++ ['\n']) (line + 1) 0 rest
  | c :: rest =>
    let inside : Bool := match limit with
      | none => true
      | some n => decide (column < n)
    if inside ∧ c == ' ' then blockIndentation limit deepest breaks line (column + 1) rest
    else if inside ∧ c == '\t' then .error .indentation
    else if isBreak c then
      blockIndentation limit (max deepest column) (breaks ++ [keptBreak c]) (line + 1) 0 rest
    else .ok (max deepest column, breaks, ⟨c :: rest, line, column⟩)

/-- The lines of a block scalar, which stand at the column `indent`. `lead` is the break before
the line and `breaks` are those of empty lines after it; `spaced` tells whether the line before
began with a blank. The number of rounds is bounded by the length of the text. -/
def blockLines (fold : Bool) (indent : Nat) (spaced : Bool) (lead : Option Char)
    (breaks out : List Char) (cursor : Cursor) :
    Nat → Except Fault (Option Char × List Char × List Char × Cursor)
  | 0 => .error .grammar
  | rounds + 1 =>
    if cursor.column = indent ∧ cursor.rest ≠ [] then do
      let blankAhead : Bool := match cursor.rest with
        | c :: _ => isSpace c
        | [] => false
      -- Lines are joined only where neither of the two begins with a blank.
      let joint :=
        if fold ∧ lead = some '\n' ∧ !spaced ∧ !blankAhead then
          if breaks = [] then [' '] else breaks
        else lead.toList ++ breaks
      let (content, cursor) := cursor.takeWhile fun c => !isBreak c
      let out := content.reverse ++ (joint.reverse ++ out)
      let (lead, cursor) := match cursor.takeBreak with
        | some (c, cursor) => (some c, cursor)
        | none => (none, cursor)
      let (_, breaks, cursor) ←
        blockIndentation (some indent) 0 [] cursor.line cursor.column cursor.rest
      blockLines fold indent blankAhead lead breaks out cursor rounds
    else .ok (lead, breaks, out, cursor)

def blockScalar (fold : Bool) (outer : Int) (cursor : Cursor) :
    Except Fault (String × Cursor) := do
  let (header, cursor) ← BlockHeader.read cursor
  let limit := header.depth.map fun n => if 0 ≤ outer then outer.toNat + n else n
  let (deepest, breaks, cursor) ←
    blockIndentation limit 0 [] cursor.line cursor.column cursor.rest
  let indent := limit.getD (max deepest (max (outer + 1).toNat 1))
  let (lead, breaks, out, cursor) ←
    blockLines fold indent false none breaks [] cursor (cursor.rest.length + 1)
  let tail := match header.chomping with
    | .strip => []
    | .clip => lead.toList
    | .keep => lead.toList ++ breaks
  return (String.ofList (out.reverse ++ tail), cursor)

def isTagChar (verbatim : Bool) (c : Char) : Bool :=
  isNameChar c || ";/?:@&=+$.%!~*\x27()".toList.contains c ||
    -- These are for tags between angle brackets only.
    (verbatim && (c == ',' || c == '[' || c == ']'))

/-- How many bytes a character has that begins with this one, told by the leading bits alone. -/
def sequenceLength? (lead : Nat) : Option Nat :=
  if lead < 0x80 then some 1
  else if lead < 0xc0 then none
  else if lead < 0xe0 then some 2
  else if lead < 0xf0 then some 3
  else if lead < 0xf8 then some 4
  else none

/-- Decodes the numbers behind percent signs in a tag. Bytes come in groups as long as their
leading byte says; `left` counts those that are still to come. -/
def tagBytes (left : Nat) : List Char → Except Fault Tag
  | '%' :: high :: low :: rest =>
    match hexDigit? high, hexDigit? low with
    | some h, some l =>
      let byte := 16 * h + l
      let next := (UInt8.ofNat byte :: ·)
      match left, sequenceLength? byte with
      | 0, some n => (tagBytes (n - 1) rest).map next
      | 0, none => .error .tag
      | left + 1, _ => if byte / 64 = 2 then (tagBytes left rest).map next else .error .tag
    | _, _ => .error .tag
  | '%' :: _ => .error .tag
  | c :: rest =>
    if left = 0 then (tagBytes 0 rest).map (String.utf8EncodeChar c ++ ·) else .error .tag
  | [] => if left = 0 then .ok [] else .error .tag

/-- A part of a tag, which must not be empty together with what stands before it. -/
def tagPart (before taken : List Char) : Except Fault Tag := do
  if before = [] ∧ taken = [] then throw .tag
  -- A zero byte ends the tag.
  return (← tagBytes 0 (before ++ taken)).takeWhile (· ≠ 0)

/-- Reads a tag, from its exclamation mark on; `flow` is set inside brackets. -/
def readTag (flow : Bool) (cursor : Cursor) : Except Fault (Token × Cursor) := do
  let (token, cursor) ← show Except Fault (Token × Cursor) from
    match cursor.rest with
    | '!' :: '<' :: _ => do
      let (taken, cursor) := (cursor.skip 2).takeWhile (isTagChar true)
      match cursor.rest with
      | '>' :: _ => return (.tag "" (← tagPart [] taken), cursor.skip 1)
      | _ => throw .tag
    | _ => do
      let (name, cursor) := (cursor.skip 1).takeWhile isNameChar
      match cursor.rest with
      | '!' :: _ =>
        let (taken, cursor) := (cursor.skip 1).takeWhile (isTagChar false)
        return (.tag (String.ofList ('!' :: name ++ ['!'])) (← tagPart [] taken), cursor)
      | _ =>
        let (taken, cursor) := cursor.takeWhile (isTagChar false)
        match ← tagPart ('!' :: name) taken with
        | [mark] => return (.tag "" [mark], cursor)
        | suffix => return (.tag "!" (suffix.drop 1), cursor)
  let comma := match cursor.rest with
    | ',' :: _ => flow
    | _ => false
  if comma || endsWord cursor.rest then return (token, cursor) else throw .tag

def readName (cursor : Cursor) : Except Fault (String × Cursor) :=
  let (name, cursor) := cursor.takeWhile isNameChar
  let closed : Bool := match cursor.rest with
    | c :: _ => "?:,]\x7d%@\x60".toList.contains c
    | [] => true
  if name ≠ [] ∧ (closed ∨ endsWord cursor.rest) then .ok (String.ofList name, cursor)
  else .error .name

def readVersionPart (cursor : Cursor) : Except Fault (Nat × Cursor) :=
  let (digits, cursor) := cursor.takeWhile Char.isDigit
  if digits = [] ∨ 9 < digits.length then .error .directive
  else .ok (digits.foldl (fun n c => 10 * n + (c.toNat - 48)) 0, cursor)

/-- Reads a handle of a tag directive: one mark, or a name between two. -/
def readHandle (cursor : Cursor) : Except Fault (String × Cursor) :=
  match cursor.rest with
  | '!' :: _ =>
    let (name, cursor) := (cursor.skip 1).takeWhile isNameChar
    match cursor.rest with
    | '!' :: _ => .ok (String.ofList ('!' :: name ++ ['!']), cursor.skip 1)
    | _ => if name = [] then .ok ("!", cursor) else .error .directive
  | _ => .error .directive

def readDirective (cursor : Cursor) : Except Fault (Token × Cursor) := do
  let (name, cursor) := cursor.takeWhile isNameChar
  if name = [] ∨ !endsWord cursor.rest then throw .directive
  let (_, cursor) := cursor.takeWhile isSpace
  let (token, cursor) ← show Except Fault (Token × Cursor) from
    match String.ofList name with
    | "YAML" => do
      let (major, cursor) ← readVersionPart cursor
      match cursor.rest with
      | '.' :: _ =>
        let (minor, cursor) ← readVersionPart (cursor.skip 1)
        return (.versionDirective major minor, cursor)
      | _ => throw .directive
    | "TAG" => do
      let (handle, cursor) ← readHandle cursor
      let (gap, cursor) := cursor.takeWhile isSpace
      let (taken, cursor) := cursor.takeWhile (isTagChar true)
      if gap = [] ∨ !endsWord cursor.rest then throw .directive
      return (.tagDirective handle (← tagPart [] taken), cursor)
    | _ => throw .directive
  let cursor := cursor.skipToLineEnd
  if endsLine cursor.rest then
    return (token, (cursor.takeBreak.map (·.2)).getD cursor)
  else throw .directive

end ValidatorSigner.Yaml
