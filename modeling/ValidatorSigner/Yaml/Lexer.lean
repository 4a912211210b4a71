import ValidatorSigner.Yaml.Scan

/-! # From characters to tokens

A key is recognised only when its colon is met, so the place where a key may have begun is kept
until then. Such a place is good for one line and 1024 bytes. Blocks are opened when a key or
an entry stands deeper than the block around it, and closed when a token stands further out.
-/
namespace ValidatorSigner.Yaml

structure KeyPlace where
  /-- Whether nothing but a key may stand there. -/
  required : Bool
  /-- Number of tokens before it. -/
  position : Nat
  line : Nat
  column : Nat
  /-- Number of bytes from there to the end of the text. -/
  remaining : Nat

structure Lexer where
  cursor : Cursor
  tokens : Array Token := #[]
  /-- Column of the innermost block; below zero outside all blocks. -/
  indent : Int := -1
  /-- Columns of the blocks around it. -/
  outer : List Int := []
  keyAllowed : Bool := true
  /-- Possible beginnings of keys, one for each pair of brackets around, innermost first. -/
  places : List (Option KeyPlace) := [none]

namespace Lexer

def inFlow (s : Lexer) : Bool := 1 < s.places.length

def push (s : Lexer) (token : Token) : Lexer := { s with tokens := s.tokens.push token }

/-- Puts in a token before the one at a position. -/
def insertAt (s : Lexer) (position : Nat) (token : Token) : Lexer :=
  { s with tokens := s.tokens.insertIdxIfInBounds position token }

/-- Gives up the place of a key in the innermost brackets. -/
def dropPlace (s : Lexer) : Except Fault Lexer :=
  match s.places with
  | some place :: rest =>
    if place.required then .error .missingValueMark else .ok { s with places := none :: rest }
  | _ => .ok s

/-- Keeps the present place, if a key may begin here. -/
def keepPlace (s : Lexer) : Except Fault Lexer :=
  if !s.keyAllowed then .ok s
  else do
    let required := !s.inFlow && s.indent = s.cursor.column
    let place : KeyPlace :=
      ⟨required, s.tokens.size, s.cursor.line, s.cursor.column, s.cursor.bytesLeft⟩
    let s ← s.dropPlace
    return { s with places := some place :: s.places.drop 1 }

def dropStalePlaces (s : Lexer) : Except Fault Lexer := do
  let left := s.cursor.bytesLeft
  let places ← s.places.mapM fun place => show Except Fault (Option KeyPlace) from
    match place with
    | none => .ok none
    | some p =>
      if p.line < s.cursor.line ∨ left + 1024 < p.remaining then
        if p.required then .error .missingValueMark else .ok none
      else .ok (some p)
  return { s with places }

def closeBlocks (column : Int) (tokens : Array Token) (indent : Int) :
    List Int → Array Token × Int × List Int
  | [] => (tokens, indent, [])
  | next :: rest =>
    if column < indent then closeBlocks column (tokens.push .blockEnd) next rest
    else (tokens, indent, next :: rest)

def unroll (s : Lexer) (column : Int) : Lexer :=
  -- Inside brackets there are no blocks.
  if s.inFlow then s
  else
    let (tokens, indent, outer) := closeBlocks column s.tokens s.indent s.outer
    { s with tokens, indent, outer }

/-- Opens a block, if the column is deeper than the block around it. -/
def roll (s : Lexer) (column : Nat) (position : Nat) (token : Token) : Lexer :=
  if s.inFlow ∨ (column : Int) ≤ s.indent then s
  else { s.insertAt position token with indent := column, outer := s.indent :: s.outer }

/-- Ends all blocks before a document mark, a directive or the end of the text. -/
def endDocument (s : Lexer) : Except Fault Lexer := do
  let s ← (s.unroll (-1)).dropPlace
  return { s with keyAllowed := false }

def single (s : Lexer) (n : Nat) (token : Token) : Lexer :=
  { s.push token with cursor := s.cursor.skip n }

def openFlow (s : Lexer) (token : Token) : Except Fault Lexer := do
  let s ← s.keepPlace
  return { s.single 1 token with places := none :: s.places, keyAllowed := true }

def closeFlow (s : Lexer) (token : Token) : Except Fault Lexer := do
  let s ← s.dropPlace
  let places := if s.inFlow then s.places.drop 1 else s.places
  return { s.single 1 token with places, keyAllowed := false }

def flowEntry (s : Lexer) : Except Fault Lexer := do
  let s ← s.dropPlace
  return { s.single 1 .flowEntry with keyAllowed := true }

def blockEntry (s : Lexer) : Except Fault Lexer := do
  if !s.inFlow ∧ !s.keyAllowed then throw .unexpectedBlockEntry
  let s ← (s.roll s.cursor.column s.tokens.size .blockSequenceStart).dropPlace
  return { s.single 1 .blockEntry with keyAllowed := true }

def explicitKey (s : Lexer) : Except Fault Lexer := do
  if !s.inFlow ∧ !s.keyAllowed then throw .unexpectedKey
  let s ← (s.roll s.cursor.column s.tokens.size .blockMappingStart).dropPlace
  return { s.single 1 .key with keyAllowed := !s.inFlow }

def valueMark (s : Lexer) : Except Fault Lexer := do
  match s.places with
  | some place :: rest =>
    -- The key may have begun some tokens ago, so its marks are put in there.
    let s := (s.insertAt place.position .key).roll place.column place.position .blockMappingStart
    return { s.single 1 .value with places := none :: rest, keyAllowed := false }
  | _ =>
    if !s.inFlow ∧ !s.keyAllowed then throw .unexpectedValue
    let s := s.roll s.cursor.column s.tokens.size .blockMappingStart
    return { s.single 1 .value with keyAllowed := !s.inFlow }

def wordToken (s : Lexer) (read : Lexer → Except Fault (Token × Cursor)) :
    Except Fault Lexer := do
  let s ← s.keepPlace
  let (token, cursor) ← read s
  return { s.push token with cursor, keyAllowed := false }

def plainToken (s : Lexer) : Except Fault Lexer := do
  let s ← s.keepPlace
  let c := s.cursor
  let found ← plainScalar s.inFlow (s.indent + 1) .empty [] c.line c.column c.rest
  return { s.push (.scalar .plain found.text) with
    -- A key may begin behind a scalar that ended its line.
    cursor := found.cursor, keyAllowed := found.endedLine }

def quotedToken (s : Lexer) (style : ScalarStyle) (quote : Char) : Except Fault Lexer :=
  s.wordToken fun s => do
    let c := s.cursor.skip 1
    let (text, cursor) ← quotedScalar quote .none .empty [] c.line c.column c.rest
    return (.scalar style text, cursor)

def blockToken (s : Lexer) (style : ScalarStyle) : Except Fault Lexer := do
  let s ← s.dropPlace
  let (text, cursor) ← blockScalar (style = .folded) s.indent (s.cursor.skip 1)
  return { s.push (.scalar style text) with cursor, keyAllowed := true }

def startsPlain (flow : Bool) : List Char → Bool
  | [] => false
  | '-' :: rest =>
    match rest with
    | c :: _ => !isSpace c
    | [] => true
  | '?' :: rest | ':' :: rest => !flow && !endsWord rest
  | c :: _ => !isSpace c && !isBreak c && !",[]\x7b\x7d#&*!|>\x27\"%@\x60".toList.contains c

/-- Reads the token at the cursor, which stands at the beginning of one. -/
def token (s : Lexer) : Except Fault Lexer := do
  let rest := s.cursor.rest
  let atStart := s.cursor.column = 0
  if atStart ∧ isDocumentMark '-' rest then return (← s.endDocument).single 3 .documentStart
  if atStart ∧ isDocumentMark '.' rest then return (← s.endDocument).single 3 .documentEnd
  match rest with
  | '%' :: _ =>
    if !atStart then throw .character
    let s ← s.endDocument
    let (token, cursor) ← readDirective (s.cursor.skip 1)
    return { s.push token with cursor }
  | '[' :: _ => s.openFlow .flowSequenceStart
  | '{' :: _ => s.openFlow .flowMappingStart
  | ']' :: _ => s.closeFlow .flowSequenceEnd
  | '}' :: _ => s.closeFlow .flowMappingEnd
  | ',' :: _ => s.flowEntry
  | '*' :: _ => s.wordToken fun s => do
    let (name, cursor) ← readName (s.cursor.skip 1)
    return (.reference name, cursor)
  | '&' :: _ => s.wordToken fun s => do
    let (name, cursor) ← readName (s.cursor.skip 1)
    return (.anchor name, cursor)
  | '!' :: _ => s.wordToken fun s => readTag s.inFlow s.cursor
  | '\x27' :: _ => s.quotedToken .singleQuoted '\x27'
  | '"' :: _ => s.quotedToken .doubleQuoted '"'
  | '|' :: _ => if s.inFlow then throw .character else s.blockToken .literal
  | '>' :: _ => if s.inFlow then throw .character else s.blockToken .folded
  | '-' :: after =>
    if endsWord after then s.blockEntry else s.plainToken
  | '?' :: after =>
    if s.inFlow ∨ endsWord after then s.explicitKey else s.plainToken
  | ':' :: after =>
    if s.inFlow ∨ endsWord after then s.valueMark else s.plainToken
  | _ => if startsPlain s.inFlow rest then s.plainToken else throw .character

/-- Reads tokens up to the end of the text. Each token takes a character at least, which bounds
the number of rounds. -/
def loop (s : Lexer) : Nat → Except Fault (Array Token)
  | 0 => .error .grammar
  | rounds + 1 => do
    let c := s.cursor
    let (keyAllowed, cursor) := skipToToken s.inFlow s.keyAllowed false c.line c.column c.rest
    let s ← { s with keyAllowed, cursor }.dropStalePlaces
    let s := s.unroll s.cursor.column
    if s.cursor.rest = [] then return (← s.endDocument).tokens
    else loop (← s.token) rounds

end Lexer

def tokenize (text : String) : Except Fault (List Token) :=
  if text.toList.all isAllowed then
    (Lexer.loop { cursor := { rest := text.toList } } (text.length + 1)).map Array.toList
  else .error .character

end ValidatorSigner.Yaml
