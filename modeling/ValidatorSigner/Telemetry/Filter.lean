import ValidatorSigner.Telemetry.Pattern
import ValidatorSigner.Text.Decimal
import ValidatorSigner.Text.Utf8

/-! # Log filters

A filter is a list of directives between commas. A directive gives a level, a target, or both, and
may be restricted to spans with a name and fields: `target[span{field=value}]=level`. A target
alone enables everything below it. The value of a field is a number or a pattern.
-/
namespace ValidatorSigner.Telemetry

inductive LogLevel where
  | off
  | error
  | warn
  | info
  | debug
  | trace
deriving DecidableEq, Repr

namespace LogLevel

def all : List LogLevel := [off, error, warn, info, debug, trace]

def label : LogLevel → String
  | off => "off"
  | error => "error"
  | warn => "warn"
  | info => "info"
  | debug => "debug"
  | trace => "trace"

def rank (level : LogLevel) : Nat := all.idxOf level

def verbose (a b : LogLevel) : LogLevel := if a.rank < b.rank then b else a

/-- Reads a level: its number, or its name in any case. -/
def read? (chars : List Char) : Option LogLevel :=
  match (Text.readBounded (1 <<< 64) chars).bind fun n => all[n]? with
  | some level => some level
  | none => all.find? fun level => level.label.toList = chars.map Char.toLower

end LogLevel

/-- Whether a text is a number: with an optional sign, a decimal fraction, an infinity or no number
by name. -/
def isNumber (chars : List Char) : Bool :=
  let digits := match chars with
    | '+' :: rest => rest
    | '-' :: rest => rest
    | _ => chars
  ["inf", "infinity", "nan"].contains (String.ofList (digits.map Char.toLower)) ||
    (Text.Decimal.read? digits).isSome

def isFieldValue (chars : List Char) : Bool := isNumber chars || Pattern.isUsable chars

namespace Directive

def mayBegin (c : Char) : Bool :=
  c == '-' || c == ':' || c == '_' || Text.isLetterOrNumber c

def width (chars : List Char) : Nat := chars.foldl (fun n c => n + c.utf8Size) 0

/-- The text of a directive from a place on. Places count bytes. -/
def textFrom? (directive : List Char) (place : Nat) : Option (List Char) :=
  (Text.ofUtf8? ((directive.flatMap String.utf8EncodeChar).drop place)).map String.toList

def textAt? (directive : List Char) (place bytes : Nat) : Option (List Char) :=
  (Text.ofUtf8? (((directive.flatMap String.utf8EncodeChar).drop place).take bytes)).map
    String.toList

/-- The level at a place of the directive; nothing there means everything. -/
def levelAt (directive : List Char) (place : Nat) : Option LogLevel :=
  match textFrom? directive place with
  | some [] => some .trace
  | some chars => LogLevel.read? chars
  | none => none

def levelBehindSpan (directive : List Char) (place : Nat) : List Char → Option LogLevel
  | [] => some .trace
  | '=' :: _ => levelAt directive (place + 1)
  | _ => none

/-- Whether a field comes with a demand on its value, which stands between the first two equals
signs; none if there can be no such value. -/
def demandsValue? (field : List Char) : Option Bool :=
  match field.dropWhile (· ≠ '=') with
  | '=' :: rest => if isFieldValue (rest.takeWhile (· ≠ '=')) then some true else none
  | _ => some false

def levelFromSpan (directive : List Char) (place : Nat) (rest : List Char) : Option LogLevel :=
  let name := rest.takeWhile fun c => c != ']' && c != '\x7b'
  let place := place + width name + 1
  match rest.drop name.length with
  | ']' :: rest => levelBehindSpan directive place rest
  | '\x7b' :: rest =>
    let field := rest.takeWhile (· != '\x7d')
    match rest.drop field.length, (textAt? directive place (width field)).filter (· ≠ []) with
    | '\x7d' :: ']' :: rest, some text => do
      let demandsValue ← demandsValue? text
      let level ← levelBehindSpan directive (place + width field + 2) rest
      -- Values are known too late to keep anything out.
      return if demandsValue then .trace else level
    | _, _ => none
  | _ => none

def level? (directive : List Char) : Option LogLevel :=
  -- Blanks around the directive decide nothing about its form, but they belong to its words, whose
  -- places are counted as if there were none.
  match Text.trimBlanks directive with
  | [] => none
  | '[' :: rest => levelFromSpan directive 1 rest
  | c :: rest =>
    if !mayBegin c then none
    else
      let head := (c :: rest).takeWhile fun c => c != '=' && c != '['
      match (c :: rest).drop head.length with
      | [] => some ((LogLevel.read? directive).getD .trace)
      | '=' :: _ => levelAt directive (width head + 1)
      | _ :: rest => levelFromSpan directive (width head + 1) rest

end Directive

/-- The most verbose level that a filter enables; none if one of its directives has no meaning. -/
def filterLevel? (filter : String) : Option LogLevel :=
  (((filter.splitOn ",").filter (· ≠ "")).mapM fun directive =>
    Directive.level? directive.toList).map fun levels => levels.foldl LogLevel.verbose .off

end ValidatorSigner.Telemetry
