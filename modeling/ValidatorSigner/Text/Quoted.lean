import ValidatorSigner.Text.Unseen

/-! # Quoted texts in messages

Messages show a refused value between quotes. Characters without a visible form are written by
number, so that a message never hides what was read.
-/
namespace ValidatorSigner.Text

/-- Lower-case hexadecimal digits of a number, without leading zeros. -/
def hexNumeral (n : Nat) : String :=
  String.ofList (Nat.toDigits 16 n)

/-- The form of a character inside quotes, `quote` being the mark that ends the quoted text. -/
def quotedChar (quote c : Char) : String :=
  if c == quote || c == '\\' then String.ofList ['\\', c]
  else match c.toNat with
    | 0 => "\\0"
    | 9 => "\\t"
    | 10 => "\\n"
    | 13 => "\\r"
    | code => if isUnseen c then "\\u\x7b" ++ hexNumeral code ++ "\x7d" else String.singleton c

def quoted (text : String) : String :=
  "\"" ++ String.join (text.toList.map (quotedChar '"')) ++ "\""

def quotedSingle (c : Char) : String :=
  "\x27" ++ quotedChar '\x27' c ++ "\x27"

end ValidatorSigner.Text
