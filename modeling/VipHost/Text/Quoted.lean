import VipHost.Text.Printable

/-!
# Quoted text

A quoted text is safe to show on one line: quotes and backslashes are preceded
by a backslash, the common controls have a letter, and every other character
without a shape is written as its code point, `\u{200b}`.  Strings stand in
double quotes and characters in single quotes; only the quote in use is
escaped.
-/

namespace VipHost.Text

/-- The code point of a character in hexadecimal, without zeros in front. -/
def codePoint (c : Char) : List Char := Nat.toDigits 16 c.toNat

/-- One character as it stands inside quotes. -/
def escape (quote c : Char) : List Char :=
  if c = quote ∨ c = '\\' then ['\\', c]
  else if c = '\x00' then ['\\', '0']
  else if c = '\t' then ['\\', 't']
  else if c = '\n' then ['\\', 'n']
  else if c = '\r' then ['\\', 'r']
  else if isPrintable c then [c]
  else ['\\', 'u', '\x7b'] ++ codePoint c ++ ['\x7d']

/-- A text in double quotes. -/
def quoted (s : String) : String :=
  String.ofList ('"' :: s.toList.flatMap (escape '"') ++ ['"'])

/-- A character in single quotes. -/
def quotedChar (c : Char) : String :=
  String.ofList ('\'' :: escape '\'' c ++ ['\''])

/-- The texts of a list, with a separator between neighbours, in brackets. -/
def bracketed (items : List String) : String :=
  "[" ++ String.intercalate ", " items ++ "]"

end VipHost.Text
