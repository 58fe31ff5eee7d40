import RecursiveFactorial.Text.Printable

/-!
# Quoted texts

A text between double quotes as it is shown in notices and complaints. Quotes and backslashes are
escaped, five controls have a letter, and whatever cannot be shown by itself is written by its code point in
lower-case hexadecimal.
-/
namespace RecursiveFactorial.Text

/-- `\u` and the code point between braces, without leading zeros. -/
def byCodePoint (c : Char) : List Char :=
  "\\u\x7b".toList ++ Nat.toDigits 16 c.toNat ++ ['\x7d']

def quotedChar (c : Char) : List Char :=
  if c = '"' then ['\\', '"']
  else if c = '\\' then ['\\', '\\']
  else if c = '\n' then ['\\', 'n']
  else if c = '\r' then ['\\', 'r']
  else if c = '\t' then ['\\', 't']
  else if c = '\x00' then ['\\', '0']
  else if isShown c then [c]
  else byCodePoint c

def quoted (s : String) : String :=
  String.ofList ('"' :: s.toList.flatMap quotedChar ++ ['"'])

end RecursiveFactorial.Text
