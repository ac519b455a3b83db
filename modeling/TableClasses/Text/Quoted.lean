import TableClasses.Text.Printable

/-!
# Quoted text in messages

A message shows a text between double quotes. The quote and the backslash get a backslash before
them; tab, line feed, carriage return and the null character have a letter of their own; any other
character that is not printable is shown by its code point in hexadecimal digits between braces.
-/

namespace TableClasses.Text

/-- How one character is shown inside quotes. -/
def quotedChar (c : Char) : List Char :=
  if c = '"' then ['\\', '"']
  else if c = '\\' then ['\\', '\\']
  else if c = '\n' then ['\\', 'n']
  else if c = '\r' then ['\\', 'r']
  else if c = '\t' then ['\\', 't']
  else if c = Char.ofNat 0 then ['\\', '0']
  else if isPrintable c then [c]
  else ['\\', 'u', '\x7b'] ++ Nat.toDigits 16 c.toNat ++ ['\x7d']

/-- The text as a message shows it. -/
def quoted (s : String) : String :=
  String.ofList (['"'] ++ s.toList.flatMap quotedChar ++ ['"'])

end TableClasses.Text
