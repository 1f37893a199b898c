import Conform.Text.Visible

/-!
# Quoted text

A text between double quotes on one line, with every character visible: messages and the display
of values use this form.

* `quoteChar` — how one character is written between the quotes.
* `quote` — the whole text with its quotes.
-/

namespace Conform.Text

/-- One character between double quotes: a short escape where there is one, the character itself
where it is visible, its code point in hexadecimal otherwise. -/
def quoteChar (c : Char) : List Char :=
  if c = '"' then ['\\', '"']
  else if c = '\\' then ['\\', '\\']
  else if c = '\t' then ['\\', 't']
  else if c = '\n' then ['\\', 'n']
  else if c = '\r' then ['\\', 'r']
  else if c.toNat = 0 then ['\\', '0']
  else if isVisible c then [c]
  else ['\\', 'u', '\x7b'] ++ Nat.toDigits 16 c.toNat ++ ['\x7d']

/-- The text between double quotes. -/
def quote (s : String) : String :=
  String.ofList ('"' :: s.toList.flatMap quoteChar ++ ['"'])

end Conform.Text
