import ViewportScaling.Unicode.Printable

/-!
# Quotations

Messages show a text between quotes. Single quotes are used unless the text holds a single quote and
no double one. A backslash and the quote in use are escaped, tabs and line ends have short escapes,
and every other character that is not printable is given by its code in the shortest of three
hexadecimal forms.
-/

namespace ViewportScaling.Text

open Unicode

/-- The lower-case hexadecimal digits of a number, padded with zeros to a width. -/
def hexadecimal (width n : Nat) : List Char :=
  let digits := Nat.toDigits 16 n
  List.replicate (width - digits.length) '0' ++ digits

/-- The quote that surrounds a quotation of the text. -/
def quoteFor (text : List Char) : Char :=
  if text.contains '\'' && !text.contains '"' then '"' else '\''

/-- One character of a quotation between the given quotes. -/
def quotedChar (quote c : Char) : List Char :=
  if c = quote || c = '\\' then ['\\', c]
  else if c = '\t' then ['\\', 't']
  else if c = '\n' then ['\\', 'n']
  else if c = '\r' then ['\\', 'r']
  else if isPrintable c then [c]
  else if c.toNat < 0x100 then '\\' :: 'x' :: hexadecimal 2 c.toNat
  else if c.toNat < 0x10000 then '\\' :: 'u' :: hexadecimal 4 c.toNat
  else '\\' :: 'U' :: hexadecimal 8 c.toNat

/-- The text between quotes, with escapes. -/
def quotation (text : String) : String :=
  let quote := quoteFor text.toList
  String.ofList (quote :: text.toList.flatMap (quotedChar quote) ++ [quote])

example : quotation "a'b" = "\"a'b\"" := by decide +kernel

example : quotation "'\"\n" = "'\\'\"\\n'" := by decide +kernel

end ViewportScaling.Text
