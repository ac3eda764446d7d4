import Sift.Text.Hexadecimal
import Sift.Text.Property

/-!
# Quoted text

A text in quotes shows every character so that it can be told apart: the quote and the backslash
are escaped, the usual controls have an escape of their own, and whatever has no glyph or would
attach to the character before it is written by its code.
-/

set_option autoImplicit false
namespace Sift
namespace Text

/-- One character between quotes. -/
def quoteChar (c : Char) : List Char :=
  if c = '"' then ['\\', '"']
  else if c = '\\' then ['\\', '\\']
  else if c = '\n' then ['\\', 'n']
  else if c = '\r' then ['\\', 'r']
  else if c = '\t' then ['\\', 't']
  else if c.toNat = 0 then ['\\', '0']
  else if showsPlain c then [c]
  else ['\\', 'u', '\x7b'] ++ hexDigits c.toNat ++ ['\x7d']

/-- The characters of a text in quotes. -/
def quoteChars (text : List Char) : List Char :=
  ['"'] ++ text.flatMap quoteChar ++ ['"']

/-- A text in quotes. -/
def quoted (text : String) : String :=
  .ofList (quoteChars text.toList)

end Text
end Sift
