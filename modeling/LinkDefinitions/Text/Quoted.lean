import LinkDefinitions.Text.Numeral
import LinkDefinitions.Text.Printable

/-!
# Quoted texts

The quoted form of a text, used where a text is shown within a message: the text between two equal
quotation marks, with a backslash form for each character that would be misread or not seen.
-/

namespace LinkDefinitions

/-- The apostrophe, the usual quotation mark. -/
def apostrophe : Char := '\x27'

/-- The double quotation mark. -/
def quotation : Char := '\x22'

/-- The mark around a quoted text: the apostrophe, unless the text holds apostrophes and no double
quotation mark. -/
def quoteMark (t : Text) : Char :=
  if t.contains apostrophe && !t.contains quotation then quotation else apostrophe

/-- A character within a quoted text: a backslash goes before the mark and the backslash, tab, line
feed and carriage return have a letter each, and any other unprintable character is written as
its code point in two, four or eight hexadecimal digits. -/
def quoteChar (mark c : Char) : Text :=
  if c = mark ∨ c = '\\' then ['\\', c]
  else if c = '\t' then ['\\', 't']
  else if c = '\n' then ['\\', 'n']
  else if c = '\r' then ['\\', 'r']
  else if isPrintable c then [c]
  else if c.toNat < 0x100 then '\\' :: 'x' :: hexadecimal 2 c.toNat
  else if c.toNat < 0x10000 then '\\' :: 'u' :: hexadecimal 4 c.toNat
  else '\\' :: 'U' :: hexadecimal 8 c.toNat

/-- The quoted form of a text. -/
def quoted (t : Text) : Text :=
  let mark := quoteMark t
  mark :: (t.flatMap (quoteChar mark) ++ [mark])

end LinkDefinitions
