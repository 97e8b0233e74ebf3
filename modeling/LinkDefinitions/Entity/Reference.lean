import LinkDefinitions.Entity.Basic
import LinkDefinitions.Text.Numeral

/-!
# Character references

A character reference is written between `&` and `;` and stands for a character, or for two. What
is between the two marks, the body of the reference, is a decimal code, a hexadecimal code, or a
name.
-/

namespace LinkDefinitions

/-- A character reference by what its body says. -/
inductive Reference
  /-- The character with a code point. -/
  | numeric (code : Nat)
  /-- The character or characters with a name. -/
  | named (name : Text)
  deriving DecidableEq, Repr

namespace Reference

/-- A hexadecimal code has at most six digits. -/
def maxHexDigits : Nat := 6

/-- A decimal code has at most seven digits. -/
def maxDecimalDigits : Nat := 7

/-- A name has a letter first and at most this many letters and digits after it. -/
def maxNameTail : Nat := 31

/-- The letters and digits of ASCII. -/
def isAlphanumeric (c : Char) : Bool := isLetter c || isDigit c

/-- The characters that the body of a reference may hold. -/
def isBodyChar (c : Char) : Bool := isAlphanumeric c || c == '#'

/-- A run of at least one digit and no more than `most`. -/
def isCode (isDigit : Char → Bool) (most : Nat) (ds : Text) : Bool :=
  ds.all isDigit && 0 < ds.length && ds.length ≤ most

/-- The shape of a name: a letter, then at least one letter or digit. -/
def isName : Text → Bool
  | [] => false
  | c :: t => isLetter c && isCode isAlphanumeric maxNameTail t

/-- The reference with the given body: `#x` or `#X` and a hexadecimal code, `#` and a decimal code,
or a name. -/
def ofBody? : Text → Option Reference
  | '#' :: 'x' :: ds => hex? ds
  | '#' :: 'X' :: ds => hex? ds
  | '#' :: ds =>
    if isCode isDigit maxDecimalDigits ds then some (numeric (numeralValue 10 ds)) else none
  | name => if isName name then some (named name) else none
where
  /-- The reference by a hexadecimal code. -/
  hex? (ds : Text) : Option Reference :=
    if isCode isHexDigit maxHexDigits ds then some (numeric (numeralValue 16 ds)) else none

/-- The replacement character, which stands in for a code that is no character. -/
def replacement : Char := '\ufffd'

/-- The character with a code point; zero, the surrogates and everything beyond U+10FFFF give the
replacement character. -/
def charOfCode (code : Nat) : Char :=
  if code = 0 ∨ ¬ code.isValidChar then replacement else Char.ofNat code

/-- What a reference stands for; a name outside the table stands for nothing. -/
def value? : Reference → Option Text
  | numeric code => some [charOfCode code]
  | named name => Entity.lookup name

end Reference

end LinkDefinitions
