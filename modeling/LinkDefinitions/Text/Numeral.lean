import LinkDefinitions.Text.Basic

/-!
# Numerals

Decimal and hexadecimal numerals in ASCII digits: reading the value of a run of digits, and
writing numbers.
-/

namespace LinkDefinitions

/-- The decimal digits `0` to `9`. -/
def isDigit (c : Char) : Bool := 0x30 ≤ c.toNat && c.toNat ≤ 0x39

/-- The ASCII letters of either case. -/
def isLetter (c : Char) : Bool :=
  (0x41 ≤ c.toNat && c.toNat ≤ 0x5A) || (0x61 ≤ c.toNat && c.toNat ≤ 0x7A)

/-- The hexadecimal digits `0` to `9`, `A` to `F` and `a` to `f`. -/
def isHexDigit (c : Char) : Bool :=
  isDigit c || (0x41 ≤ c.toNat && c.toNat ≤ 0x46) || (0x61 ≤ c.toNat && c.toNat ≤ 0x66)

/-- The value of a hexadecimal digit; decimal digits are among them. -/
def digitValue (c : Char) : Nat :=
  if isDigit c then c.toNat - 0x30
  else if c.toNat ≤ 0x46 then c.toNat - 0x41 + 10
  else c.toNat - 0x61 + 10

/-- The number that the digits stand for, the most significant first. -/
def numeralValue (base : Nat) (digits : Text) : Nat :=
  digits.foldl (fun n c => base * n + digitValue c) 0

/-- An integer in decimal digits, with a sign only if it is negative. -/
def decimal (n : Int) : Text :=
  if n < 0 then '-' :: Nat.toDigits 10 n.natAbs else Nat.toDigits 10 n.natAbs

/-- A number in lowercase hexadecimal digits, with zeros in front up to the width. -/
def hexadecimal (width n : Nat) : Text :=
  let digits := Nat.toDigits 16 n
  List.replicate (width - digits.length) '0' ++ digits

example : numeralValue 16 "1F600".toList = 0x1F600 := by decide

example : hexadecimal 4 0x2028 = "2028".toList ∧ hexadecimal 2 0 = "00".toList := by decide +kernel

end LinkDefinitions
