import LinkDefinitions.Entity.Table.Capitals
import LinkDefinitions.Entity.Table.SmallAToK
import LinkDefinitions.Entity.Table.SmallLToZ
import LinkDefinitions.Text.Basic

/-!
# Named characters

The names that a named character reference may use, such as `amp` for the ampersand, and what
each of them stands for: one code point or two.
-/

namespace LinkDefinitions.Entity

/-- All names with the code points of what they stand for. -/
def table : List (String × List Nat) := capitals ++ smallAToK ++ smallLToZ

/-- What a name stands for, if it is one of the table. -/
def lookup (name : Text) : Option Text :=
  (table.lookup (String.ofList name)).map fun codes => codes.map Char.ofNat

example : lookup "amp".toList = some ['&'] := by decide +kernel

example : lookup "AMPERSAND".toList = none := by decide +kernel

end LinkDefinitions.Entity
