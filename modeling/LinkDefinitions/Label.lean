import LinkDefinitions.CaseFolding.Basic

/-!
# Labels

The text between the brackets of a label is raw. Two raw labels name the same definition when they
have the same key: the label with each run of blanks written as one space, without a space at
either end, and case-folded.
-/

namespace LinkDefinitions.Label

/-- A raw label has at most this many characters, unless a parser is told otherwise. -/
def maxLength : Nat := 999

/-- The text with each longest run of blanks replaced by one space. -/
def collapseBlanks : Text → Text
  | [] => []
  | c :: t => if isBlank c then ' ' :: collapseBlanks (skipBlanks t) else c :: collapseBlanks t
  termination_by t => t.length
  decreasing_by
    · exact Nat.lt_succ_of_le (length_skipBlanks_le t)
    · exact Nat.lt_succ_self _

/-- The text without the spaces at its two ends. -/
def trimSpaces (t : Text) : Text :=
  ((t.dropWhile (· == ' ')).reverse.dropWhile (· == ' ')).reverse

/-- The key of a raw label. It is empty if the label holds nothing but blanks. -/
def key (raw : Text) : Text := CaseFolding.foldText (trimSpaces (collapseBlanks raw))

example : key "  Foo\n\t STRASSE ".toList = "foo strasse".toList := by decide +kernel

example : key "Straße".toList = key "STRASSE".toList := by decide +kernel

end LinkDefinitions.Label
