/-!
# Texts and their characters

A text is a list of characters, that is of Unicode scalar values, so a position in a text counts
code points. The surrogates U+D800 to U+DFFF are code points and no characters: a sequence in which
one of them stands alone is not a text here.

This file names the three classes of characters that the syntax of link reference definitions speaks
about: blanks, ASCII punctuation (the characters that a backslash may escape) and ASCII control
characters.
-/

namespace LinkDefinitions

/-- A sequence of code points without surrogates: a line, a label, a destination or a title. -/
abbrev Text := List Char

/-- The blanks: tab, line feed, line tabulation, form feed, carriage return and space, in the
order of their code points. -/
def blanks : Text := ['\t', '\n', '\x0b', '\x0c', '\r', ' ']

/-- Membership in `blanks`. -/
def isBlank (c : Char) : Bool := blanks.contains c

/-- The ASCII punctuation characters in the order of their code points. These and no others may
be escaped by a backslash. -/
def punctuation : Text :=
  ['!', '\x22', '#', '$', '%', '&', '\x27', '(', ')', '*', '+', ',', '-', '.', '/', ':', ';', '<',
    '=', '>', '?', '@', '[', '\\', ']', '^', '_', '\x60', '\x7b', '|', '\x7d', '~']

/-- Membership in `punctuation`, said on code points. -/
def isPunctuation (c : Char) : Bool :=
  let n := c.toNat
  (0x21 ≤ n && n ≤ 0x2F) || (0x3A ≤ n && n ≤ 0x40) || (0x5B ≤ n && n ≤ 0x60) ||
    (0x7B ≤ n && n ≤ 0x7E)

/-- The two descriptions of ASCII punctuation agree. -/
theorem mem_punctuation_iff (c : Char) : c ∈ punctuation ↔ isPunctuation c := by
  constructor
  · intro h
    have all : punctuation.all isPunctuation = true := by decide
    exact List.all_eq_true.1 all c h
  · intro h
    have all : ∀ n < 0x7F, isPunctuation (Char.ofNat n) → Char.ofNat n ∈ punctuation := by
      decide +kernel
    have bound : c.toNat < 0x7F := by
      simp only [isPunctuation, Bool.or_eq_true, Bool.and_eq_true, decide_eq_true_eq] at h
      omega
    have same : Char.ofNat c.toNat = c := Char.ofNat_toNat c
    simpa only [same] using all c.toNat bound (by rwa [same])

/-- The ASCII control characters: U+0000 to U+001F and U+007F. -/
def isControl (c : Char) : Bool := c.toNat < 0x20 || c.toNat == 0x7F

/-- The text without its leading blanks. -/
def skipBlanks (t : Text) : Text := t.dropWhile isBlank

theorem length_skipBlanks_le (t : Text) : (skipBlanks t).length ≤ t.length :=
  List.IsSuffix.length_le (List.dropWhile_suffix isBlank)

end LinkDefinitions
