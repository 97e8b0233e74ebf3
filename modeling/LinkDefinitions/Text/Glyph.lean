import LinkDefinitions.Text.Basic

/-!
# Glyphs: a text with its escapes resolved into units

Inside labels, destinations and titles a backslash before ASCII punctuation takes that character
with it. `glyphs` cuts a text, from left to right, into such pairs and single characters; nothing
is lost (`source_glyphs`). A syntactic character counts only where it is a plain glyph.
-/

namespace LinkDefinitions

/-- A unit of a text: one character, or a punctuation character behind its backslash. -/
inductive Glyph
  /-- One character that stands for itself. A backslash that escapes nothing is of this kind. -/
  | plain (c : Char)
  /-- A punctuation character together with the backslash before it. -/
  | escaped (c : Char)
  deriving DecidableEq, Repr

/-- The characters that a glyph is written with. -/
def Glyph.source : Glyph → Text
  | plain c => [c]
  | escaped c => ['\\', c]

/-- The characters that a list of glyphs is written with. -/
def source (gs : List Glyph) : Text := gs.flatMap Glyph.source

/-- The glyphs of a text. -/
def glyphs : Text → List Glyph
  | [] => []
  | [c] => [.plain c]
  | c :: d :: t =>
      if c = '\\' ∧ isPunctuation d then .escaped d :: glyphs t else .plain c :: glyphs (d :: t)

@[simp] theorem source_nil : source [] = [] := rfl

@[simp] theorem source_cons (g : Glyph) (gs : List Glyph) :
    source (g :: gs) = g.source ++ source gs := rfl

@[simp] theorem source_append (gs hs : List Glyph) :
    source (gs ++ hs) = source gs ++ source hs := by
  simp [source]

/-- A text is written with its own glyphs. -/
@[simp] theorem source_glyphs (t : Text) : source (glyphs t) = t := by
  fun_induction glyphs t with
  | case1 => rfl
  | case2 => rfl
  | case3 c d t h ih => simp [Glyph.source, ih, h.1]
  | case4 c d t h ih => simp [Glyph.source, ih]

/-- Splits a text before its first glyph that `stop` accepts; all of the text is taken if there
is none. -/
def splitBefore (stop : Glyph → Bool) (t : Text) : Text × Text :=
  (source ((glyphs t).takeWhile fun g => !stop g), source ((glyphs t).dropWhile fun g => !stop g))

/-- A split loses nothing. -/
theorem splitBefore_append (stop : Glyph → Bool) (t : Text) :
    (splitBefore stop t).1 ++ (splitBefore stop t).2 = t := by
  rw [splitBefore, ← source_append, List.takeWhile_append_dropWhile, source_glyphs]

end LinkDefinitions
