import LinkDefinitions.Text.Glyph

/-!
# Scanning labels, destinations and titles

A scan reads the beginning of a text, which is the rest of a line, and splits it into what it took
and what it left; it gives `none` if the text does not begin as it must. Escapes stay in what is
taken as they are written. A label body and a title body may go on in the next line, so these two
scans succeed at the end of the text; a destination never does.
-/

namespace LinkDefinitions

/-- Unescaped parentheses in a bare destination nest at most this deep. -/
def maxParenDepth : Nat := 32

/-- The opening marks of a title, each with the mark that closes it. -/
def titleDelimiters : List (Char × Char) := [('"', '"'), ('\x27', '\x27'), ('(', ')')]

/-- The mark that closes a title which the given character opens. -/
def titleCloser? (opener : Char) : Option Char := titleDelimiters.lookup opener

namespace Scan

/-- A scan of what follows `x`, with `x` put in front of what it took. -/
def taking {α : Type} (x : α) (scan : Option (List α × List α)) : Option (List α × List α) :=
  scan.map fun (taken, rest) => (x :: taken, rest)

theorem taking_eq_some_iff {α : Type} {x : α} {scan : Option (List α × List α)} {a b : List α} :
    taking x scan = some (a, b) ↔ ∃ a', a = x :: a' ∧ scan = some (a', b) := by
  simp only [taking, Option.map_eq_some_iff, Prod.exists, Prod.mk.injEq]
  grind

/-- An unescaped square bracket. -/
def isBracket (g : Glyph) : Bool := g == .plain '[' || g == .plain ']'

/-- Takes the body of a label, up to the closing bracket or the end of the text. An unescaped
opening bracket may not stand in it. -/
def label (t : Text) : Option (Text × Text) :=
  let (body, rest) := splitBefore isBracket t
  if rest.head? = some '[' then none else some (body, rest)

/-- A glyph at which the body of a title ends, well or badly: an unescaped character equal to the
closing text, and an unescaped opening parenthesis if the closing text is a closing one. A
backslash begins an escape or stands for itself, so it closes nothing. -/
def endsTitle (closing : Text) : Glyph → Bool
  | .plain c => c != '\\' && ([c] == closing || (closing == [')'] && c == '('))
  | .escaped _ => false

/-- Takes the body of a title, up to the closing text or the end of the text. Only a closing text
of one character is ever found. Parentheses are not balanced: an unescaped opening one may not
stand in a title that a closing one ends. -/
def title (closing t : Text) : Option (Text × Text) :=
  let (body, rest) := splitBefore (endsTitle closing) t
  if closing = [')'] ∧ rest.head? = some '(' then none else some (body, rest)

/-- A glyph that may not stand between angle brackets: an unescaped angle bracket or a line feed. -/
def endsAngled (g : Glyph) : Bool := g == .plain '\n' || g == .plain '<' || g == .plain '>'

/-- Takes the rest of a destination in angle brackets, given what follows its opening bracket. -/
def angled (t : Text) : Option (Text × Text) :=
  match splitBefore endsAngled t with
  | (body, '>' :: rest) => some (body ++ ['>'], rest)
  | _ => none

/-- Takes the glyphs of a bare destination of which `depth` parentheses are open. It ends before a
space, a control character or a closing parenthesis that closes nothing; it must close all that
it opened and may not nest too deep. -/
def bareGlyphs (depth : Nat) : List Glyph → Option (List Glyph × List Glyph)
  | [] => if depth = 0 then some ([], []) else none
  | .escaped c :: gs => taking (.escaped c) (bareGlyphs depth gs)
  | .plain c :: gs =>
    if c = ' ' ∨ isControl c then
      if depth = 0 then some ([], .plain c :: gs) else none
    else if c = '(' then
      if depth = maxParenDepth then none
      else taking (.plain c) (bareGlyphs (depth + 1) gs)
    else if c = ')' then
      if depth = 0 then some ([], .plain c :: gs)
      else taking (.plain c) (bareGlyphs (depth - 1) gs)
    else taking (.plain c) (bareGlyphs depth gs)

/-- Takes a bare destination, which is not empty. -/
def bare (t : Text) : Option (Text × Text) :=
  match bareGlyphs 0 (glyphs t) with
  | some (g :: gs, rest) => some (source (g :: gs), source rest)
  | _ => none

/-- Takes a destination with its angle brackets, if it has them. -/
def destination : Text → Option (Text × Text)
  | [] => none
  | '<' :: t => taking '<' (angled t)
  | t => bare t

/-- The text of a destination without its angle brackets, if it has them. -/
def stripAngles : Text → Text
  | '<' :: t => t.dropLast
  | t => t

/-- Takes a destination and gives it without its angle brackets. -/
def rawDestination (t : Text) : Option (Text × Text) :=
  (destination t).map fun (taken, rest) => (stripAngles taken, rest)

/-! ### What is taken and what is left make up the text -/

theorem label_append {t a b : Text} (h : label t = some (a, b)) : a ++ b = t := by
  simp only [label] at h
  split at h
  · contradiction
  · simp only [Option.some.injEq, Prod.mk.injEq] at h
    rw [← h.1, ← h.2, splitBefore_append]

theorem title_append {closing t a b : Text} (h : title closing t = some (a, b)) : a ++ b = t := by
  simp only [title] at h
  split at h
  · contradiction
  · simp only [Option.some.injEq, Prod.mk.injEq] at h
    rw [← h.1, ← h.2, splitBefore_append]

theorem angled_append {t a b : Text} (h : angled t = some (a, b)) : a ++ b = t := by
  have split := splitBefore_append endsAngled t
  simp only [angled] at h
  split at h
  · next body rest eq =>
    simp only [Option.some.injEq, Prod.mk.injEq] at h
    simpa [eq, ← h.1, ← h.2] using split
  · contradiction

theorem bareGlyphs_append {depth : Nat} {gs a b : List Glyph}
    (h : bareGlyphs depth gs = some (a, b)) : a ++ b = gs := by
  fun_induction bareGlyphs depth gs generalizing a b <;> grind [taking_eq_some_iff]

theorem bare_append {t a b : Text} (h : bare t = some (a, b)) : a ++ b = t := by
  simp only [bare] at h
  split at h
  · next g gs rest eq =>
    simp only [Option.some.injEq, Prod.mk.injEq] at h
    rw [← h.1, ← h.2, ← source_append, bareGlyphs_append eq, source_glyphs]
  · contradiction

theorem destination_append {t a b : Text} (h : destination t = some (a, b)) : a ++ b = t := by
  simp only [destination] at h
  split at h
  · contradiction
  · obtain ⟨a, rfl, eq⟩ := taking_eq_some_iff.1 h
    rw [List.cons_append, angled_append eq]
  · exact bare_append h

/-- A destination takes at least one character. -/
theorem destination_ne_nil {t a b : Text} (h : destination t = some (a, b)) : a ≠ [] := by
  simp only [destination] at h
  split at h
  · contradiction
  · obtain ⟨a, rfl, -⟩ := taking_eq_some_iff.1 h
    exact List.cons_ne_nil _ _
  · simp only [bare] at h
    split at h
    · next g gs rest eq =>
      cases g <;> grind [Glyph.source, source_cons]
    · contradiction

end Scan

end LinkDefinitions
