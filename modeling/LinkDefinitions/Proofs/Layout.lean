import LinkDefinitions.Definition
import LinkDefinitions.Label
import LinkDefinitions.Literal
import LinkDefinitions.Proofs.Scan

/-!
# Layouts of a definition

A layout is one way to write a definition: a label in brackets, a colon, a gap, a destination,
possibly another gap and a title between its marks, and blanks up to the end of the line. The parts
of a layout carry the evidence that the scans take exactly them, so every layout has a definition
that it writes (`Layout.definition`).

A label, a gap or a title may go over line ends. A layout is tidy (`Layout.Tidy`) if a gap goes over
at most one and the blanks at its end over none.
-/

namespace LinkDefinitions

/-- The beginning of a definition: its label and its destination, with the gap between them. -/
structure Head (limit : Nat) where
  /-- The raw label. -/
  label : Text
  gap : Text
  /-- The destination as it is written. -/
  destination : Text
  /-- The destination without its angle brackets, if it has them. -/
  value : Text
  label_closed : Scan.label (label ++ [']']) = some (label, [']'])
  label_short : label.length ≤ limit
  key_ne_nil : Label.key label ≠ []
  gap_blank : Blank gap
  destination_whole : Scan.rawDestination destination = some (value, [])

/-- A title with the gap before it. -/
structure TitlePart where
  gap : Text
  opener : Char
  closer : Char
  /-- The raw title. -/
  body : Text
  gap_blank : Blank gap
  gap_ne_nil : gap ≠ []
  paired : titleCloser? opener = some closer
  body_closed : Scan.title [closer] (body ++ [closer]) = some (body, [closer])

/-- A way to write a definition, from its opening bracket to the end of its last line. -/
structure Layout (limit : Nat) where
  head : Head limit
  title : Option TitlePart
  trail : Text
  trail_blank : Blank trail

variable {limit : Nat}

/-- The key of the label. -/
def Head.key (h : Head limit) : Text := Label.key h.label

def Head.text (h : Head limit) : Text :=
  '[' :: (h.label ++ ']' :: ':' :: (h.gap ++ h.destination))

def TitlePart.text (t : TitlePart) : Text := t.gap ++ t.opener :: (t.body ++ [t.closer])

/-- The text of a layout. -/
def Layout.text (l : Layout limit) : Text :=
  l.head.text ++ (l.title.elim [] TitlePart.text ++ l.trail)

/-- The definition that a layout writes. -/
def Layout.definition (l : Layout limit) : Definition :=
  ⟨l.head.key, unescape l.head.value, l.title.map fun t => unescape t.body⟩

/-- A layout whose gaps go over at most one line end each, and whose trail goes over none. -/
structure Layout.Tidy (l : Layout limit) : Prop where
  gap_breaks : l.head.gap.count '\n' ≤ 1
  title_breaks : ∀ t ∈ l.title, t.gap.count '\n' ≤ 1
  trail_inline : '\n' ∉ l.trail

/-! ### The parts of a layout -/

theorem Head.label_encloses (h : Head limit) : Encloses Scan.isBracket h.label ']' := by
  obtain ⟨-, ⟨nil, -⟩ | ⟨s, -, encloses⟩⟩ := Scan.label_eq_some_iff.1 h.label_closed
  · cases nil
  · exact encloses

theorem Head.destination_ne_nil (h : Head limit) : h.destination ≠ [] :=
  Scan.destination_ne_nil (Scan.rawDestination_whole_iff.1 h.destination_whole).1

theorem Head.solid_destination (h : Head limit) : Solid h.destination :=
  Scan.solid_of_rawDestination h.destination_whole

theorem Head.inline_destination (h : Head limit) : '\n' ∉ h.destination :=
  Scan.inline_of_rawDestination h.destination_whole

theorem TitlePart.opener_inline (t : TitlePart) : t.opener ≠ '\n' :=
  ne_break_of_isBlank (solid_of_titleCloser t.paired).1

theorem TitlePart.closer_inline (t : TitlePart) : t.closer ≠ '\n' :=
  ne_break_of_isBlank (solid_of_titleCloser t.paired).2

theorem TitlePart.body_encloses (t : TitlePart) :
    Encloses (Scan.endsTitle [t.closer]) t.body t.closer := by
  obtain ⟨-, ⟨nil, -⟩ | ⟨s, -, encloses⟩⟩ := Scan.title_eq_some_iff.1 t.body_closed
  · cases nil
  · exact encloses

theorem Scan.label_closed_iff {t : Text} :
    Scan.label (t ++ [']']) = some (t, [']']) ↔ Encloses Scan.isBracket t ']' := by
  rw [Scan.label_eq_some_iff]
  simp

theorem Scan.title_closed_iff {t : Text} {q : Char} :
    Scan.title [q] (t ++ [q]) = some (t, [q]) ↔ Encloses (Scan.endsTitle [q]) t q := by
  rw [Scan.title_eq_some_iff]
  simp

end LinkDefinitions
