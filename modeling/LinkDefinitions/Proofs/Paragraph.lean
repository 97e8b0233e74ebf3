import LinkDefinitions.Document
import LinkDefinitions.Proofs.LineEndings
import LinkDefinitions.Proofs.Literal
import LinkDefinitions.Proofs.Parser.Completeness

/-!
# Definitions written in a paragraph

A definition with any destination and any title can be written in one line (`Statement.line`): the
destination is escaped between angle brackets and the title between double quotes. A paragraph of
such lines, each with an ending of its own, has these definitions and nothing else
(`parseDefinitions_stated`).

Such a line is one of the layouts that a parser recognizes, so only the parts of the layout are
looked at here; what a paragraph gives is what a fresh parser gives that is fed its lines
(`parseDefinitions_eq`).
-/

namespace LinkDefinitions

open LinkDefinitions.Parser

/-- What a paragraph consists of: what a fresh parser has found and left after its lines. -/
def Paragraph.extraction (paragraph : Paragraph) : Extraction :=
  let p := fed Label.maxLength paragraph.toLines
  ⟨p.committed, p.remaining, p.settled.notices⟩

/-- Nothing in a paragraph is a fault, so a paragraph is read if a parser can be made for it. -/
theorem parseDefinitions_of_start {limit : Option Int} {n : Nat}
    (start : Parser.start limit = .ok (fresh n)) (paragraph : Paragraph) :
    parseDefinitions limit paragraph =
      .ok ⟨(fed n paragraph.toLines).committed, (fed n paragraph.toLines).remaining,
        (fed n paragraph.toLines).settled.notices⟩ := by
  rw [parseDefinitions, start, ok_bind, feedAll_fresh, ok_bind, (coherent_fed _ _).harvest_eq,
    ok_bind]
  rfl

theorem parseDefinitions_eq (paragraph : Paragraph) :
    parseDefinitions none paragraph = .ok paragraph.extraction :=
  parseDefinitions_of_start rfl paragraph

/-! ### Statements -/

/-- A definition that is to be written: a raw label within one line, and literal texts. -/
structure Statement where
  label : Text
  destination : Text
  title : Option Text
  label_unbroken : Unbroken label
  label_closed : Scan.label (label ++ [']']) = some (label, [']'])
  label_short : label.length ≤ Label.maxLength
  key_ne_nil : Label.key label ≠ []

namespace Statement

/-- The definition that is stated. -/
def definition (s : Statement) : Definition := ⟨Label.key s.label, s.destination, s.title⟩

/-- The title after a space and between double quotes, if there is one. -/
def titleText (s : Statement) : Text :=
  s.title.elim [] fun t => ' ' :: '"' :: (escape t ++ ['"'])

/-- The line that states the definition. -/
def line (s : Statement) : Text :=
  '[' :: (s.label ++ "]: <".toList ++ escape s.destination ++ '>' :: s.titleText)

theorem avoidable_endsAngled : Avoidable Scan.endsAngled := by
  intro g stops
  simp only [Scan.endsAngled, Bool.or_eq_true, beq_iff_eq] at stops
  rcases stops with (rfl | rfl) | rfl <;> exact ⟨_, rfl, by decide⟩

theorem avoidable_endsTitle : Avoidable (Scan.endsTitle ['"']) := by
  intro g stops
  cases g with
  | escaped d => cases stops
  | plain c =>
    obtain ⟨-, rfl⟩ : c ≠ '\\' ∧ c = '"' := by simpa [Scan.endsTitle] using stops
    exact ⟨_, rfl, by decide⟩

/-- An escaped text between angle brackets is a destination. -/
theorem rawDestination_escape (t : Text) :
    Scan.rawDestination ('<' :: (escape t ++ ['>'])) = some (escape t, []) := by
  have encloses : Encloses Scan.endsAngled (escape t) '>' :=
    encloses_escape avoidable_endsAngled rfl t
  have angled : Scan.angled (escape t ++ ['>']) = some (escape t ++ ['>'], []) :=
    Scan.angled_eq_some_iff.2 ⟨escape t, rfl, (List.append_nil _).symm, encloses⟩
  refine Scan.rawDestination_whole_iff.2 ⟨?_, ?_⟩
  · exact Scan.destination_eq_some_iff.2 (.inl ⟨_, _, rfl, rfl, angled⟩)
  · simp [Scan.stripAngles]

theorem blank_space : Blank [' '] := rfl

theorem space_ne_nil : ([' '] : Text) ≠ [] := List.cons_ne_nil _ _

/-- The title of a line as a part of a layout. -/
def titlePart (t : Text) : TitlePart where
  gap := [' ']
  opener := '"'
  closer := '"'
  body := escape t
  gap_blank := blank_space
  gap_ne_nil := space_ne_nil
  paired := rfl
  body_closed := Scan.title_closed_iff.2 (encloses_escape avoidable_endsTitle rfl t)

/-- The layout that the line has. -/
def layout (s : Statement) : Layout Label.maxLength where
  head := {
    label := s.label
    gap := [' ']
    destination := '<' :: (escape s.destination ++ ['>'])
    value := escape s.destination
    label_closed := s.label_closed
    label_short := s.label_short
    key_ne_nil := s.key_ne_nil
    gap_blank := blank_space
    destination_whole := rawDestination_escape s.destination }
  title := s.title.map titlePart
  trail := []
  trail_blank := blank_nil

/-- The line begins with its bracket, without blanks before it. -/
def entry (s : Statement) : Entry Label.maxLength where
  indent := []
  layout := s.layout
  indent_blank := blank_nil
  indent_inline := by simp
  tidy := by
    have one : [' '].count '\n' ≤ 1 := by decide
    refine ⟨one, fun t mem => ?_, by simp [layout]⟩
    obtain ⟨t, -, rfl⟩ := Option.map_eq_some_iff.1 mem
    exact one

theorem entry_text (s : Statement) : s.entry.text = s.line := by
  obtain ⟨label, destination, title, _, _, _, _⟩ := s
  cases title <;>
    simp [Entry.text, entry, layout, Layout.text, Head.text, TitlePart.text, titlePart, line,
      titleText]

theorem layout_definition (s : Statement) : s.layout.definition = s.definition := by
  obtain ⟨label, destination, title, _, _, _, _⟩ := s
  cases title <;>
    simp [Layout.definition, layout, Head.key, titlePart, definition, unescape_escape]

theorem line_ne_nil (s : Statement) : s.line ≠ [] := List.cons_ne_nil _ _

theorem line_unbroken (s : Statement) : Unbroken s.line := by
  have avoids {c : Char} (ending : c = '\n' ∨ c = '\r') (label : c ∉ s.label) : c ∉ s.line := by
    have marks : c ∉ "[]: <>\"".toList := by rcases ending with rfl | rfl <;> decide
    have escaped := not_mem_escape ending
    cases title : s.title <;> simp_all [line, titleText]
  exact ⟨avoids (.inl rfl) s.label_unbroken.1, avoids (.inr rfl) s.label_unbroken.2⟩

/-- The lines of the entries are those of the statements, each of them one line. -/
theorem splitOn_entries {ss : List Statement} (h : ss ≠ []) :
    (joinLines ((ss.map entry).map Entry.text)).splitOn '\n' = ss.map line := by
  have texts : (ss.map entry).map Entry.text = ss.map line := by
    simp [entry_text]
  rw [texts]
  refine List.splitOn_intercalate _ ?_ (by simpa using h)
  rw [List.forall_mem_map]
  exact fun s _ => s.line_unbroken.1

/-- A parser that is fed the lines of some statements finds their definitions, and leaves none of
the lines. -/
theorem fed_lines (ss : List Statement) :
    (fed Label.maxLength (ss.map line)).committed = ss.map definition ∧
      (fed Label.maxLength (ss.map line)).remaining = [] := by
  cases ss with
  | nil => exact ⟨rfl, rfl⟩
  | cons s ss =>
    have lines := splitOn_entries (List.cons_ne_nil s ss)
    have full : [] ∉ (joinLines (((s :: ss).map entry).map Entry.text)).splitOn '\n' := by
      rw [lines, List.mem_map]
      rintro ⟨s, -, empty⟩
      exact s.line_ne_nil empty
    have done := done_fed_entries ((s :: ss).map entry) full
    rw [lines] at done
    refine ⟨?_, done.remaining⟩
    rw [done.committed, List.map_map]
    exact List.map_congr_left fun s _ => s.layout_definition

end Statement

/-- The text of a paragraph that states definitions, a line each. -/
def stated (ss : List (Statement × LineEnding)) : Text :=
  endLines (ss.map fun (s, e) => (s.line, e))

theorem splitLines_stated (ss : List (Statement × LineEnding)) :
    splitLines (stated ss) = ss.map fun (s, _) => s.line := by
  have unbroken : ∀ l ∈ ss.map fun (s, e) => (s.line, e), Unbroken l.1 := by
    rw [List.forall_mem_map]
    exact fun x _ => x.1.line_unbroken
  have filled : ∀ l ∈ ss.map fun (s, e) => (s.line, e), l.1 ≠ [] := by
    rw [List.forall_mem_map]
    exact fun x _ => x.1.line_ne_nil
  rw [stated, splitLines_endLines unbroken (isChain_apart_of_ne_nil filled), List.map_map]
  rfl

/-- **Writing and reading.** Definitions that are stated in the lines of a paragraph, whatever
their texts and the line endings, are the definitions of the paragraph, and no line is left. -/
theorem parseDefinitions_stated (ss : List (Statement × LineEnding)) :
    ∃ e, parseDefinitions none (.text (stated ss)) = .ok e ∧
      e.definitions = ss.map (fun (s, _) => s.definition) ∧
      e.remaining = [] ∧ e.paragraphText = none := by
  have lines : (Paragraph.text (stated ss)).toLines = (ss.map Prod.fst).map Statement.line := by
    rw [Paragraph.toLines, splitLines_stated, List.map_map]
    rfl
  obtain ⟨committed, remaining⟩ := Statement.fed_lines (ss.map Prod.fst)
  rw [parseDefinitions_eq, Paragraph.extraction, lines]
  refine ⟨_, rfl, ?_, remaining, if_pos remaining⟩
  show (fed _ _).committed = _
  rw [committed, List.map_map]
  rfl

/-- A destination with brackets, a reference and a line end, and a title with quotation marks. -/
def awkward : Statement where
  label := "Foo  Bar".toList
  destination := "a<b>\n&amp;".toList
  title := some "\"c\\".toList
  label_unbroken := ⟨by decide, by decide⟩
  label_closed := by decide
  label_short := by decide
  key_ne_nil := by decide +kernel

theorem parseDefinitions_stated_awkward :
    stated [(awkward, .cr), (awkward, .crlf)] =
        ("[Foo  Bar]: <a\\<b\\>&#10;\\&amp\\;> \"\\\"c\\\\\"\r" ++
          "[Foo  Bar]: <a\\<b\\>&#10;\\&amp\\;> \"\\\"c\\\\\"\r\n").toList ∧
      ∃ e, parseDefinitions none (.text (stated [(awkward, .cr), (awkward, .crlf)])) = .ok e ∧
        e.definitions = [awkward.definition, awkward.definition] ∧
        e.remaining = [] ∧ e.paragraphText = none :=
  ⟨by decide +kernel, parseDefinitions_stated [(awkward, .cr), (awkward, .crlf)]⟩

end LinkDefinitions
