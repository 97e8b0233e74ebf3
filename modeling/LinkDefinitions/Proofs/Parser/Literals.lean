import LinkDefinitions.Proofs.Escapes
import LinkDefinitions.Proofs.Parser.Soundness

/-!
# The literal texts of a harvest

The destination and the title of a definition are the literal texts of what its block holds. A
title that goes over several lines is resolved line by line, since nothing goes on over a line feed
(`unescape_splits`). The characters that the scans of a block skipped behind a backslash are the
ones that stand in the definition without it (`escapes_agree`).
-/

namespace LinkDefinitions

variable {limit : Nat}

/-! ### Literal texts of a block -/

/-- Where the raw texts of a block stand in it, and what becomes of their escapes. -/
structure Block.Resolved (block : Block limit) : Prop where
  /-- The scan of the destination takes it where it stands. -/
  destination : ∃ before rest,
    block.text = before ++ (block.layout.head.destination ++ rest) ∧
      Scan.rawDestination (block.layout.head.destination ++ rest) =
        some (block.layout.head.value, rest) ∧
      Resolves block.layout.head.value block.definition.destination
  /-- So does the scan of the title. -/
  title : ∀ t ∈ block.layout.title, ∃ before rest u,
    block.text = before ++ (t.body ++ t.closer :: rest) ∧
      Scan.title [t.closer] (t.body ++ t.closer :: rest) = some (t.body, t.closer :: rest) ∧
      block.definition.title = some u ∧ Resolves t.body u

/-- What comes after a destination begins with a blank, if there is anything. -/
theorem Layout.isBlank_head (l : Layout limit) :
    ∀ c ∈ (l.title.elim [] TitlePart.text ++ l.trail).head?, isBlank c = true := by
  intro c head
  cases title : l.title with
  | none =>
    rw [title] at head
    exact l.trail_blank.isBlank_of_mem (List.mem_of_head? head)
  | some t =>
    obtain ⟨d, gap, eq⟩ := List.exists_cons_of_ne_nil t.gap_ne_nil
    have first : d = c := by simpa [title, TitlePart.text, eq] using head
    exact first ▸ t.gap_blank.isBlank_of_mem (eq ▸ List.mem_cons_self)

theorem Block.resolved (block : Block limit) : block.Resolved := by
  constructor
  · refine ⟨block.opening.lead.text ++
      '[' :: (block.layout.head.label ++ ']' :: ':' :: block.layout.head.gap), _, ?_,
      Scan.rawDestination_append block.layout.head.destination_whole block.layout.isBlank_head,
      resolves_unescape _⟩
    simp [Block.text, Layout.text, Head.text]
  · intro t some_title
    have title : block.layout.title = some t := some_title
    refine ⟨block.opening.lead.text ++ (block.layout.head.text ++ (t.gap ++ [t.opener])),
      block.layout.trail, unescape t.body, ?_, ?_, ?_, resolves_unescape _⟩
    · simp [Block.text, Layout.text, TitlePart.text, title]
    · exact Scan.title_eq_some_iff.2 ⟨rfl, .inr ⟨_, rfl, t.body_encloses⟩⟩
    · rw [Block.definition, Layout.definition, title]
      rfl

namespace Parser

/-- **Boundaries.** At a boundary where nothing can go on a text splits into two that are resolved
apart. So a text over several lines is resolved line by line, and no token of it reaches over a line
feed. The titles of a harvest are resolved in this way, however they are cut into lines. -/
theorem unescape_splits :
    (∀ a b, Boundary a b → unescape (a ++ b) = unescape a ++ unescape b) ∧
    (∀ ls, unescape (joinLines ls) = joinLines (ls.map unescape) ∧
      Literal.tokens (joinLines ls) = [.plain '\n'].intercalate (ls.map Literal.tokens)) ∧
    ∀ (limit : Nat) (lines : List Text), ∃ p q consumed, ∃ blocks : List (Block limit),
      (fresh limit).feedAll lines = .ok p ∧ p.harvest = .ok (blocks.map Block.definition, q) ∧
      lines = consumed ++ p.remaining ∧ filled consumed = blocks.flatMap Block.lines ∧
      ∀ block ∈ blocks, joinLines block.lines = block.text ∧
        ∀ t ∈ block.layout.title, ∀ pieces, joinLines pieces = t.body →
          block.definition.title = some (joinLines (pieces.map unescape)) := by
  refine ⟨fun a b boundary => unescape_append_of_cut boundary.cut boundary.parted,
    fun ls => ⟨unescape_joinLines ls, tokens_joinLines ls⟩, fun limit lines => ?_⟩
  obtain ⟨p, q, consumed, blocks, fed, harvest, split, taken, -⟩ := exists_blocks limit lines
  refine ⟨p, q, consumed, blocks, fed, harvest, split, taken,
    fun block _ => ⟨block.joinLines_lines, ?_⟩⟩
  rintro t some_title pieces body
  have title : block.layout.title = some t := some_title
  rw [Block.definition, Layout.definition, title, Option.map_some, ← body, unescape_joinLines]

/-- A definition whose title would hold another reference and another escape if its lines were
joined by nothing. -/
def brokenTitle : List Text := ["[a]: /b 'x&amp".toList, ";\\".toList, "*y&#35;'".toList]

theorem unescape_splits_brokenTitle :
    Boundary "&#35;\\;".toList "&amp;".toList ∧
      "#;&".toList = unescape "&#35;\\;".toList ++ unescape "&amp;".toList ∧
      ∃ block : Block 999,
        block.definition = ⟨"a".toList, "/b".toList, some "x&amp\n;\\\n*y#".toList⟩ ∧
        ∃ t ∈ block.layout.title, joinLines (t.body.splitOn '\n') = t.body ∧
          "x&amp\n;\\\n*y#".toList = joinLines ((t.body.splitOn '\n').map unescape) := by
  obtain ⟨splits, -, harvests⟩ := unescape_splits
  have boundary : Boundary "&#35;\\;".toList "&amp;".toList := by
    refine .inl fun c last => ?_
    obtain rfl : ';' = c := Option.some.inj last
    decide
  have literal : unescape ("&#35;\\;".toList ++ "&amp;".toList) = "#;&".toList := by
    decide +kernel
  refine ⟨boundary, literal.symm.trans (splits _ _ boundary), ?_⟩
  have known : (fresh 999).feedAll brokenTitle = .ok
      ⟨999, .startDefinition, none, [],
        [⟨"a".toList, "/b".toList, some "x&amp\n;\\\n*y#".toList⟩],
        [.finalized "a".toList "/b".toList]⟩ := by
    decide +kernel
  obtain ⟨p, q, consumed, blocks, fed, harvest, -, -, written⟩ := harvests 999 brokenTitle
  rw [known] at fed
  obtain rfl := Except.ok.inj fed
  obtain ⟨definitions, -⟩ := Prod.mk.inj (Except.ok.inj harvest)
  obtain ⟨block, rfl, definition⟩ := List.map_eq_singleton_iff.1 definitions.symm
  refine ⟨block, definition, ?_⟩
  have title : block.layout.title.map (fun t => unescape t.body) =
      some "x&amp\n;\\\n*y#".toList := congrArg Definition.title definition
  obtain ⟨t, some_title, -⟩ := Option.map_eq_some_iff.1 title
  have whole : joinLines (t.body.splitOn '\n') = t.body := List.intercalate_splitOn '\n'
  have lines := (written block (List.mem_singleton_self block)).2 t some_title _ whole
  rw [definition] at lines
  exact ⟨t, some_title, whole, Option.some.inj lines⟩

/-- **Escapes.** The scans and the resolution agree on the escaped positions of every text, and the
scans skip what they take as they would by itself, line by line. So in a harvest the characters
skipped behind a backslash are those of which the definition has the character alone. -/
theorem escapes_agree :
    (∀ t, Literal.escapes t = Scan.escapes t) ∧
    (∀ t value rest, Scan.rawDestination t = some (value, rest) →
      Captured t (if t.head? = some '<' then 1 else 0) value) ∧
    (∀ q t body rest, Scan.title [q] t = some (body, rest) → Captured t 0 body) ∧
    (∀ a s, Scan.escapes (a ++ '\n' :: s) =
      Scan.escapes a ++ (Scan.escapes s).map (· + (a.length + 1))) ∧
    ∀ (limit : Nat) (lines : List Text), ∃ p q consumed, ∃ blocks : List (Block limit),
      (fresh limit).feedAll lines = .ok p ∧ p.harvest = .ok (blocks.map Block.definition, q) ∧
      lines = consumed ++ p.remaining ∧ filled consumed = blocks.flatMap Block.lines ∧
      ∀ block ∈ blocks, joinLines block.lines = block.text ∧ block.Resolved := by
  refine ⟨Literal.escapes_eq, fun t value rest => Scan.captured_of_rawDestination,
    fun q t body rest => Scan.captured_of_title, Scan.escapes_break, fun limit lines => ?_⟩
  obtain ⟨p, q, consumed, blocks, fed, harvest, split, taken, -⟩ := exists_blocks limit lines
  exact ⟨p, q, consumed, blocks, fed, harvest, split, taken,
    fun block _ => ⟨block.joinLines_lines, block.resolved⟩⟩

/-- A definition with runs of backslashes next to references. -/
def escapedParts : List Text := ["[a]: <\\\\&#92;\\>> '\\&amp;\\\\'".toList]

theorem escapes_agree_escapedParts :
    Literal.escapes "\\\\&#92;\\>".toList = [1, 8] ∧
      Scan.rawDestination "<\\\\&#92;\\>> '".toList =
        some ("\\\\&#92;\\>".toList, " '".toList) ∧
      Captured "<\\\\&#92;\\>> '".toList 1 "\\\\&#92;\\>".toList ∧
      Scan.title "'".toList "\\&amp;\\\\'".toList = some ("\\&amp;\\\\".toList, "'".toList) ∧
      Captured "\\&amp;\\\\'".toList 0 "\\&amp;\\\\".toList ∧
      ∃ block : Block 999,
        block.definition = ⟨"a".toList, "\\\\>".toList, some "&amp;\\".toList⟩ ∧
        joinLines block.lines = block.text ∧ block.Resolved := by
  obtain ⟨agree, destinations, titles, -, harvests⟩ := escapes_agree
  have positions : Scan.escapes "\\\\&#92;\\>".toList = [1, 8] := by decide
  have destination : Scan.rawDestination "<\\\\&#92;\\>> '".toList =
      some ("\\\\&#92;\\>".toList, " '".toList) := by decide
  have title : Scan.title "'".toList "\\&amp;\\\\'".toList =
      some ("\\&amp;\\\\".toList, "'".toList) := by decide
  refine ⟨(agree _).trans positions, destination, destinations _ _ _ destination, title,
    titles _ _ _ _ title, ?_⟩
  have known : (fresh 999).feedAll escapedParts = .ok
      ⟨999, .startDefinition, none, [],
        [⟨"a".toList, "\\\\>".toList, some "&amp;\\".toList⟩],
        [.finalized "a".toList "\\\\>".toList]⟩ := by
    decide +kernel
  obtain ⟨p, q, consumed, blocks, fed, harvest, -, -, written⟩ := harvests 999 escapedParts
  rw [known] at fed
  obtain rfl := Except.ok.inj fed
  obtain ⟨definitions, -⟩ := Prod.mk.inj (Except.ok.inj harvest)
  obtain ⟨block, rfl, definition⟩ := List.map_eq_singleton_iff.1 definitions.symm
  exact ⟨block, definition, written block (List.mem_singleton_self block)⟩

end Parser

end LinkDefinitions
