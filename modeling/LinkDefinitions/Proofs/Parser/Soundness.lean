import LinkDefinitions.Proofs.Parser.Accounting
import LinkDefinitions.Proofs.Parser.Scratch

/-!
# Every definition stands in the lines taken

The lines that a parser has taken are cut into blocks, one for each definition that a harvest gives
and in the same order (`exists_blocks`). So a harvest gives nothing but what is written in the
lines, and every definition ends with a line (`feedAll_sound`).

`Explains` is the invariant that carries this: the blocks of the definitions found, that of the
pending draft, and the scratch of the one that is being read account for every line that is not
empty.
-/

namespace LinkDefinitions

namespace Parser

variable {limit : Nat} {inline : Prop} {fed : List Text} {p q : Parser} {line s t u : Text}
  {blocks : List (Block limit)} {draft : Option (Block limit)} {stage : Stage} {x : Spot}

/-- The lines fed are those of the blocks and those left, and those left hold what is being read. -/
structure Explains (inline : Prop) (fed : List Text) (p : Parser) (t : Text)
    (blocks : List (Block limit)) (draft : Option (Block limit)) : Prop where
  labelLimit : p.labelLimit = limit
  finalized : p.finalized = blocks.map Block.definition
  pending : p.pending.map Draft.resolved = draft.map Block.definition
  accounted : filled fed = (blocks ++ draft.toList).flatMap Block.lines ++ filled p.remaining
  tidy : inline → ∀ block ∈ blocks ++ draft.toList, block.layout.Tidy
  place : p.stage = .paragraph ∨ ∃ x, Scratch inline p.stage draft x t ∧
    draft.toList.flatMap Block.lines ++ filled p.remaining = x.lines ++ filled [x.column ++ t]

theorem explains_fresh (inline : Prop) (limit : Nat) :
    Explains inline [] (fresh limit) [] ([] : List (Block limit)) none where
  labelLimit := rfl
  finalized := rfl
  pending := rfl
  accounted := rfl
  tidy := by simp
  place := .inr ⟨⟨[], []⟩, .start, rfl⟩

theorem Explains.committed (h : Explains inline fed p t blocks draft) :
    p.committed = (blocks ++ draft.toList).map Block.definition := by
  rw [Parser.committed, h.pending, h.finalized, List.map_append]
  cases draft <;> rfl

theorem Explains.tidy_concat {block : Block limit} (h : Explains inline fed p t blocks draft)
    (tidy : inline → block.layout.Tidy) :
    inline → ∀ other ∈ blocks ++ [block], other.layout.Tidy := by
  intro holds other mem
  rcases List.mem_append.1 mem with mem | mem
  · exact h.tidy holds other (List.mem_append_left _ mem)
  · rw [List.mem_singleton.1 mem]
    exact tidy holds

/-- A move within a definition. -/
theorem Explains.goto (h : Explains inline fed p t blocks draft) (unread : s ++ u = t)
    (lines : draft.toList.flatMap Block.lines ++ filled p.remaining =
      x.lines ++ filled [x.column ++ t])
    (scratch : Scratch inline stage draft (x.extend s) u) :
    Explains inline fed (p.goto stage) u blocks draft := by
  refine ⟨h.labelLimit, h.finalized, h.pending, h.accounted, h.tidy, .inr ⟨_, scratch, ?_⟩⟩
  rw [goto_remaining, lines, ← unread, ← List.append_assoc]
  rfl

/-- What is explained before a move is explained after it. -/
theorem Explains.move (h : Explains inline fed p t blocks draft) (coherent : p.Coherent)
    (nonempty : t ≠ []) (within : inline → '\n' ∉ t) (move : p.Move t q u) :
    ∃ (blocks' : List (Block limit)) (draft' : Option (Block limit)),
      Explains inline fed q u blocks' draft' := by
  obtain ⟨x, scratch, lines⟩ := h.place.resolve_left move.ne_paragraph.1
  have begun : filled [x.column ++ t] = [x.column ++ t] :=
    filled_singleton (List.append_ne_nil_of_right_ne_nil _ nonempty)
  cases move with
  | openLabel stage blank =>
    rw [stage] at scratch
    exact ⟨_, _, h.goto (by simp) lines (scratch.openLabel blank)⟩
  | extendLabel stage clear =>
    rw [stage] at scratch
    exact ⟨_, _, h.goto (by simp) lines (scratch.extendLabel nonempty clear)⟩
  | closeLabel stage encloses blank solid short key =>
    rw [stage] at scratch
    refine ⟨_, _, h.goto (by simp) lines (scratch.closeLabel encloses blank ?_ ?_ key)⟩
    · intro holds mem
      exact within holds (by simp [mem])
    · rwa [← h.labelLimit]
  | endDestination stage blank whole trail_blank =>
    rw [stage] at scratch
    obtain ⟨rfl, block, untitled, rfl, rfl, tidy, block_lines⟩ :=
      scratch.endDestination blank within whole trail_blank
    -- The block takes all lines that were left.
    rw [begun, ← block_lines] at lines
    refine ⟨blocks, some block, h.labelLimit, h.finalized, ?_, ?_, ?_,
      .inr ⟨_, .drafted block untitled tidy, by simp⟩⟩
    · simp [Draft.resolved, Block.definition, Layout.definition, untitled]
    · rw [h.accounted, filled_nil]
      simpa using lines
    · exact h.tidy_concat tidy
  | passDestination stage blank whole space_blank space_ne solid u_ne =>
    rw [stage] at scratch
    exact ⟨_, _, h.goto (by simp) lines
      (scratch.passDestination blank within whole space_blank space_ne solid u_ne)⟩
  | openTitle stage blank paired =>
    rw [stage] at scratch
    refine ⟨_, _, h.goto (by simp) lines (scratch.openTitle blank ?_ paired)⟩
    intro holds mem
    exact within holds (by simp [mem])
  | skipTitle stage blank solid other settled =>
    rw [stage] at scratch
    rw [coherent.finalize_eq] at settled
    obtain rfl := Except.ok.inj settled
    obtain ⟨y, scratch, y_lines, y_column⟩ := scratch.skipTitle blank
    -- The block of a pending draft is now one of the blocks found.
    refine ⟨blocks ++ draft.toList, none, h.labelLimit, h.committed, rfl, ?_, ?_,
      .inr ⟨y, scratch, ?_⟩⟩
    · simpa using h.accounted
    · simpa using h.tidy
    · rw [y_lines, List.append_assoc, List.append_cancel_left_eq, ← List.append_assoc] at lines
      simpa [y_column] using lines
  | extendTitle stage clear =>
    rw [stage] at scratch
    exact ⟨_, _, h.goto (by simp) lines (scratch.extendTitle nonempty clear)⟩
  | @closeTitle label destination raw body trail closing r stage encloses blank settled =>
    rw [stage] at scratch
    obtain ⟨block, definition, tidy, block_lines⟩ := scratch.closeTitle encloses blank
      fun holds mem => within holds (by simp [mem])
    rw [begun, ← block_lines] at lines
    rw [Parser.finalize_eq (by simpa using (coherent.allows stage).1)] at settled
    obtain rfl := Except.ok.inj settled
    refine ⟨blocks ++ [block], none, h.labelLimit, ?_, rfl, ?_, ?_, .inr ⟨_, .start, rfl⟩⟩
    · rw [List.map_append, List.map_singleton, definition, ← h.finalized]
      rfl
    · rw [h.accounted, filled_nil]
      simpa using lines
    · rw [Option.toList_none, List.append_nil]
      exact h.tidy_concat tidy

/-- Reading a line to its end. -/
theorem Explains.reading (h : Explains inline fed p t blocks draft) (coherent : p.Coherent)
    (within : inline → '\n' ∉ t) (reading : Reading line p t q) :
    ∃ (blocks' : List (Block limit)) (draft' : Option (Block limit)),
      Explains inline fed q [] blocks' draft' := by
  induction reading generalizing blocks draft with
  | finished p => exact ⟨_, _, h⟩
  | demoted nonempty stuck =>
    exact ⟨_, _, h.labelLimit, h.finalized, h.pending, h.accounted, h.tidy, .inl rfl⟩
  | moved nonempty move rest ih =>
    obtain ⟨_, _, explains⟩ := h.move coherent nonempty within move
    exact ih explains (move.coherent coherent) fun holds mem => within holds (move.suffix.mem mem)

theorem Explains.keep (h : Explains inline fed p [] blocks draft) (line : Text) :
    Explains inline (fed ++ [line]) (p.keep line) line blocks draft := by
  refine ⟨h.labelLimit, h.finalized, h.pending, ?_, h.tidy, ?_⟩
  · rw [filled_append, h.accounted, keep_remaining, filled_append, List.append_assoc]
  · rcases h.place with paragraph | ⟨x, scratch, lines⟩
    · exact .inl paragraph
    · rw [keep_remaining, filled_append, ← List.append_assoc, lines]
      by_cases empty : line = []
      · subst empty
        exact .inr ⟨x, scratch, by simp⟩
      · obtain ⟨y, scratch, y_lines, y_column⟩ := scratch.nextLine empty
        refine .inr ⟨y, scratch, ?_⟩
        rw [y_lines, y_column, List.append_nil]
        rfl

theorem Explains.feed (h : Explains inline fed p [] blocks draft) (coherent : p.Coherent)
    (within : inline → '\n' ∉ line) :
    ∃ (blocks' : List (Block limit)) (draft' : Option (Block limit)),
      Explains inline (fed ++ [line]) (p.call (.feed line)) [] blocks' draft' := by
  obtain ⟨q, fed, -, ⟨paragraph, rfl⟩ | ⟨-, reading⟩⟩ := coherent.feed_cases line
  · rw [call_feed fed]
    have kept := h.keep line
    exact ⟨_, _, kept.labelLimit, kept.finalized, kept.pending, kept.accounted, kept.tidy,
      .inl paragraph⟩
  · rw [call_feed fed]
    exact (h.keep line).reading coherent within reading

theorem exists_explains (inline : Prop) (limit : Nat) (lines : List Text)
    (within : inline → ∀ line ∈ lines, '\n' ∉ line) :
    ∃ (blocks : List (Block limit)) (draft : Option (Block limit)),
      Explains inline lines ((fresh limit).after (lines.map .feed)) [] blocks draft := by
  induction lines using List.reverseRecOn with
  | nil => exact ⟨_, _, explains_fresh inline limit⟩
  | append_singleton lines line ih =>
    simp only [List.mem_append, List.mem_singleton, or_imp, forall_and, forall_eq] at within
    obtain ⟨blocks, draft, explains⟩ := ih within.1
    rw [List.map_append, List.map_singleton, after_concat]
    exact explains.feed (coherent_after limit _) within.2

/-- The lines taken are those of one block for each definition. -/
theorem exists_blocks (limit : Nat) (lines : List Text) :
    ∃ p q consumed, ∃ blocks : List (Block limit),
      (fresh limit).feedAll lines = .ok p ∧ p.harvest = .ok (blocks.map Block.definition, q) ∧
      lines = consumed ++ p.remaining ∧ filled consumed = blocks.flatMap Block.lines ∧
      ((∀ line ∈ lines, '\n' ∉ line) → ∀ block ∈ blocks, block.layout.Tidy) := by
  obtain ⟨blocks, draft, explains⟩ :=
    exists_explains (∀ line ∈ lines, '\n' ∉ line) limit lines id
  have coherent := coherent_after limit (lines.map .feed)
  obtain ⟨consumed, split⟩ := (remaining_after limit (lines.map .feed)).1
  rw [fedLines_map_feed] at split
  refine ⟨(fresh limit).after (lines.map .feed), ((fresh limit).after (lines.map .feed)).settled,
    consumed, blocks ++ draft.toList, (coherent_fresh limit).feedAll_eq lines, ?_, split.symm, ?_,
    explains.tidy⟩
  · rw [coherent.harvest_eq, explains.committed]
  · have accounted := explains.accounted
    rw [← congrArg filled split, filled_append] at accounted
    exact List.append_cancel_right accounted

/-- **Soundness.** What a harvest gives after lines without line feeds is written in them. The lines
taken, the empty ones left out, are those of the blocks, one for each definition and in the same
order. The lines of a block hold some lead and then a tidy layout up to their end, and the
definition is the one that this layout writes. -/
theorem feedAll_sound (limit : Nat) (lines : List Text) (inline : ∀ line ∈ lines, '\n' ∉ line) :
    ∃ p q consumed, ∃ blocks : List (Block limit),
      (fresh limit).feedAll lines = .ok p ∧
      p.harvest = .ok (blocks.map fun block => block.layout.definition, q) ∧
      lines = consumed ++ p.remaining ∧ filled consumed = blocks.flatMap Block.lines ∧
      joinLines (filled lines) = joinLines (blocks.map Block.text ++ filled p.remaining) ∧
      ∀ block ∈ blocks,
        joinLines block.lines = block.opening.lead.text ++ block.layout.text ∧
        block.layout.Tidy ∧ Clear Scan.isBracket block.layout.head.label ∧
        (∀ t ∈ block.layout.title, Clear (Scan.endsTitle [t.closer]) t.body) ∧
        block.layout.definition.label ≠ [] := by
  obtain ⟨p, q, consumed, blocks, fed, harvest, split, taken, tidy⟩ := exists_blocks limit lines
  refine ⟨p, q, consumed, blocks, fed, harvest, split, taken, ?_, fun block mem => ?_⟩
  · refine joinLines_eq_of_terminate_eq ?_
    rw [split, filled_append, taken, terminate_append, Block.terminate_flatMap_lines,
      ← terminate_append]
  · exact ⟨block.joinLines_lines, tidy inline block mem,
      block.layout.head.label_encloses.clear, fun t _ => t.body_encloses.clear,
      block.layout.head.key_ne_nil⟩

/-- Lines of which a definition takes the first three. -/
def fourLines : List Text :=
  ["[Foo]:".toList, "/url 'ti".toList, "tle'".toList, "rest".toList]

theorem feedAll_sound_fourLines :
    (∀ line ∈ fourLines, '\n' ∉ line) ∧
      ∃ consumed, ∃ blocks : List (Block 999),
        (blocks.map fun block => block.layout.definition) =
          [⟨"foo".toList, "/url".toList, some "ti\ntle".toList⟩] ∧
        fourLines = consumed ++ ["rest".toList] ∧ filled consumed = blocks.flatMap Block.lines ∧
        ∀ block ∈ blocks,
          joinLines block.lines = block.opening.lead.text ++ block.layout.text ∧
          block.layout.Tidy := by
  have inline : ∀ line ∈ fourLines, '\n' ∉ line := by decide
  have known : (fresh 999).feedAll fourLines = .ok
      ⟨999, .paragraph, none, ["rest".toList],
        [⟨"foo".toList, "/url".toList, some "ti\ntle".toList⟩],
        [.finalized "foo".toList "/url".toList, .demoted .startDefinition "rest".toList]⟩ := by
    decide +kernel
  obtain ⟨p, q, consumed, blocks, fed, harvest, split, taken, -, written⟩ :=
    feedAll_sound 999 fourLines inline
  rw [known] at fed
  obtain rfl := Except.ok.inj fed
  obtain ⟨definitions, -⟩ := Prod.mk.inj (Except.ok.inj harvest)
  exact ⟨inline, consumed, blocks, definitions.symm, split, taken,
    fun block mem => ⟨(written block mem).1, (written block mem).2.1⟩⟩

end Parser

end LinkDefinitions
