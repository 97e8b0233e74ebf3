import LinkDefinitions.Proofs.Parser.Alike
import LinkDefinitions.Proofs.Parser.Completeness
import LinkDefinitions.Proofs.Parser.Soundness

/-!
# Heads without an end

A label and a destination that are followed in the line by something else than a title make no
definition, and the parser tries what follows as the beginning of another one. If it is one, the
head is abandoned: what is read of it goes to the lines of that other definition. `bracket_line_iff`
says exactly when this happens, seen from a definition and seen from a head.

So a definition begins its line unless a head was abandoned right before it, and a head that is
followed by something else keeps its lines exactly if what follows makes the block a paragraph.
-/

namespace LinkDefinitions

variable {limit : Nat} {b y : Text} {c : Char}

/-- A lead that a parser reads at the beginning of a line: its gaps go over at most one line end
each, and the blanks before and after its heads over none. -/
def Lead.Tidy : Lead limit → Prop
  | .indent b _ => '\n' ∉ b
  | .abandoned before head b _ _ => before.Tidy ∧ head.gap.count '\n' ≤ 1 ∧ '\n' ∉ b

namespace Parser

variable {p q : Parser} {line t : Text} {ds : List Definition}

/-! ### Reading a lead -/

theorem At.coherent (h : At limit ds .startDefinition none p) : p.Coherent := by
  unfold Coherent
  rw [h.stage, h.pending]
  rfl

theorem At.ready (h : At limit ds .startDefinition none p) : Ready limit ds p := by
  refine ⟨h.labelLimit, ?_, h.coherent, .inl h.stage⟩
  rw [committed_of_pending_eq_none h.pending, h.finalized]

/-- A head is left behind at a character that opens no title. -/
theorem leads_abandoned (ds : List Definition) (head : Head limit)
    (breaks : head.gap.count '\n' ≤ 1) {indent : Text} (indent_blank : Blank indent)
    (indent_inline : '\n' ∉ indent) (blank : Blank b) (b_ne : b ≠ []) (inline : '\n' ∉ b)
    (solid : isBlank c = false) (other : titleCloser? c = none)
    (full : [] ∉ laterLines (indent ++ (head.text ++ (b ++ c :: y)))) :
    Leads (Ready limit ds) (indent ++ (head.text ++ (b ++ c :: y)))
      (At limit ds .startDefinition none) (c :: y) := by
  have begins : firstLine (c :: y) = c :: firstLine y :=
    firstLine_cons (ne_break_of_isBlank solid) y
  obtain ⟨a, a_blank, a_inline, to_destination⟩ :=
    leads_head ds head breaks indent_blank indent_inline full
  have passed : Leads (At limit ds (.destination head.key) none)
      (a ++ (head.destination ++ (b ++ c :: y)))
      (At limit ds (.startTitle head.key head.value) none) (c :: y) := by
    refine Leads.of_move (s := a ++ (head.destination ++ b)) (by simp)
      (by simpa using ⟨a_inline, head.inline_destination, inline⟩)
      (by simp [head.destination_ne_nil]) fun p at_destination => ?_
    rw [begins, List.append_assoc, List.append_assoc]
    exact ⟨_, .passDestination at_destination.stage a_blank head.destination_whole blank b_ne
      (solid_cons_iff.2 solid) (List.cons_ne_nil _ _), at_destination.goto _⟩
  have skipped : Leads (At limit ds (.startTitle head.key head.value) none) (c :: y)
      (At limit ds .startDefinition none) (c :: y) := by
    refine Leads.of_move (s := []) rfl (by simp) (by simp [begins]) fun p at_title => ?_
    have settled : p.finalize = .ok p := by
      unfold finalize
      rw [at_title.pending]
    refine ⟨_, .skipTitle at_title.stage blank_nil ?_ ?_ settled, at_title.goto _⟩
    · rw [begins]
      exact solid_cons_iff.2 solid
    · rw [begins]
      intro d first
      obtain rfl : c = d := Option.some.inj first
      exact other
  exact to_destination.trans (passed.trans skipped)

/-- After a lead that abandons its heads another definition may start, and nothing has come of the
lead. -/
theorem leads_lead (lead : Lead limit) (tidy : lead.Tidy) (abandons : lead.Abandons)
    (solid : isBlank c = false) (other : titleCloser? c = none)
    (full : [] ∉ laterLines (lead.text ++ c :: y)) :
    Leads (Ready limit ds) (lead.text ++ c :: y) (At limit ds .startDefinition none) (c :: y) := by
  induction lead generalizing c y with
  | indent b blank => exact abandons.elim
  | abandoned before head b blank b_ne ih =>
    obtain ⟨before_tidy, breaks, inline⟩ := tidy
    unfold Lead.text at full ⊢
    rw [List.append_assoc, List.append_assoc] at full ⊢
    cases before with
    | indent indent indent_blank =>
      exact leads_abandoned ds head breaks indent_blank before_tidy blank b_ne inline solid other
        full
    | abandoned before' head' b' blank' b'_ne =>
      -- The heads before it are left behind at the bracket of this one.
      have first := ih before_tidy trivial (c := '[')
        (y := head.label ++ ']' :: ':' :: (head.gap ++ head.destination) ++ (b ++ c :: y))
        (by decide) (by decide) full
      have later := laterLines_suffix_append (Lead.text (.abandoned before' head' b' blank' b'_ne))
        (head.text ++ (b ++ c :: y))
      have second := leads_abandoned ds head breaks blank_nil (by simp) blank b_ne inline
        solid other fun mem => full (later.mem mem)
      intro p line ready
      obtain ⟨q, line', at_start, eq⟩ := first p line ready
      obtain ⟨r, line'', at_end, eq'⟩ := second q line' at_start.ready
      exact ⟨r, line'', at_end, eq.trans eq'⟩

/-! ### What becomes of an abandoned head -/

/-- After abandoned heads a parser reads on as a fresh one does at the beginning of a line. -/
theorem Ready.exists_reading (ready : Ready limit ds p) (lead : Lead limit) (tidy : lead.Tidy)
    (abandons : lead.Abandons) (solid : isBlank c = false) (other : titleCloser? c = none)
    (inline : '\n' ∉ y) (full : [] ∉ (lead.text ++ c :: y).splitOn '\n') :
    ∃ m q, p.feedAll ((lead.text ++ c :: y).splitOn '\n') = .ok q ∧
      At limit ds .startDefinition none m ∧ ∃ line, Reading line m (c :: y) q := by
  have unbroken : '\n' ∉ c :: y := by simpa [Ne.symm (ne_break_of_isBlank solid)]
  have rest : firstLine (c :: y) = c :: y := by
    have first := firstLine_append unbroken []
    rwa [firstLine_nil, List.append_nil] at first
  have later : laterLines (c :: y) = [] := by
    have others := laterLines_append unbroken []
    rwa [laterLines_nil, List.append_nil] at others
  obtain ⟨m, line, at_start, eq⟩ := leads_lead lead tidy abandons solid other
    (fun mem => full (List.mem_of_mem_tail mem)) _ (firstLine (lead.text ++ c :: y)) (ready.keep _)
  have goes_on : m.stage ≠ .paragraph := at_start.stage ▸ Stage.noConfusion
  obtain ⟨q, reading⟩ := at_start.coherent.exists_reading goes_on line (c :: y)
  refine ⟨m, q, ?_, at_start, line, reading⟩
  rw [feedAll_splitOn ready.ne_paragraph, eq, resume, rest, later, read_of_reading reading]
  rfl

/-- Abandoned heads have come to nothing exactly if the rest of their line makes a paragraph. -/
theorem Ready.abandoned_iff (ready : Ready limit ds p) (lead : Lead limit) (tidy : lead.Tidy)
    (abandons : lead.Abandons) (solid : isBlank c = false) (other : titleCloser? c = none)
    (inline : '\n' ∉ y) (lines : List Text)
    (whole : filled lines = (lead.text ++ c :: y).splitOn '\n') :
    ∃ q, p.feedAll lines = .ok q ∧ q.Coherent ∧
      (q.stage = .paragraph ∧ q.committed = ds ∧ q.remaining = p.remaining ++ lines ↔
        ((fresh limit).feed (c :: y)).parser.stage = .paragraph) := by
  have full := nil_not_mem_filled lines
  rw [whole] at full
  obtain ⟨m, q, fed, at_start, line, reading⟩ :=
    ready.exists_reading lead tidy abandons solid other inline full
  rw [← whole, ready.coherent.feedAll_eq] at fed
  have begun := at_start.coherent
  -- The same line read by a fresh parser, which has found nothing before.
  have alike : Alike ds [] m ((fresh limit).keep (c :: y)) :=
    ⟨at_start.labelLimit.symm, at_start.stage.symm, at_start.pending.symm, [],
      by rw [at_start.finalized, List.append_nil], rfl⟩
  obtain ⟨q', reading', ends⟩ := reading.simulate alike begun (c :: y)
  have fed' : ((fresh limit).feed (c :: y)).parser = q' :=
    congrArg Feeding.parser (feed_of_reading Stage.noConfusion reading')
  -- The same lines with the empty ones among them.
  have filled := alike_after_filled (Alike.refl p) ready.coherent lines
  rw [Except.ok.inj fed] at filled
  refine ⟨_, ready.coherent.feedAll_eq lines, ready.coherent.after _, ?_⟩
  rw [fed', ends.stage, filled.stage]
  refine ⟨fun kept => kept.1, fun paragraph => ⟨paragraph, ?_⟩⟩
  have quiet := reading.quiet_of_paragraph begun (at_start.stage ▸ Stage.noConfusion)
    (filled.stage.trans paragraph)
  have committed : (p.after (lines.map .feed)).committed = ds :=
    filled.committed.symm.trans (quiet.committed.trans at_start.ready.committed)
  exact ⟨committed,
    ready.coherent.remaining_of_committed_eq lines (committed.trans ready.committed.symm)⟩

theorem feed_fresh_of_ne_bracket (limit : Nat) (solid : isBlank c = false) (bracket : c ≠ '[')
    (y : Text) : ((fresh limit).feed (c :: y)).parser.stage = .paragraph := by
  have start : (fresh limit).stage = .startDefinition := rfl
  have demoted := feed_of_ne_bracket start blank_nil solid bracket y
  rw [List.nil_append] at demoted
  rw [demoted]
  rfl

/-- **Where definitions begin.** The line of the opening bracket of a definition is blank before it
exactly if no head was abandoned right before it. And when heads are followed in their line by a
character that opens no title, then the block becomes a paragraph, with no definition more and with
all these lines left, exactly if a fresh parser makes a paragraph of the rest of the line, as it
does unless the character is an opening bracket. -/
theorem bracket_line_iff (limit : Nat) :
    (∀ lines, ∃ p q consumed, ∃ blocks : List (Block limit),
      (fresh limit).feedAll lines = .ok p ∧
      p.harvest = .ok (blocks.map fun block => block.layout.definition, q) ∧
      lines = consumed ++ p.remaining ∧ filled consumed = blocks.flatMap Block.lines ∧
      ∀ block ∈ blocks, ∃ before column rest more,
        block.lines = before ++ (column ++ '[' :: rest) :: more ∧
        terminate before ++ column = block.opening.lead.text ∧
        joinLines block.lines = block.opening.lead.text ++ block.layout.text ∧
        (Blank column ↔ ¬ block.opening.lead.Abandons)) ∧
    ∀ (calls : List Call) (lead : Lead limit) (c : Char) (rest : Text) (lines : List Text),
      let p := (fresh limit).after calls
      (p.stage = .startDefinition ∨ ∃ key raw, p.stage = .startTitle key raw) →
      lead.Tidy → lead.Abandons → isBlank c = false → titleCloser? c = none → '\n' ∉ rest →
      filled lines = (lead.text ++ c :: rest).splitOn '\n' →
      ∃ old p' q new q', p.harvest = .ok (old, p') ∧ p.feedAll lines = .ok q ∧
        q.harvest = .ok (new, q') ∧
        (q.stage = .paragraph ∧ new = old ∧ q.remaining = p.remaining ++ lines ↔
          ((fresh limit).feed (c :: rest)).parser.stage = .paragraph) ∧
        (c ≠ '[' → ((fresh limit).feed (c :: rest)).parser.stage = .paragraph) := by
  constructor
  · intro lines
    obtain ⟨p, q, consumed, blocks, fed, harvest, split, taken, -⟩ := exists_blocks limit lines
    refine ⟨p, q, consumed, blocks, fed, harvest, split, taken, fun block _ => ?_⟩
    obtain ⟨rest, more, line⟩ := block.exists_line
    exact ⟨_, _, rest, more, line, block.opening.text_eq, block.joinLines_lines,
      block.opening.fits.blank_iff⟩
  · intro calls lead c rest lines p stage tidy abandons solid other inline whole
    have coherent : p.Coherent := coherent_after limit calls
    have ready : Ready limit p.committed p := ⟨labelLimit_after limit calls, rfl, coherent, stage⟩
    obtain ⟨q, fed, coherent', iff⟩ :=
      ready.abandoned_iff lead tidy abandons solid other inline lines whole
    exact ⟨_, _, q, _, _, coherent.harvest_eq, fed, coherent'.harvest_eq, iff,
      fun bracket => feed_fresh_of_ne_bracket limit solid bracket rest⟩

def abandonedHead : Head 999 where
  label := ['a']
  gap := ['\n']
  destination := "/x".toList
  value := "/x".toList
  label_closed := by decide
  label_short := by decide
  key_ne_nil := by decide +kernel
  gap_blank := by decide
  destination_whole := by decide

/-- A head over two lines, with a blank after it. -/
def abandonedLead : Lead 999 :=
  .abandoned (.indent [] blank_nil) abandonedHead [' '] rfl (List.cons_ne_nil _ _)

theorem bracket_line_iff_abandonedLead :
    abandonedLead.Tidy ∧ abandonedLead.Abandons ∧
      filled ["[a]:".toList, "/x z".toList] = (abandonedLead.text ++ ['z']).splitOn '\n' ∧
      ∃ old p' q new q', (fresh 999).harvest = .ok (old, p') ∧
        (fresh 999).feedAll ["[a]:".toList, "/x z".toList] = .ok q ∧ q.harvest = .ok (new, q') ∧
        q.stage = .paragraph ∧ new = old ∧ q.remaining = ["[a]:".toList, "/x z".toList] := by
  have tidy : abandonedLead.Tidy := ⟨List.not_mem_nil, by decide, by decide⟩
  have whole : filled ["[a]:".toList, "/x z".toList] =
      (abandonedLead.text ++ ['z']).splitOn '\n' := by decide
  obtain ⟨old, p', q, new, q', harvest, fed, harvest', iff, paragraph⟩ :=
    (bracket_line_iff 999).2 [] abandonedLead 'z' [] ["[a]:".toList, "/x z".toList] (.inl rfl) tidy
      trivial (by decide) (by decide) (by decide) whole
  exact ⟨tidy, trivial, whole, old, p', q, new, q', harvest, fed, harvest',
    iff.2 (paragraph (by decide))⟩

/-- The lines of an abandoned head are lost if a definition follows. -/
theorem feedAll_loses_abandonedHead :
    ∃ p q, (fresh 999).feedAll ["[a]:".toList, "/x [b]: /y".toList] = .ok p ∧
      p.stage ≠ .paragraph ∧ p.remaining = [] ∧
      p.harvest = .ok ([⟨['b'], "/y".toList, none⟩], q) := by
  refine ⟨⟨999, .startTitle ['b'] "/y".toList, some ⟨['b'], "/y".toList, none⟩, [], [], []⟩,
    ⟨999, .startTitle ['b'] "/y".toList, none, [], [⟨['b'], "/y".toList, none⟩],
      [.finalized ['b'] "/y".toList]⟩, ?_, Stage.noConfusion, rfl, ?_⟩
  · decide +kernel
  · decide +kernel

end Parser

end LinkDefinitions
