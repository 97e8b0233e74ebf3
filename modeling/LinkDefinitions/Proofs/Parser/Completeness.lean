import LinkDefinitions.Proofs.Layout
import LinkDefinitions.Proofs.Parser.Resume

/-!
# Every layout is recognized

A parser that reads a tidy layout comes to its definition, wherever the lines of the layout end: in
the label, in a gap, in the title or next to a mark (`leads_layout`). So a paragraph in which each
definition begins a line gives these definitions and nothing else (`feedAll_entries`).

Raw labels and raw titles are gathered in the same way (`leads_body`): whole lines first, each with
a line feed after it, and then what stands before the closing mark.
-/

namespace LinkDefinitions

/-- A definition in a paragraph: blanks at the beginning of a line and a tidy layout. -/
structure Entry (limit : Nat) where
  indent : Text
  layout : Layout limit
  indent_blank : Blank indent
  indent_inline : '\n' ∉ indent
  tidy : layout.Tidy

variable {limit : Nat}

def Entry.text (e : Entry limit) : Text := e.indent ++ e.layout.text

namespace Parser

variable {p : Parser} {P Q : Parser → Prop} {stop : Glyph → Bool} {f : Text → Stage}
  {ds : List Definition} {stage : Stage} {pending : Option Draft} {b raw last w y z : Text}
  {c : Char}

/-! ### What is known of a parser on its way -/

/-- A parser with the given limit, definitions, stage and draft. -/
structure At (limit : Nat) (ds : List Definition) (stage : Stage) (pending : Option Draft)
    (p : Parser) : Prop where
  labelLimit : p.labelLimit = limit
  finalized : p.finalized = ds
  stage : p.stage = stage
  pending : p.pending = pending

theorem At.goto (h : At limit ds stage pending p) (next : Stage) :
    At limit ds next pending (p.goto next) :=
  ⟨h.labelLimit, h.finalized, rfl, h.pending⟩

theorem At.leads_nextLine (goes_on : stage ≠ .paragraph) (y : Text) :
    Leads (At limit ds stage pending) ('\n' :: y) (At limit ds stage pending) y :=
  Leads.nextLine (fun p (h : At limit ds stage pending p) => h.stage ▸ goes_on)
    (fun _ _ h => ⟨h.labelLimit, h.finalized, h.stage, h.pending⟩) y

/-- A parser with the given limit and definitions before which another definition may start. -/
structure Ready (limit : Nat) (ds : List Definition) (p : Parser) : Prop where
  labelLimit : p.labelLimit = limit
  committed : p.committed = ds
  coherent : p.Coherent
  stage : p.stage = .startDefinition ∨ ∃ key raw, p.stage = .startTitle key raw

theorem Ready.ne_paragraph (h : Ready limit ds p) : p.stage ≠ .paragraph := by
  rcases h.stage with stage | ⟨key, raw, stage⟩ <;> rw [stage] <;> exact Stage.noConfusion

theorem Ready.keep (h : Ready limit ds p) (line : Text) : Ready limit ds (p.keep line) :=
  ⟨h.labelLimit, h.committed, h.coherent, h.stage⟩

/-! ### Raw texts over several lines -/

/-- Whole lines of a raw text are gathered with their line feeds. A line feed right after the
opening mark has been gathered with that mark. -/
theorem leads_lines (goes_on : ∀ raw, f raw ≠ .paragraph)
    (extend : ∀ {p : Parser} {raw t : Text}, p.stage = f raw → Clear stop t →
      p.Move t (p.goto (f (raw ++ t ++ [continuationMark]))) [])
    (ls : List Text) (inline : ∀ l ∈ ls, '\n' ∉ l) (clear : ∀ l ∈ ls, Clear stop l)
    (full : [] ∉ laterLines (terminate ls ++ z)) (nonempty : firstLine z ≠ []) (raw : Text) :
    Leads (At limit ds (f (raw ++ markAtEnd (firstLine (terminate ls ++ z)))) pending)
      (terminate ls ++ z) (At limit ds (f (raw ++ terminate ls)) pending) z := by
  induction ls generalizing raw with
  | nil =>
    rw [terminate_nil, List.nil_append, markAtEnd, if_neg nonempty]
    exact Leads.refl _ z
  | cons l ls ih =>
    rw [List.forall_mem_cons] at inline clear
    have unfolded : terminate (l :: ls) ++ z = l ++ '\n' :: (terminate ls ++ z) := by simp
    rw [unfolded, laterLines_append inline.1, laterLines_break, List.mem_cons, not_or] at full
    have next_ne : firstLine (terminate ls ++ z) ≠ [] := Ne.symm full.1
    have ih := ih inline.2 clear.2 full.2 (raw ++ (l ++ ['\n']))
    rw [markAtEnd, if_neg next_ne, List.append_nil] at ih
    have gathered : raw ++ (l ++ ['\n']) ++ terminate ls = raw ++ terminate (l :: ls) := by simp
    rw [gathered] at ih
    rw [unfolded, firstLine_append inline.1, firstLine_break, List.append_nil]
    refine Leads.trans ?_ ((At.leads_nextLine (goes_on _) _).trans ih)
    -- Only the first line may be empty, after an opening mark at the end of its line.
    by_cases empty : l = []
    · subst empty
      exact Leads.refl _ _
    · rw [markAtEnd, if_neg empty, List.append_nil]
      refine Leads.of_move rfl inline.1 (by simpa using empty) fun p h => ?_
      refine ⟨_, ?_, h.goto _⟩
      rw [firstLine_break, List.append_nil, ← List.append_assoc]
      exact extend h.stage clear.1

/-- The raw text between two marks is gathered, and then the closing mark is read. -/
theorem leads_body {body : Text} (goes_on : ∀ raw, f raw ≠ .paragraph)
    (extend : ∀ {p : Parser} {raw t : Text}, p.stage = f raw → Clear stop t →
      p.Move t (p.goto (f (raw ++ t ++ [continuationMark]))) [])
    (encloses : Encloses stop body c) (inline : c ≠ '\n') (full : [] ∉ laterLines (body ++ c :: w))
    (close : ∀ raw last, raw ++ last = body → '\n' ∉ last → Encloses stop last c →
      Leads (At limit ds (f raw) pending) (last ++ c :: w) Q y) :
    Leads (At limit ds (f (markAtEnd (firstLine (body ++ c :: w)))) pending) (body ++ c :: w)
      Q y := by
  obtain ⟨ls, last, rfl, ls_inline, last_inline⟩ := exists_terminate_append body
  obtain ⟨clear, encloses⟩ := (settled_terminate ls).encloses_append_iff.1 encloses
  have nonempty : firstLine (last ++ c :: w) ≠ [] := by
    rw [firstLine_append last_inline, firstLine_cons inline]
    simp
  rw [List.append_assoc] at full ⊢
  have lines_clear := clear_of_clear_terminate clear
  exact (leads_lines goes_on extend ls ls_inline lines_clear full nonempty []).trans
    (close _ last rfl last_inline encloses)

/-! ### The parts of a layout -/

/-- The parser has just completed the last of its definitions, and no line is left. -/
structure Done (limit : Nat) (ds : List Definition) (p : Parser) : Prop extends
    Ready limit ds p where
  remaining : p.remaining = []

theorem leads_openLabel (blank : Blank b) (inline : '\n' ∉ b) (y : Text) :
    Leads (At limit ds .startDefinition none) (b ++ '[' :: y)
      (At limit ds (.label (markAtEnd (firstLine y))) none) y := by
  refine Leads.of_move (s := b ++ ['[']) (by simp) (by simpa using inline) (by simp) fun p h => ?_
  refine ⟨_, ?_, h.goto _⟩
  rw [List.append_assoc]
  exact .openLabel h.stage blank

/-- A bracket at the beginning of a line opens a label, with a draft pending or not. -/
theorem Ready.leads_openLabel (limit : Nat) (ds : List Definition) (blank : Blank b)
    (inline : '\n' ∉ b) (y : Text) :
    Leads (Ready limit ds) (b ++ '[' :: y)
      (At limit ds (.label (markAtEnd (firstLine y))) none) y := by
  intro p line ready
  rcases ready.stage with stage | ⟨key, raw, stage⟩
  · have free : p.pending = none := ready.coherent.allows stage
    refine Parser.leads_openLabel blank inline y p line ⟨ready.labelLimit, ?_, stage, free⟩
    rw [← ready.committed, committed_of_pending_eq_none free]
  -- The draft is settled first, and the bracket is read in the stage after that.
  · have skip : Leads (· = p) (b ++ '[' :: y) (At limit ds .startDefinition none) ('[' :: y) := by
      refine Leads.of_move rfl inline ?_ ?_
      · rw [firstLine_cons (by decide)]
        simp
      · rintro _ rfl
        refine ⟨_, .skipTitle stage blank ?_ ?_ ready.coherent.finalize_eq,
          ready.labelLimit, ready.committed, rfl, rfl⟩
        · rw [firstLine_cons (by decide)]
          exact solid_cons_iff.2 (by decide)
        · rw [firstLine_cons (by decide)]
          intro c head
          obtain rfl : '[' = c := Option.some.inj head
          rfl
    exact (skip.trans (Parser.leads_openLabel blank_nil (by simp) y)) p line rfl

theorem leads_label (ds : List Definition) (h : Head limit) (blank : Blank b) (inline : '\n' ∉ b)
    (solid : Solid (firstLine y)) (full : [] ∉ laterLines (h.label ++ ']' :: ':' :: (b ++ y))) :
    Leads (At limit ds (.label (markAtEnd (firstLine (h.label ++ ']' :: ':' :: (b ++ y))))) none)
      (h.label ++ ']' :: ':' :: (b ++ y)) (At limit ds (.destination h.key) none) y := by
  refine leads_body (f := Stage.label) (fun _ => Stage.noConfusion) .extendLabel h.label_encloses
    (by decide) full fun raw last whole last_inline encloses => ?_
  refine Leads.of_move (s := last ++ ']' :: ':' :: b) (by simp)
    (by simpa using ⟨last_inline, inline⟩) (by simp) fun p at_label => ?_
  refine ⟨p.goto (.destination (Label.key (raw ++ last))), ?_, ?_⟩
  · rw [List.append_assoc]
    refine .closeLabel at_label.stage encloses blank solid ?_ ?_
    · rw [whole, at_label.labelLimit]
      exact h.label_short
    · rw [whole]
      exact h.key_ne_nil
  · rw [whole]
    exact at_label.goto _

/-- The head of a layout is read up to the blanks before its destination, if the gap goes over a
line end, or up to the destination itself. -/
theorem leads_head (ds : List Definition) (h : Head limit) (breaks : h.gap.count '\n' ≤ 1)
    (blank : Blank b) (inline : '\n' ∉ b) (full : [] ∉ laterLines (b ++ (h.text ++ y))) :
    ∃ a, Blank a ∧ '\n' ∉ a ∧ Leads (Ready limit ds) (b ++ (h.text ++ y))
      (At limit ds (.destination h.key) none) (a ++ (h.destination ++ y)) := by
  rw [laterLines_append inline] at full
  unfold Head.text at full ⊢
  rw [List.cons_append, laterLines_cons (by decide)] at full
  simp only [List.cons_append, List.append_assoc] at full ⊢
  have opened := Ready.leads_openLabel limit ds blank inline
    (h.label ++ ']' :: ':' :: (h.gap ++ (h.destination ++ y)))
  rcases inline_or_break breaks with inline | ⟨a, a', eq, a_inline, a'_inline⟩
  · refine ⟨[], blank_nil, by simp, opened.trans (leads_label ds h h.gap_blank inline ?_ full)⟩
    rw [firstLine_append h.inline_destination]
    exact h.solid_destination.append h.destination_ne_nil _
  · have blanks := h.gap_blank
    rw [← eq, blank_append_iff, blank_cons_iff] at blanks
    rw [← eq, List.append_assoc, List.cons_append] at full opened
    refine ⟨a', blanks.2.2, a'_inline, ?_⟩
    rw [← eq, List.append_assoc, List.cons_append]
    have label := leads_label (y := '\n' :: (a' ++ (h.destination ++ y))) ds h blanks.1
      a_inline solid_nil full
    exact opened.trans (label.trans (At.leads_nextLine Stage.noConfusion _))

/-- A destination at the end of a line leaves a draft and no line. -/
theorem leads_endDestination (h : Head limit) (blank : Blank b) (inline : '\n' ∉ b)
    (trail_blank : Blank w) (trail_inline : '\n' ∉ w) (ends : firstLine z = []) :
    Leads (At limit ds (.destination h.key) none) (b ++ (h.destination ++ (w ++ z)))
      (fun p => At limit ds (.startTitle h.key h.value) (some ⟨h.key, h.value, none⟩) p ∧
        p.remaining = []) z := by
  refine Leads.of_move (s := b ++ (h.destination ++ w)) (by simp)
    (by simpa using ⟨inline, h.inline_destination, trail_inline⟩)
    (by simp [h.destination_ne_nil]) fun p at_destination => ?_
  rw [ends, List.append_nil]
  exact ⟨_, .endDestination at_destination.stage blank h.destination_whole trail_blank,
    ⟨at_destination.labelLimit, at_destination.finalized, rfl, rfl⟩, rfl⟩

/-- The gap before a title is passed in the line, or over its end with a draft pending. -/
theorem leads_titleGap (ds : List Definition) (h : Head limit) (t : TitlePart)
    (breaks : t.gap.count '\n' ≤ 1) (blank : Blank b) (inline : '\n' ∉ b) (y : Text) :
    ∃ a pending, Blank a ∧ '\n' ∉ a ∧
      Leads (At limit ds (.destination h.key) none)
        (b ++ (h.destination ++ (t.gap ++ t.opener :: y)))
        (At limit ds (.startTitle h.key h.value) pending) (a ++ t.opener :: y) := by
  rcases inline_or_break breaks with gap_inline | ⟨a, a', eq, a_inline, a'_inline⟩
  · refine ⟨[], none, blank_nil, by simp, ?_⟩
    refine Leads.of_move (s := b ++ (h.destination ++ t.gap)) (by simp)
      (by simpa using ⟨inline, h.inline_destination, gap_inline⟩)
      (by simp [h.destination_ne_nil]) fun p at_destination => ?_
    rw [List.nil_append, firstLine_cons t.opener_inline, List.append_assoc, List.append_assoc]
    exact ⟨_, .passDestination at_destination.stage blank h.destination_whole t.gap_blank
      t.gap_ne_nil (solid_cons_iff.2 (solid_of_titleCloser t.paired).1) (List.cons_ne_nil _ _),
      at_destination.goto _⟩
  · have blanks := t.gap_blank
    rw [← eq, blank_append_iff, blank_cons_iff] at blanks
    refine ⟨a', some ⟨h.key, h.value, none⟩, blanks.2.2, a'_inline, ?_⟩
    rw [← eq, List.append_assoc, List.cons_append]
    refine (leads_endDestination h blank inline blanks.1 a_inline (firstLine_break _)).trans ?_
    intro p line holds
    exact At.leads_nextLine Stage.noConfusion _ p line holds.1

/-- A title between its marks, with nothing but blanks after it. -/
theorem leads_title (h : Head limit) (t : TitlePart) (blank : Blank b) (inline : '\n' ∉ b)
    (trail_blank : Blank w) (trail_inline : '\n' ∉ w) (ends : firstLine z = [])
    (full : [] ∉ laterLines (t.body ++ t.closer :: (w ++ z))) :
    Leads (At limit ds (.startTitle h.key h.value) pending)
      (b ++ t.opener :: (t.body ++ t.closer :: (w ++ z)))
      (Done limit (ds ++ [⟨h.key, unescape h.value, some (unescape t.body)⟩])) z := by
  have opened : Leads (At limit ds (.startTitle h.key h.value) pending)
      (b ++ t.opener :: (t.body ++ t.closer :: (w ++ z)))
      (At limit ds (.title h.key h.value t.closer
        (markAtEnd (firstLine (t.body ++ t.closer :: (w ++ z))))) pending)
      (t.body ++ t.closer :: (w ++ z)) := by
    refine Leads.of_move (s := b ++ [t.opener]) (by simp)
      (by simpa using ⟨inline, Ne.symm t.opener_inline⟩) (by simp) fun p at_title => ?_
    refine ⟨_, ?_, at_title.goto _⟩
    rw [List.append_assoc]
    exact .openTitle at_title.stage blank t.paired
  refine opened.trans (leads_body (f := Stage.title h.key h.value t.closer)
    (fun _ => Stage.noConfusion) .extendTitle t.body_encloses t.closer_inline full
    fun raw last whole last_inline encloses => ?_)
  refine Leads.of_move (s := last ++ t.closer :: w) (by simp)
    (by simpa using ⟨last_inline, Ne.symm t.closer_inline, trail_inline⟩) (by simp)
    fun p at_body => ?_
  rw [ends, List.append_nil]
  refine ⟨_, .closeTitle at_body.stage encloses trail_blank
    (Parser.finalize_eq (by simpa [Head.key] using h.key_ne_nil)),
    ⟨at_body.labelLimit, ?_, rfl, .inl rfl⟩, rfl⟩
  rw [committed_of_pending_eq_none rfl, ← whole, ← at_body.finalized]
  rfl

/-- A parser before which a definition may start reads a tidy layout to its definition. -/
theorem leads_layout (l : Layout limit) (tidy : l.Tidy) (blank : Blank b) (inline : '\n' ∉ b)
    (ends : firstLine z = []) (full : [] ∉ laterLines (b ++ (l.text ++ z))) :
    Leads (Ready limit ds) (b ++ (l.text ++ z)) (Done limit (ds ++ [l.definition])) z := by
  obtain ⟨head, title, trail, trail_blank⟩ := l
  obtain ⟨gap_breaks, title_breaks, trail_inline⟩ := tidy
  unfold Layout.text at full ⊢
  unfold Layout.definition
  rw [List.append_assoc] at full ⊢
  obtain ⟨a, a_blank, a_inline, to_destination⟩ := leads_head ds head gap_breaks blank inline full
  refine to_destination.trans ?_
  cases title with
  | none =>
    refine (leads_endDestination head a_blank a_inline trail_blank trail_inline ends).trans ?_
    rintro p line ⟨drafted, empty⟩
    refine ⟨p, line, ⟨⟨drafted.labelLimit, ?_, ?_, .inr ⟨_, _, drafted.stage⟩⟩, empty⟩, rfl⟩
    · rw [committed_of_pending_eq_some drafted.pending, drafted.finalized]
      rfl
    · unfold Coherent
      rw [drafted.stage, drafted.pending]
      exact ⟨head.key_ne_nil, by simp⟩
  | some t =>
    simp only [Option.elim_some, TitlePart.text, List.append_assoc, List.cons_append,
      List.nil_append] at full ⊢
    obtain ⟨a', pending, a'_blank, a'_inline, to_title⟩ :=
      leads_titleGap ds head t (title_breaks t rfl) a_blank a_inline
        (t.body ++ t.closer :: (trail ++ z))
    have suffix := laterLines_suffix_append (b ++ (head.text ++ (t.gap ++ [t.opener])))
      (t.body ++ t.closer :: (trail ++ z))
    simp only [List.append_assoc, List.cons_append, List.nil_append] at suffix
    exact to_title.trans (leads_title head t a'_blank a'_inline trail_blank trail_inline ends
      fun mem => full (suffix.mem mem))

/-! ### Paragraphs -/

/-- A nonempty list of definitions, each at the beginning of a line, is read to its end. -/
theorem leads_entries (ds : List Definition) (e : Entry limit) (es : List (Entry limit))
    (full : [] ∉ laterLines (joinLines ((e :: es).map Entry.text))) :
    Leads (Ready limit ds) (joinLines ((e :: es).map Entry.text))
      (Done limit (ds ++ (e :: es).map fun e => e.layout.definition)) [] := by
  induction es generalizing ds e with
  | nil =>
    have whole : joinLines ([e].map Entry.text) = e.indent ++ (e.layout.text ++ []) := by
      simp [joinLines, Entry.text]
    rw [whole] at full ⊢
    exact leads_layout e.layout e.tidy e.indent_blank e.indent_inline firstLine_nil full
  | cons e' es ih =>
    have whole : joinLines ((e :: e' :: es).map Entry.text) =
        e.indent ++ (e.layout.text ++ '\n' :: joinLines ((e' :: es).map Entry.text)) := by
      simp only [joinLines, List.map_cons, List.intercalate_cons_cons, Entry.text,
        List.append_assoc, List.singleton_append]
    rw [whole] at full ⊢
    have suffix := laterLines_suffix_append (e.indent ++ e.layout.text)
      ('\n' :: joinLines ((e' :: es).map Entry.text))
    rw [laterLines_break, List.append_assoc] at suffix
    have rest := ih (ds ++ [e.layout.definition]) e'
      fun mem => full (suffix.mem (List.mem_cons_of_mem _ mem))
    rw [List.append_assoc, List.singleton_append] at rest
    refine (leads_layout e.layout e.tidy e.indent_blank e.indent_inline (firstLine_break _)
      full).trans (Leads.trans ?_ rest)
    exact Leads.nextLine (fun p done => done.ne_paragraph) (fun p line done => done.keep line) _

/-- A parser that has been fed the lines of some definitions has found them and left no line. -/
theorem done_fed_entries (es : List (Entry limit))
    (full : [] ∉ (joinLines (es.map Entry.text)).splitOn '\n') :
    Done limit (es.map fun e => e.layout.definition)
      (fed limit ((joinLines (es.map Entry.text)).splitOn '\n')) := by
  cases es with
  | nil => simp [joinLines] at full
  | cons e es =>
    have ready : Ready limit [] (fresh limit) := ⟨rfl, rfl, coherent_fresh limit, .inl rfl⟩
    obtain ⟨p, line, done, eq⟩ := leads_entries [] e es
      (fun mem => full (List.mem_of_mem_tail mem)) _ _ (ready.keep _)
    rw [← feedAll_splitOn ready.ne_paragraph, resume_nil, feedAll_fresh] at eq
    rw [Except.ok.inj eq]
    exact done

/-- **Completeness.** Definitions in any tidy layout, each beginning a line, with no empty line in
between: fed line by line to a fresh parser, they are all found, and no line is left. -/
theorem feedAll_entries (es : List (Entry limit))
    (full : [] ∉ (joinLines (es.map Entry.text)).splitOn '\n') :
    ∃ p q, (fresh limit).feedAll ((joinLines (es.map Entry.text)).splitOn '\n') = .ok p ∧
      p.harvest = .ok (es.map fun e => e.layout.definition, q) ∧
      p.remaining = [] ∧ q.remaining = [] := by
  cases es with
  | nil => simp [joinLines] at full
  | cons e es =>
    have later : [] ∉ laterLines (joinLines ((e :: es).map Entry.text)) :=
      fun mem => full (List.mem_of_mem_tail mem)
    have ready : Ready limit [] (fresh limit) := ⟨rfl, rfl, coherent_fresh limit, .inl rfl⟩
    obtain ⟨p, line, done, eq⟩ := leads_entries [] e es later _
      (firstLine (joinLines ((e :: es).map Entry.text))) (ready.keep _)
    rw [resume_nil] at eq
    refine ⟨p, p.settled, ?_, ?_, done.remaining, done.remaining⟩
    · rw [feedAll_splitOn ready.ne_paragraph, eq]
    · rw [done.coherent.harvest_eq, done.committed, List.nil_append]

/-- A definition over five lines: a line ends in the label, in either gap and in the title. -/
def wrappedEntry : Entry 999 where
  indent := [' ']
  layout := {
    head := {
      label := "Foo\nBar".toList
      gap := "\n ".toList
      destination := "</a\\*b>".toList
      value := "/a\\*b".toList
      label_closed := by decide
      label_short := by decide
      key_ne_nil := by decide +kernel
      gap_blank := by decide
      destination_whole := by decide }
    title := some {
      gap := "\n".toList
      opener := '('
      closer := ')'
      body := "one\ntwo".toList
      gap_blank := by decide
      gap_ne_nil := by decide
      paired := rfl
      body_closed := by decide }
    trail := ['\t']
    trail_blank := by decide }
  indent_blank := by decide
  indent_inline := by decide
  tidy := ⟨by decide, by decide, by decide⟩

theorem feedAll_wrapped_twice :
    [] ∉ (joinLines ([wrappedEntry, wrappedEntry].map Entry.text)).splitOn '\n' ∧
      ∃ p q,
        (fresh 999).feedAll
          ((joinLines ([wrappedEntry, wrappedEntry].map Entry.text)).splitOn '\n') = .ok p ∧
        p.harvest = .ok ([wrappedEntry, wrappedEntry].map fun e => e.layout.definition, q) ∧
        p.remaining = [] ∧ q.remaining = [] := by
  have full : [] ∉ (joinLines ([wrappedEntry, wrappedEntry].map Entry.text)).splitOn '\n' := by
    decide
  exact ⟨full, feedAll_entries [wrappedEntry, wrappedEntry] full⟩

end Parser

end LinkDefinitions
