import LinkDefinitions.Proofs.Block
import LinkDefinitions.Proofs.Parser.Move

/-!
# What a parser has read of a definition

`Scratch inline stage draft x t` says what the lines read so far hold, for a parser in the given
stage at the place `x` of a line of which `t` is unread: which part of a definition stands before
`x`, where its opening bracket is and what came before it. `draft` is the block of the pending
draft, and the places are counted from the first line after the last block, or from that of the
draft.

Each move takes one scratch to the next (`Scratch.openLabel` and so on), and a move that completes a
definition takes it to a block. `inline` stands for the assumption that no line holds a line feed;
it bounds the line ends within a gap.
-/

namespace LinkDefinitions

open LinkDefinitions.Parser (markAtEnd)

variable {limit : Nat} {inline : Prop} {draft : Option (Block limit)} {x : Spot}
  {stop : Glyph → Bool} {label b s t u v w raw read read' : Text} {c : Char}

/-- From the bracket up to the place `x` the lines hold the text `read`, and the line of `x` is not
empty. -/
structure Opening.Reads (o : Opening limit) (x : Spot) (t read : Text) : Prop where
  before : (o.spot.extend ['[']).Before x
  text : x.text = o.lead.text ++ read
  begun : x.column ++ t ≠ []

theorem Opening.Reads.extend {o : Opening limit} (h : o.Reads x t read) (unread : s ++ u = t)
    (eq : read ++ s = read') : o.Reads (x.extend s) u read' := by
  subst unread eq
  refine ⟨h.before.extend s, ?_, ?_⟩
  · rw [Spot.text_extend, h.text, List.append_assoc]
  · have begun := h.begun
    rwa [← List.append_assoc] at begun

theorem Opening.Reads.nextLine {o : Opening limit} (h : o.Reads x [] read) (nonempty : t ≠ [])
    (eq : read ++ ['\n'] = read') : o.Reads x.nextLine t read' := by
  subst eq
  refine ⟨h.before.nextLine, ?_, by simpa [Spot.nextLine] using nonempty⟩
  rw [Spot.text_nextLine, h.text, List.append_assoc]

theorem Opening.Reads.nextLine_lines {o : Opening limit} (h : o.Reads x [] read) :
    x.nextLine.lines = x.lines ++ filled [x.column] := by
  have begun := h.begun
  rw [List.append_nil] at begun
  rw [filled_singleton begun]
  rfl

/-- The raw text gathered of `read`: a line feed follows if the line is over. -/
structure Gathers (stop : Glyph → Bool) (read t raw : Text) : Prop where
  raw_eq : raw = read ++ markAtEnd t
  settled : Settled raw
  clear : Clear stop raw

theorem clear_break (h : stop (.plain '\n') = false) : Clear stop ['\n'] := by
  intro g mem
  rw [glyphs_singleton, List.mem_singleton] at mem
  rwa [mem]

theorem gathers_nil (h : stop (.plain '\n') = false) (t : Text) :
    Gathers stop [] t (markAtEnd t) := by
  unfold markAtEnd
  by_cases ends : t = []
  · rw [if_pos ends]
    refine ⟨by rw [markAtEnd, if_pos ends]; rfl, ?_, clear_break h⟩
    exact settled_append_singleton (by decide) (by decide) []
  · rw [if_neg ends]
    exact ⟨by rw [markAtEnd, if_neg ends]; rfl, settled_nil, clear_nil⟩

theorem Gathers.eq_read (h : Gathers stop read t raw) (nonempty : t ≠ []) : raw = read := by
  rw [h.raw_eq, markAtEnd, if_neg nonempty, List.append_nil]

/-- The rest of the line is gathered. -/
theorem Gathers.extend (h : Gathers stop read t raw) (nonempty : t ≠ [])
    (plain : stop (.plain '\n') = false) (clear : Clear stop t) :
    Gathers stop (read ++ t) [] (raw ++ t ++ [continuationMark]) := by
  refine ⟨by rw [h.eq_read nonempty]; rfl, ?_, ?_⟩
  · exact settled_append_singleton (by decide) (by decide) _
  · rw [List.append_assoc, h.settled.clear_append_iff]
    refine ⟨h.clear, fun g mem => ?_⟩
    rw [continuationMark, glyphs_append_cons (by decide) (by decide), List.mem_append] at mem
    rcases mem with mem | mem
    · exact clear g mem
    · rw [List.mem_singleton.1 mem, plain]

theorem Gathers.nextLine (h : Gathers stop read [] raw) (nonempty : t ≠ []) :
    Gathers stop (read ++ ['\n']) t raw := by
  refine ⟨?_, h.settled, h.clear⟩
  rw [h.raw_eq, markAtEnd, markAtEnd, if_pos rfl, if_neg nonempty, List.append_nil]
  rfl

/-- The gathered text with what precedes the closing mark is what the two marks enclose. -/
theorem Gathers.encloses (h : Gathers stop read t raw) (encloses : Encloses stop s c) :
    Encloses stop (raw ++ s) c :=
  h.settled.encloses_append_iff.2 ⟨h.clear, encloses⟩

/-- What the lines hold before a place, by the stage in which a parser comes there. -/
inductive Scratch (inline : Prop) : Stage → Option (Block limit) → Spot → Text → Prop
  | startDefinition {x : Spot} {t : Text} (lead : Lead limit) (text : x.text = lead.text)
      (fits : lead.Fits x.column) (within : lead.Abandons → t ≠ []) :
      Scratch inline .startDefinition none x t
  | label {x : Spot} {t read raw : Text} (o : Opening limit) (reads : o.Reads x t ('[' :: read))
      (gathers : Gathers Scan.isBracket read t raw) : Scratch inline (.label raw) none x t
  | destination {x : Spot} {t : Text} (o : Opening limit) (label gap : Text)
      (encloses : Encloses Scan.isBracket label ']') (short : label.length ≤ limit)
      (key : Label.key label ≠ []) (blank : Blank gap)
      (breaks : inline → (gap ++ markAtEnd t).count '\n' ≤ 1)
      (reads : o.Reads x t ('[' :: (label ++ ']' :: ':' :: gap))) :
      Scratch inline (.destination (Label.key label)) none x t
  | passed {x : Spot} {t : Text} (o : Opening limit) (h : Head limit) (gap : Text)
      (tidy : inline → h.gap.count '\n' ≤ 1 ∧ '\n' ∉ gap) (blank : Blank gap) (gap_ne : gap ≠ [])
      (reads : o.Reads x t (h.text ++ gap)) (suffix : h.destination ++ gap <:+ x.column)
      (t_ne : t ≠ []) (solid : Solid t) : Scratch inline (.startTitle h.key h.value) none x t
  | drafted {t : Text} (block : Block limit) (untitled : block.layout.title = none)
      (tidy : inline → block.layout.Tidy) :
      Scratch inline (.startTitle block.layout.head.key block.layout.head.value) (some block)
        ⟨block.lines, []⟩ t
  | title {x : Spot} {t read raw : Text} {draft : Option (Block limit)} {opener closer : Char}
      (o : Opening limit) (h : Head limit) (gap : Text)
      (tidy : inline → h.gap.count '\n' ≤ 1 ∧ gap.count '\n' ≤ 1) (blank : Blank gap)
      (gap_ne : gap ≠ []) (paired : titleCloser? opener = some closer)
      (reads : o.Reads x t (h.text ++ (gap ++ opener :: read)))
      (gathers : Gathers (Scan.endsTitle [closer]) read t raw) :
      Scratch inline (.title h.key h.value closer raw) draft x t

namespace Scratch

theorem start : Scratch inline .startDefinition (none : Option (Block limit)) ⟨[], []⟩ t :=
  .startDefinition (.indent [] blank_nil) rfl blank_nil False.elim

theorem openLabel (h : Scratch inline .startDefinition draft x (b ++ '[' :: u)) (blank : Blank b) :
    Scratch inline (.label (markAtEnd u)) draft (x.extend (b ++ ['['])) u := by
  cases h with
  | startDefinition lead text fits within =>
    have text' : (x.extend b).text = (lead.extend b blank).text := by
      rw [Spot.text_extend, Lead.text_extend, text]
    refine .label ⟨x.extend b, lead.extend b blank, text', fits.extend blank⟩ ⟨?_, ?_, ?_⟩
      (gathers_nil rfl u)
    · rw [Spot.extend_extend]
      exact .refl _
    · rw [← Spot.extend_extend, Spot.text_extend, text']
    · simp [Spot.extend]

theorem extendLabel (h : Scratch inline (.label raw) draft x t) (nonempty : t ≠ [])
    (clear : Clear Scan.isBracket t) :
    Scratch inline (.label (raw ++ t ++ [continuationMark])) draft (x.extend t) [] := by
  cases h with
  | label o reads gathers =>
    exact .label o (reads.extend (by simp) (by simp)) (gathers.extend nonempty rfl clear)

theorem closeLabel (h : Scratch inline (.label raw) draft x (s ++ ']' :: ':' :: (b ++ u)))
    (encloses : Encloses Scan.isBracket s ']') (blank : Blank b) (within : inline → '\n' ∉ b)
    (short : (raw ++ s).length ≤ limit) (key : Label.key (raw ++ s) ≠ []) :
    Scratch inline (.destination (Label.key (raw ++ s))) draft (x.extend (s ++ ']' :: ':' :: b))
      u := by
  cases h with
  | label o reads gathers =>
    obtain rfl := gathers.eq_read (by simp)
    refine .destination o (raw ++ s) b (gathers.encloses encloses) short key blank ?_
      (reads.extend (by simp) (by simp))
    intro holds
    rw [List.count_append, List.count_eq_zero.2 (within holds)]
    unfold markAtEnd
    split <;> decide

/-- A destination completes a head. -/
theorem exists_head (h : Scratch inline (.destination label) draft x (b ++ (w ++ u)))
    (blank : Blank b) (within : inline → '\n' ∉ b) (whole : Scan.rawDestination w = some (v, [])) :
    draft = none ∧ ∃ (o : Opening limit) (head : Head limit), head.key = label ∧ head.value = v ∧
      head.destination = w ∧ (inline → head.gap.count '\n' ≤ 1) ∧
      o.Reads (x.extend (b ++ w)) u head.text := by
  cases h with
  | destination o raw gap encloses short key gap_blank breaks reads =>
    refine ⟨rfl, o, ⟨raw, gap ++ b, w, v, Scan.label_closed_iff.2 encloses, short, key,
      blank_append_iff.2 ⟨gap_blank, blank⟩, whole⟩, rfl, rfl, rfl, fun holds => ?_,
      reads.extend (by simp) (by simp [Head.text])⟩
    have breaks := breaks holds
    rw [List.count_append] at breaks ⊢
    rw [List.count_eq_zero.2 (within holds)]
    omega

/-- A destination at the end of a line completes a block. -/
theorem endDestination (h : Scratch inline (.destination label) draft x (b ++ (w ++ s)))
    (blank : Blank b) (within : inline → '\n' ∉ b ++ (w ++ s))
    (whole : Scan.rawDestination w = some (v, [])) (trail_blank : Blank s) :
    draft = none ∧ ∃ block : Block limit, block.layout.title = none ∧
      block.layout.head.key = label ∧ block.layout.head.value = v ∧
      (inline → block.layout.Tidy) ∧ block.lines = x.lines ++ [x.column ++ (b ++ (w ++ s))] := by
  simp only [List.mem_append, not_or] at within
  obtain ⟨rfl, o, head, rfl, rfl, rfl, breaks, reads⟩ :=
    h.exists_head blank (fun holds => (within holds).1) whole
  have ends := reads.extend (s := s) (u := []) (by simp) rfl
  refine ⟨rfl, ⟨o, ⟨head, none, s, trail_blank⟩, _, ends.before, ends.text⟩, rfl, rfl, rfl,
    fun holds => ⟨breaks holds, by simp, (within holds).2.2⟩, ?_⟩
  simp [Block.lines, Spot.extend]

theorem passDestination (h : Scratch inline (.destination label) draft x (b ++ (w ++ (s ++ u))))
    (blank : Blank b) (within : inline → '\n' ∉ b ++ (w ++ (s ++ u)))
    (whole : Scan.rawDestination w = some (v, [])) (space_blank : Blank s) (space_ne : s ≠ [])
    (solid : Solid u) (u_ne : u ≠ []) :
    Scratch inline (.startTitle label v) draft (x.extend (b ++ (w ++ s))) u := by
  simp only [List.mem_append, not_or] at within
  obtain ⟨rfl, o, head, rfl, rfl, rfl, breaks, reads⟩ :=
    h.exists_head blank (fun holds => (within holds).1) whole
  rw [← List.append_assoc, ← Spot.extend_extend]
  refine .passed o head s (fun holds => ⟨breaks holds, (within holds).2.2.1⟩) space_blank space_ne
    (reads.extend rfl rfl) ?_ u_ne solid
  exact ⟨x.column ++ b, by simp [Spot.extend]⟩

theorem openTitle {key value : Text} {opener closer : Char}
    (h : Scratch inline (.startTitle key value) draft x (b ++ opener :: u)) (blank : Blank b)
    (within : inline → '\n' ∉ b) (paired : titleCloser? opener = some closer) :
    Scratch inline (.title key value closer (markAtEnd u)) draft (x.extend (b ++ [opener])) u := by
  have gathers := gathers_nil (Scan.endsTitle_break paired) u
  cases h with
  | passed o head gap tidy gap_blank gap_ne reads suffix t_ne solid =>
    refine .title o head (gap ++ b) (fun holds => ⟨(tidy holds).1, ?_⟩)
      (blank_append_iff.2 ⟨gap_blank, blank⟩) (by simp [gap_ne]) paired
      (reads.extend (by simp) (by simp)) gathers
    rw [List.count_append, List.count_eq_zero.2 (tidy holds).2, List.count_eq_zero.2 (within holds)]
    decide
  | drafted block untitled tidy =>
    obtain ⟨opening, ⟨head, title, trail, trail_blank⟩, finish, opens, whole⟩ := block
    obtain rfl : title = none := untitled
    -- The line end after the destination is part of the gap.
    have reads : opening.Reads finish.nextLine (b ++ opener :: u)
        (head.text ++ (trail ++ ['\n'])) := by
      refine ⟨opens.nextLine, ?_, by simp⟩
      rw [Spot.text_nextLine, whole]
      simp [Layout.text]
    refine .title opening head (trail ++ ['\n'] ++ b) (fun holds => ⟨(tidy holds).gap_breaks, ?_⟩)
      (by simpa using ⟨trail_blank, rfl, blank⟩) (by simp) paired (reads.extend (by simp) (by simp))
      gathers
    have trail_inline := (tidy holds).trail_inline
    rw [List.count_append, List.count_append, List.count_eq_zero.2 trail_inline,
      List.count_eq_zero.2 (within holds)]
    decide

/-- A definition that gets no title is left behind: as an abandoned head, or as the block of the
draft, after which the places are counted anew. -/
theorem skipTitle {key value : Text} (h : Scratch inline (.startTitle key value) draft x (b ++ u))
    (blank : Blank b) :
    ∃ y, Scratch inline .startDefinition (none : Option (Block limit)) y u ∧
      x.lines = draft.toList.flatMap Block.lines ++ y.lines ∧ y.column = x.column ++ b := by
  cases h with
  | passed o head gap tidy gap_blank gap_ne reads suffix t_ne solid =>
    refine ⟨x.extend b, .startDefinition
      (.abandoned o.lead head (gap ++ b) (blank_append_iff.2 ⟨gap_blank, blank⟩) (by simp [gap_ne]))
      ?_ ?_ ?_, rfl, rfl⟩
    · rw [Spot.text_extend, reads.text]
      simp [Lead.text]
    · have suffix : head.destination ++ gap ++ b <:+ x.column ++ b :=
        List.suffix_append_self_iff.2 suffix
      rwa [List.append_assoc] at suffix
    · rintro - rfl
      rw [List.append_nil] at t_ne solid
      exact t_ne (blank.eq_nil_of_solid solid)
  | drafted block untitled tidy =>
    refine ⟨⟨[], b⟩, .startDefinition (.indent b blank) rfl blank False.elim, ?_, rfl⟩
    simp

theorem extendTitle {key value : Text} (h : Scratch inline (.title key value c raw) draft x t)
    (nonempty : t ≠ []) (clear : Clear (Scan.endsTitle [c]) t) :
    Scratch inline (.title key value c (raw ++ t ++ [continuationMark])) draft (x.extend t) [] := by
  cases h with
  | title o head gap tidy blank gap_ne paired reads gathers =>
    exact .title o head gap tidy blank gap_ne paired (reads.extend (by simp) (by simp))
      (gathers.extend nonempty (Scan.endsTitle_break paired) clear)

/-- A title at the end of a line completes a block. -/
theorem closeTitle {key value : Text}
    (h : Scratch inline (.title key value c raw) draft x (s ++ c :: u))
    (encloses : Encloses (Scan.endsTitle [c]) s c) (blank : Blank u) (within : inline → '\n' ∉ u) :
    ∃ block : Block limit,
      block.definition = ⟨key, unescape value, some (unescape (raw ++ s))⟩ ∧
      (inline → block.layout.Tidy) ∧ block.lines = x.lines ++ [x.column ++ (s ++ c :: u)] := by
  cases h with
  | @title _ _ _ _ _ opener _ o head gap tidy gap_blank gap_ne paired reads gathers =>
    obtain rfl := gathers.eq_read (by simp)
    have ends := reads.extend (s := s ++ c :: u) (u := []) (by simp) rfl
    refine ⟨⟨o, ⟨head, some ⟨gap, opener, c, raw ++ s, gap_blank, gap_ne, paired,
      Scan.title_closed_iff.2 (gathers.encloses encloses)⟩, u, blank⟩, _, ends.before, ?_⟩, rfl,
      fun holds => ⟨(tidy holds).1, ?_, within holds⟩, ?_⟩
    · rw [ends.text]
      simp [Layout.text, TitlePart.text]
    · simpa using (tidy holds).2
    · simp [Block.lines, Spot.extend]

/-- At the end of a line a parser goes on at the beginning of the next one, unless it has not begun
a line since the last block. -/
theorem nextLine {stage : Stage} (h : Scratch inline stage draft x []) (nonempty : t ≠ []) :
    ∃ y, Scratch inline stage draft y t ∧ y.lines = x.lines ++ filled [x.column] ∧
      y.column = [] := by
  have mark : markAtEnd t = [] := if_neg nonempty
  cases h with
  | startDefinition lead text fits within =>
    by_cases begun : x.column = []
    · refine ⟨x, .startDefinition lead text fits fun _ => nonempty, ?_, begun⟩
      rw [begun, filled_singleton_nil, List.append_nil]
    · refine ⟨x.nextLine, .startDefinition (lead.extend ['\n'] (by decide)) ?_ ?_
        fun _ => nonempty, ?_, rfl⟩
      · rw [Spot.text_nextLine, Lead.text_extend, text]
      · cases lead with
        | indent b blank => exact blank_nil
        | abandoned before head b blank b_ne => exact absurd rfl (within trivial)
      · rw [filled_singleton begun]
        rfl
  | label o reads gathers =>
    exact ⟨_, .label o (reads.nextLine nonempty rfl) (gathers.nextLine nonempty),
      reads.nextLine_lines, rfl⟩
  | destination o label gap encloses short key blank breaks reads =>
    refine ⟨_, .destination o label (gap ++ ['\n']) encloses short key
      (blank_append_iff.2 ⟨blank, rfl⟩) ?_ (reads.nextLine nonempty (by simp)),
      reads.nextLine_lines, rfl⟩
    rw [mark, List.append_nil]
    exact breaks
  | passed o head gap tidy blank gap_ne reads suffix t_ne solid => exact absurd rfl t_ne
  | drafted block untitled tidy => exact ⟨_, .drafted block untitled tidy, by simp, rfl⟩
  | title o head gap tidy blank gap_ne paired reads gathers =>
    exact ⟨_, .title o head gap tidy blank gap_ne paired (reads.nextLine nonempty (by simp))
      (gathers.nextLine nonempty), reads.nextLine_lines, rfl⟩

end Scratch

end LinkDefinitions
