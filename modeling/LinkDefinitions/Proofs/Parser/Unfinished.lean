import LinkDefinitions.Proofs.Parser.Alike
import LinkDefinitions.Proofs.Parser.Scratch

/-!
# The unfinished definition in the lines left

Lines are never looked at twice, so a parser keeps in its stage what it still needs of them. Between
two lines this is what the lines left end with (`Stage.StandsIn`): an opening bracket and the raw
label, a label with its colon and blanks up to the end of the line, or an opening mark and the raw
title. Before a definition there is at most one blank line, and after a destination that ends its
line there is none (`after_standsIn`).

Within a line the same is true of the text before the unread rest (`Stage.EndsWith`). Each move
keeps it up or takes all lines away (`Move.sourced`), and so does a whole line and a history.
-/

namespace LinkDefinitions

open LinkDefinitions.Parser (markAtEnd)

variable {limit : Nat} {read t line : Text} {stage : Stage}

/-- What a text ends with between two lines, given the stage. -/
def Stage.StandsIn (limit : Nat) (text : Text) : Stage → Prop
  | .startDefinition =>
    text = [] ∨ ∃ line, line ≠ [] ∧ Blank line ∧ '\n' ∉ line ∧ text = line ++ ['\n']
  | .label raw => '[' :: raw <:+ text ∧ ['\n'] <:+ raw ∧ Clear Scan.isBracket raw
  | .destination key =>
    key ≠ [] ∧ ∃ label gap, '[' :: (label ++ ']' :: ':' :: (gap ++ ['\n'])) <:+ text ∧ Blank gap ∧
      '\n' ∉ gap ∧ label.length ≤ limit ∧ Label.key label = key
  | .startTitle _ _ => text = []
  | .title _ _ closing raw =>
    ∃ opener, titleCloser? opener = some closing ∧ opener :: raw <:+ text ∧ ['\n'] <:+ raw ∧
      Clear (Scan.endsTitle [closing]) raw
  | .paragraph => True
  | .unknown _ => False

/-- What the text `read` ends with before the unread rest `t` of a line, given the stage. -/
def Stage.EndsWith (limit : Nat) (read t : Text) : Stage → Prop
  | .startDefinition => t = [] → read ≠ [] ∧ Blank read ∧ '\n' ∉ read
  | .label raw => ∃ body, '[' :: body <:+ read ∧ Gathers Scan.isBracket body t raw
  | .destination key =>
    key ≠ [] ∧ ∃ label gap, '[' :: (label ++ ']' :: ':' :: gap) <:+ read ∧ Blank gap ∧
      (t = [] → '\n' ∉ gap) ∧ label.length ≤ limit ∧ Label.key label = key
  | .startTitle _ _ => t ≠ [] ∧ (Solid t ∨ read = [])
  | .title _ _ closing raw =>
    ∃ opener body, titleCloser? opener = some closing ∧ opener :: body <:+ read ∧
      Gathers (Scan.endsTitle [closing]) body t raw
  | .paragraph => True
  | .unknown _ => False

theorem suffix_append {a b : Text} (h : a <:+ b) (s : Text) : a ++ s <:+ b ++ s :=
  List.suffix_append_self_iff.2 h

/-- At the end of a line the line feed is the last character of what has been gathered. -/
theorem Gathers.suffix {stop : Glyph → Bool} {body raw : Text} {c : Char}
    (h : Gathers stop body [] raw) (ends : c :: body <:+ read) :
    c :: raw <:+ read ++ ['\n'] ∧ ['\n'] <:+ raw := by
  have raw_eq : raw = body ++ ['\n'] := h.raw_eq
  rw [raw_eq]
  exact ⟨suffix_append ends ['\n'], List.suffix_append _ _⟩

theorem Stage.EndsWith.standsIn (h : stage.EndsWith limit read []) :
    stage.StandsIn limit (read ++ ['\n']) := by
  cases stage with
  | startDefinition =>
    obtain ⟨nonempty, blank, inline⟩ := h rfl
    exact .inr ⟨read, nonempty, blank, inline, rfl⟩
  | label raw =>
    obtain ⟨body, ends, gathers⟩ := h
    obtain ⟨suffix, terminated⟩ := gathers.suffix ends
    exact ⟨suffix, terminated, gathers.clear⟩
  | destination key =>
    obtain ⟨nonempty, label, gap, ends, blank, inline, short, rfl⟩ := h
    refine ⟨nonempty, label, gap, ?_, blank, inline rfl, short, rfl⟩
    have suffix := suffix_append ends ['\n']
    simpa using suffix
  | startTitle key raw => exact absurd rfl h.1
  | title key raw closing text =>
    obtain ⟨opener, body, paired, ends, gathers⟩ := h
    obtain ⟨suffix, terminated⟩ := gathers.suffix ends
    exact ⟨opener, paired, suffix, terminated, gathers.clear⟩
  | paragraph => trivial
  | unknown value => exact h

/-- The next line is unread behind the line feed. -/
theorem Stage.EndsWith.nextLine (h : stage.EndsWith limit read []) (nonempty : line ≠ []) :
    stage.EndsWith limit (read ++ ['\n']) line := by
  cases stage with
  | startDefinition => exact fun empty => absurd empty nonempty
  | label raw =>
    obtain ⟨body, ends, gathers⟩ := h
    exact ⟨body ++ ['\n'], suffix_append ends ['\n'], gathers.nextLine nonempty⟩
  | destination key =>
    obtain ⟨key_ne, label, gap, ends, blank, -, short, rfl⟩ := h
    refine ⟨key_ne, label, gap ++ ['\n'], ?_, blank_append_iff.2 ⟨blank, rfl⟩,
      fun empty => absurd empty nonempty, short, rfl⟩
    have suffix := suffix_append ends ['\n']
    simpa using suffix
  | startTitle key raw => exact absurd rfl h.1
  | title key raw closing text =>
    obtain ⟨opener, body, paired, ends, gathers⟩ := h
    exact ⟨opener, body ++ ['\n'], paired, suffix_append ends ['\n'], gathers.nextLine nonempty⟩
  | paragraph => trivial
  | unknown value => exact h

namespace Parser

variable {p q : Parser} {u s : Text} {calls : List Call}

/-- The lines left, but for the empty ones, each with a line feed after it. -/
def leftText (p : Parser) : Text := terminate (filled p.remaining)

theorem leftText_keep (p : Parser) (nonempty : line ≠ []) :
    (p.keep line).leftText = p.leftText ++ (line ++ ['\n']) := by
  rw [leftText, leftText, keep_remaining, filled_append, filled_singleton nonempty,
    terminate_append, terminate_cons, terminate_nil]

theorem leftText_keep_nil (p : Parser) : (p.keep []).leftText = p.leftText := by
  rw [leftText, leftText, keep_remaining, filled_append, filled_singleton_nil, List.append_nil]

/-- The scratch of a parser stands in the lines left, of which `t` is unread. All lines have just
been taken away, or the stage is what comes before `t`, or the block is a paragraph. -/
inductive Sourced (p : Parser) (t : Text) : Prop
  | taken (ends : t = []) (empty : p.leftText = [])
      (stage : p.stage = .startDefinition ∨ ∃ key raw, p.stage = .startTitle key raw)
  | left (read : Text) (whole : p.leftText = read ++ (t ++ ['\n']))
      (ends : p.stage.EndsWith p.labelLimit read t)
  | paragraph (stage : p.stage = .paragraph)

/-- Some of the unread text has been read. -/
theorem whole_of_read (whole : p.leftText = read ++ (t ++ ['\n'])) (unread : s ++ u = t) :
    p.leftText = (read ++ s) ++ (u ++ ['\n']) := by
  subst unread
  rw [whole, List.append_assoc, List.append_assoc]

theorem Move.sourced (h : p.Sourced t) (coherent : p.Coherent) (nonempty : t ≠ [])
    (inline : '\n' ∉ t) (move : p.Move t q u) : q.Sourced u := by
  have before := move.ne_paragraph.1
  cases h with
  | taken ends => exact absurd ends nonempty
  | paragraph stage => exact absurd stage before
  | left read whole ends =>
    cases move with
    | @openLabel b u stage blank =>
      refine .left (read ++ (b ++ ['['])) (whole_of_read whole (by simp))
        ⟨[], ?_, gathers_nil rfl u⟩
      exact ⟨read ++ b, by simp⟩
    | extendLabel stage clear =>
      rw [stage] at ends
      obtain ⟨body, ends, gathers⟩ := ends
      refine .left (read ++ t) (whole_of_read whole (List.append_nil t)) ⟨body ++ t, ?_, ?_⟩
      · exact suffix_append ends t
      · exact gathers.extend nonempty rfl clear
    | @closeLabel raw body b u stage encloses blank solid short key =>
      rw [stage] at ends
      obtain ⟨begun, ends, gathers⟩ := ends
      obtain rfl := gathers.eq_read nonempty
      refine .left (read ++ (body ++ ']' :: ':' :: b)) (whole_of_read whole (by simp))
        ⟨key, raw ++ body, b, ?_, blank, fun _ mem => inline (by simp [mem]), short, rfl⟩
      have suffix := suffix_append ends (body ++ ']' :: ':' :: b)
      simpa using suffix
    | endDestination stage blank destination trail_blank =>
      exact .taken rfl rfl (.inr ⟨_, _, rfl⟩)
    | @passDestination label b w v space u stage blank destination space_blank space_ne solid
        u_ne =>
      exact .left (read ++ (b ++ (w ++ space))) (whole_of_read whole (by simp)) ⟨u_ne, .inl solid⟩
    | @openTitle label destination b u o closing stage blank paired =>
      refine .left (read ++ (b ++ [o])) (whole_of_read whole (by simp))
        ⟨o, [], paired, ⟨read ++ b, by simp⟩, gathers_nil (Scan.endsTitle_break paired) u⟩
    | @skipTitle label destination b u r stage blank solid other settled =>
      rw [coherent.finalize_eq] at settled
      obtain rfl := Except.ok.inj settled
      rw [stage] at ends
      refine .left (read ++ b) (whole_of_read whole rfl) ?_
      rintro rfl
      rw [List.append_nil] at nonempty inline ends
      -- A blank rest of a line is the whole line, since within a line the rest is solid.
      rcases ends.2 with solid | rfl
      · exact absurd (blank.eq_nil_of_solid solid) nonempty
      · exact ⟨nonempty, blank, inline⟩
    | extendTitle stage clear =>
      rw [stage] at ends
      obtain ⟨opener, body, paired, ends, gathers⟩ := ends
      refine .left (read ++ t) (whole_of_read whole (List.append_nil t))
        ⟨opener, body ++ t, paired, ?_, ?_⟩
      · exact suffix_append ends t
      · exact gathers.extend nonempty (Scan.endsTitle_break paired) clear
    | closeTitle stage encloses blank settled => exact .taken rfl rfl (.inl rfl)

theorem Reading.sourced (h : p.Sourced t) (coherent : p.Coherent) (inline : '\n' ∉ t)
    (reading : Reading line p t q) : q.Sourced [] := by
  induction reading with
  | finished p => exact h
  | demoted nonempty stuck => exact .paragraph rfl
  | moved nonempty move rest ih =>
    have later := move.suffix
    exact ih (move.sourced h coherent nonempty inline) (move.coherent coherent)
      fun mem => inline (later.mem mem)

theorem Sourced.keep (h : p.Sourced []) (line : Text) : (p.keep line).Sourced line := by
  by_cases empty : line = []
  · subst empty
    cases h with
    | taken ends empty stage => exact .taken rfl (p.leftText_keep_nil.trans empty) stage
    | left read whole ends => exact .left read (p.leftText_keep_nil.trans whole) ends
    | paragraph stage => exact .paragraph stage
  · cases h with
    | taken ends nothing stage =>
      refine .left [] ?_ ?_
      · rw [leftText_keep p empty, nothing]
      · rw [keep_stage]
        rcases stage with stage | ⟨key, raw, stage⟩ <;> rw [stage]
        · exact fun nil => absurd nil empty
        · exact ⟨empty, .inr rfl⟩
    | left read whole ends =>
      refine .left (read ++ ['\n']) ?_ (ends.nextLine empty)
      rw [leftText_keep p empty, whole, List.nil_append]
    | paragraph stage => exact .paragraph stage

theorem Sourced.feed (h : p.Sourced []) (coherent : p.Coherent) (inline : '\n' ∉ line) :
    (p.call (.feed line)).Sourced [] := by
  obtain ⟨q, fed, -, ⟨paragraph, rfl⟩ | ⟨-, reading⟩⟩ := coherent.feed_cases line
  · rw [call_feed fed]
    exact .paragraph paragraph
  · rw [call_feed fed]
    have kept : (p.keep line).Coherent := coherent
    exact reading.sourced (h.keep line) kept inline

theorem Sourced.harvest (h : p.Sourced []) (coherent : p.Coherent) :
    (p.call .harvest).Sourced [] := by
  rw [coherent.call_harvest]
  cases h with
  | taken ends empty stage => exact .taken ends empty stage
  | left read whole ends => exact .left read whole ends
  | paragraph stage => exact .paragraph stage

theorem sourced_after (limit : Nat) (calls : List Call)
    (inline : ∀ line ∈ fedLines calls, '\n' ∉ line) : ((fresh limit).after calls).Sourced [] := by
  induction calls using List.reverseRecOn with
  | nil => exact .taken rfl rfl (.inl rfl)
  | append_singleton calls c ih =>
    have coherent := coherent_after limit calls
    rw [fedLines_append] at inline
    have before := ih fun line mem => inline line (List.mem_append_left _ mem)
    rw [after_concat]
    cases c with
    | harvest => exact before.harvest coherent
    | feed line => exact before.feed coherent (inline line (by simp [fedLines]))

theorem Sourced.standsIn (h : p.Sourced []) : p.stage.StandsIn p.labelLimit p.leftText := by
  cases h with
  | taken ends empty stage =>
    rw [empty]
    rcases stage with stage | ⟨key, raw, stage⟩ <;> rw [stage]
    · exact .inl rfl
    · exact rfl
  | left read whole ends =>
    rw [whole]
    exact ends.standsIn
  | paragraph stage =>
    rw [stage]
    trivial

/-! ### The pending draft -/

/-- A line that is read to where a title may start leaves a draft. -/
theorem Reading.pending_of_startTitle {key raw : Text} (reading : Reading line p t q)
    (ends : q.stage = .startTitle key raw) : t = [] ∧ q = p ∨ q.pending ≠ none := by
  induction reading with
  | finished p => exact .inl ⟨rfl, rfl⟩
  | demoted nonempty stuck => cases ends
  | moved nonempty move rest ih =>
    rcases ih ends with ⟨rfl, rfl⟩ | drafted
    · cases move with
      | endDestination stage => exact .inr (Option.some_ne_none _)
      | passDestination stage blank whole space_blank space_ne solid u_ne => exact absurd rfl u_ne
      | openLabel | extendLabel | closeLabel | openTitle | skipTitle | extendTitle | closeTitle =>
        cases ends
    · exact .inr drafted

/-- Without a harvest a draft is pending wherever a title may start. -/
theorem pending_of_startTitle (limit : Nat) (calls : List Call) (plain : .harvest ∉ calls)
    {key raw : Text} (stage : ((fresh limit).after calls).stage = .startTitle key raw) :
    ((fresh limit).after calls).pending ≠ none := by
  induction calls using List.reverseRecOn with
  | nil => cases stage
  | append_singleton calls c ih =>
    simp only [List.mem_append, List.mem_singleton, not_or] at plain
    rw [after_concat] at stage ⊢
    cases c with
    | harvest => exact absurd rfl plain.2
    | feed line =>
      obtain ⟨q, fed, -, ⟨paragraph, rfl⟩ | ⟨-, reading⟩⟩ :=
        (coherent_after limit calls).feed_cases line
      · rw [call_feed fed, keep_stage, paragraph] at stage
        cases stage
      · rw [call_feed fed] at stage ⊢
        rcases reading.pending_of_startTitle stage with ⟨-, rfl⟩ | drafted
        · exact ih plain.1 stage
        · exact drafted

theorem Coherent.stage_of_pending {d : Draft} (h : p.Coherent) (pending : p.pending = some d) :
    p.stage = .startTitle d.label d.destination ∨
      (∃ closing raw, p.stage = .title d.label d.destination closing raw) ∨
      p.stage = .paragraph := by
  cases stage : p.stage with
  | startTitle key raw =>
    obtain rfl := (h.allows stage).2 d pending
    exact .inl rfl
  | title key raw closing text =>
    obtain rfl := (h.allows stage).2 d pending
    exact .inr (.inl ⟨closing, text, rfl⟩)
  | paragraph => exact .inr (.inr rfl)
  | startDefinition | label _ | destination _ | unknown _ =>
    have allowed := h.allows stage
    simp [Stage.Allows, pending] at allowed

/-- **What a parser still needs of the lines left.** After any history of harvests and of lines
without line feeds, the scratch in the stage is what the lines left end with. A pending draft has no
title and waits where its title may follow, with the label and the destination of the stage, or in a
paragraph; and where a title may start there is one, unless a harvest has settled it. -/
theorem after_standsIn (limit : Nat) (calls : List Call)
    (inline : ∀ line ∈ fedLines calls, '\n' ∉ line) :
    let p := (fresh limit).after calls
    p.stage.StandsIn limit (terminate (filled p.remaining)) ∧
      (∀ d, p.pending = some d → d.title = none ∧
        (p.stage = .startTitle d.label d.destination ∨
          (∃ closing raw, p.stage = .title d.label d.destination closing raw) ∨
          p.stage = .paragraph)) ∧
      (.harvest ∉ calls → ∀ key raw, p.stage = .startTitle key raw →
        p.pending = some ⟨key, raw, none⟩) := by
  intro p
  have coherent : p.Coherent := coherent_after limit calls
  have stands := (sourced_after limit calls inline).standsIn
  rw [labelLimit_after] at stands
  refine ⟨stands, fun d pending => ?_, fun plain key raw stage => ?_⟩
  · exact ⟨(coherent.pending_untitled pending).2, coherent.stage_of_pending pending⟩
  · have drafted := pending_of_startTitle limit calls plain stage
    obtain ⟨d, pending⟩ := Option.ne_none_iff_exists'.1 drafted
    rw [pending, (coherent.allows stage).2 d pending]

/-- A title that is open in the line after its destination. -/
theorem after_standsIn_openTitle :
    let calls := [.feed "[a]:".toList, .feed "/x".toList, .feed "(one".toList, .feed []]
    let p := (fresh 999).after calls
    (∀ line ∈ fedLines calls, '\n' ∉ line) ∧
      p.stage = .title ['a'] "/x".toList ')' "one\n".toList ∧
      (∃ opener, titleCloser? opener = some ')' ∧
        opener :: "one\n".toList <:+ terminate (filled p.remaining) ∧
        ['\n'] <:+ "one\n".toList ∧ Clear (Scan.endsTitle [')']) "one\n".toList) ∧
      ∃ d, p.pending = some d ∧ d.title = none := by
  intro calls p
  have inline : ∀ line ∈ fedLines calls, '\n' ∉ line := by decide
  have stage : p.stage = .title ['a'] "/x".toList ')' "one\n".toList := by decide +kernel
  have pending : p.pending = some ⟨['a'], "/x".toList, none⟩ := by decide +kernel
  obtain ⟨text, drafts, -⟩ := after_standsIn 999 calls inline
  have stands : Stage.StandsIn 999 (terminate (filled p.remaining)) p.stage := text
  rw [stage] at stands
  exact ⟨inline, stage, stands, _, pending, (drafts _ pending).1⟩

end Parser

end LinkDefinitions
