import LinkDefinitions.Proofs.Parser.Alike
import LinkDefinitions.Proofs.Parser.Demotion
import Mathlib.Data.List.Forall2

/-!
# The lines of each definition

The lines of a block can be cut into groups, one for each definition, and a rest. A group that is
fed alone gives its definition and no other, and the rest gives none (`feedAll_groups`). So a
definition depends on the lines of its own group only.

At each line a second parser is kept up, which has been fed only the lines since the last group
began (`Alone`). While nothing is pending it is where the first one is. While a draft is pending, it
is where the first one is if it is fed the lines of the draft too; but the lines since the draft
may have to stand alone as well, should no title come of them (`Cuts`).
-/

namespace LinkDefinitions

namespace Parser

variable {limit : Nat} {p q r : Parser} {line t : Text} {lines : List Text} {d : Draft}
  {ds es : List Definition} {groups : List (List Text)} {group : List Text}

/-! ### Lines and what they give -/

/-- Fed to a fresh parser, the lines give the definitions `ds`, and `left` is left of them. -/
def Gives (limit : Nat) (lines : List Text) (ds : List Definition) (left : List Text) : Prop :=
  ∃ p q, (fresh limit).feedAll lines = .ok p ∧ p.harvest = .ok (ds, q) ∧ p.remaining = left

theorem gives_fed (limit : Nat) (lines : List Text) :
    Gives limit lines (fed limit lines).committed (fed limit lines).remaining :=
  ⟨_, _, feedAll_fresh limit lines, (coherent_fed limit lines).harvest_eq, rfl⟩

/-- Groups of lines that give the definitions one by one, each group alone, and also one after the
other from the first on. -/
structure Groups (limit : Nat) (groups : List (List Text)) (ds : List Definition) : Prop where
  alone : List.Forall₂ (fun group d => Gives limit group [d] []) groups ds
  first : ∀ n ≤ groups.length, Gives limit (groups.take n).flatten (ds.take n) []

theorem groups_nil (limit : Nat) : Groups limit [] [] := by
  refine ⟨.nil, fun n _ => ?_⟩
  rw [List.take_nil, List.take_nil]
  exact gives_fed limit []

/-! ### A parser that is fed the last lines only -/

/-- The second parser has not been fed the lines of the definitions `ds`, and is otherwise like the
first one. -/
structure Alone (ds : List Definition) (p r : Parser) : Prop where
  alike : Alike ds [] p r
  remaining : r.remaining = p.remaining

theorem Alone.feed (alone : Alone ds p r) (h : p.Coherent) (line : Text) :
    Alone ds (p.call (.feed line)) (r.call (.feed line)) :=
  ⟨alone.alike.feed h line, alone.alike.remaining_feed h alone.remaining line⟩

theorem Alone.gives (alone : Alone ds p (fed limit lines)) (committed : p.committed = ds ++ es) :
    Gives limit lines es p.remaining := by
  obtain ⟨found, eq, eq'⟩ := alone.alike.exists_committed
  rw [committed, List.append_cancel_left_eq] at eq
  have gives := gives_fed limit lines
  rw [eq', List.nil_append, ← eq, alone.remaining] at gives
  exact gives

theorem Alone.labelLimit (alone : Alone ds p (fed limit lines)) : p.labelLimit = limit :=
  alone.alike.labelLimit.symm.trans (labelLimit_after limit _)

/-- At the end of a definition the second parser may be a fresh one. -/
theorem alone_fresh (limit_eq : p.labelLimit = limit) (stage : p.stage = .startDefinition)
    (pending : p.pending = none) (remaining : p.remaining = []) :
    Alone p.finalized p (fed limit []) :=
  ⟨⟨limit_eq.symm, stage.symm, pending.symm, [], by simp, rfl⟩, remaining.symm⟩

/-- The lines of one more definition. -/
theorem Groups.concat {e : Definition} (cut : Groups limit groups ds)
    (whole : fed limit (groups.flatten ++ group) = p) (alone : Alone ds p (fed limit group))
    (committed : p.committed = ds ++ [e]) (remaining : p.remaining = []) :
    Groups limit (groups ++ [group]) (ds ++ [e]) := by
  have same := cut.alone.length_eq
  have last : Gives limit group [e] [] := remaining ▸ alone.gives committed
  have first := gives_fed limit (groups.flatten ++ group)
  rw [whole, committed, remaining] at first
  refine ⟨List.rel_append cut.alone (.cons last .nil), fun n le => ?_⟩
  rcases Nat.lt_or_ge groups.length n with all | earlier
  · rw [List.take_of_length_le (by simp; omega), List.take_of_length_le (by simp; omega)]
    simpa using first
  · rw [List.take_append_of_le_length earlier, List.take_append_of_le_length (same ▸ earlier)]
    exact cut.first n earlier

/-! ### Where the lines are cut -/

/-- A draft is pending, whose lines are the last group. The lines since are left. -/
structure Drafting (limit : Nat) (lines : List Text) (groups : List (List Text))
    (group : List Text) (d : Draft) (p : Parser) : Prop where
  cut : Groups limit groups p.finalized
  last : Groups limit (groups ++ [group]) (p.finalized ++ [d.resolved])
  whole : lines = groups.flatten ++ (group ++ p.remaining)
  pending : p.pending = some d
  alone : Alone p.finalized p (fed limit (group ++ p.remaining))

/-- How the lines fed so far are cut. While a draft is pending, either the lines since are empty,
and a fresh parser may go on from them, or a title has begun in them, and alone they are a
paragraph. -/
inductive Cuts (limit : Nat) (lines : List Text) (p : Parser) : Prop
  | clear (groups : List (List Text)) (cut : Groups limit groups p.finalized)
      (whole : lines = groups.flatten ++ p.remaining) (pending : p.pending = none)
      (alone : Alone p.finalized p (fed limit p.remaining))
  | drafted (groups : List (List Text)) (group : List Text) (d : Draft)
      (drafting : Drafting limit lines groups group d p)
      (stage : p.stage = .startTitle d.label d.destination)
      (empty : ∀ line ∈ p.remaining, line = [])
  | titling (groups : List (List Text)) (group : List Text) (d : Draft)
      (drafting : Drafting limit lines groups group d p)
      (stage : ∀ key raw, p.stage ≠ .startTitle key raw)
      (abides : Abides (fresh limit) p.remaining (fed limit p.remaining))

/-- After a definition with its title the next line begins a group. -/
theorem Groups.cuts_concat {e : Definition} (cut : Groups limit groups ds)
    (whole : fed limit (groups.flatten ++ group) = p) (alone : Alone ds p (fed limit group))
    (finalized : p.finalized = ds ++ [e]) (pending : p.pending = none)
    (remaining : p.remaining = []) (stage : p.stage = .startDefinition) :
    Cuts limit (groups.flatten ++ group) p := by
  have committed := (committed_of_pending_eq_none pending).trans finalized
  refine .clear (groups ++ [group]) ?_ ?_ pending ?_
  · rw [finalized]
    exact cut.concat whole alone committed remaining
  · simp [remaining]
  · rw [remaining]
    exact alone_fresh alone.labelLimit stage pending remaining

/-! ### A line with no draft pending -/

/-- The line is left with the others, or it completes the definition of a group. -/
theorem Cuts.feed_clear (h : p.Coherent) (cut : Groups limit groups p.finalized)
    (whole : lines = groups.flatten ++ p.remaining) (pending : p.pending = none)
    (alone : Alone p.finalized p (fed limit p.remaining))
    (next : fed limit (lines ++ [line]) = p.call (.feed line)) :
    Cuts limit (lines ++ [line]) (p.call (.feed line)) := by
  have alone' := alone.feed h line
  have complete (after : (p.call (.feed line)).remaining = []) := h.complete_call_feed after
  obtain ⟨q, fed, -, outcome⟩ := h.feed_quiet_or_commits line
  rw [whole, List.append_assoc, call_feed fed] at next
  rw [← fed_concat, call_feed fed] at alone'
  rw [whole, List.append_assoc, call_feed fed]
  rw [call_feed fed] at complete
  rcases outcome with quiet | ⟨m, quiet, commits⟩
  · obtain ⟨finalized, pending'⟩ := quiet.of_idle pending
    have remaining : q.remaining = p.remaining ++ [line] := quiet.remaining
    refine .clear groups ?_ ?_ pending' ?_
    · rw [finalized]
      exact cut
    · rw [remaining]
    · rw [finalized, remaining]
      exact alone'
  · obtain ⟨found, idle⟩ := quiet.of_idle pending
    cases commits with
    | drafted d untitled before finalized pending' remaining =>
      have same : q.finalized = p.finalized := finalized.trans found
      have committed : q.committed = p.finalized ++ [d.resolved] := by
        rw [committed_of_pending_eq_some pending', same]
      have stage := (complete remaining).stage_of_pending pending'
      refine .drafted groups (p.remaining ++ [line]) d ⟨?_, ?_, ?_, pending', ?_⟩ stage ?_
      · rw [same]
        exact cut
      · rw [same]
        exact cut.concat next alone' committed remaining
      · rw [remaining, List.append_nil]
      · rw [same, remaining, List.append_nil]
        exact alone'
      · simp [remaining]
    | titled d title untitled before finalized pending' remaining =>
      have more : q.finalized = p.finalized ++ [d.resolved.withTitle title] := by
        rw [finalized, found]
        rfl
      have stage := (complete remaining).stage_of_idle pending'
      exact cut.cuts_concat next alone' more pending' remaining stage

/-! ### A line with a title open -/

/-- What becomes of an open title and its draft: the title goes on or is given up, or it is closed
and makes the definition final. -/
inductive Titling (d : Draft) (p q : Parser) : Prop
  | kept (finalized : q.finalized = p.finalized) (pending : q.pending = p.pending)
      (remaining : q.remaining = p.remaining) (stage : ∀ key raw, q.stage ≠ .startTitle key raw)
  | closed (title : Text) (finalized : q.finalized = p.finalized ++ [d.resolved.withTitle title])
      (pending : q.pending = none) (remaining : q.remaining = [])
      (stage : q.stage = .startDefinition)

theorem Reading.titling {key raw body : Text} {closing : Char} (h : p.Coherent)
    (stage : p.stage = .title key raw closing body) (reading : Reading line p t q) :
    Titling ⟨key, raw, none⟩ p q := by
  cases reading with
  | finished => exact .kept rfl rfl rfl (stage ▸ fun _ _ => Stage.noConfusion)
  | demoted nonempty stuck => exact .kept rfl rfl rfl fun _ _ => Stage.noConfusion
  | moved nonempty move rest =>
    cases move with
    | openLabel stage' | extendLabel stage' | closeLabel stage' | endDestination stage'
    | passDestination stage' | openTitle stage' | skipTitle stage' =>
      rw [stage] at stage'
      cases stage'
    | extendTitle stage' clear =>
      rw [rest.eq_of_nil]
      exact .kept rfl rfl rfl fun _ _ => Stage.noConfusion
    | closeTitle stage' encloses blank settled =>
      rw [stage] at stage'
      cases stage'
      rw [Parser.finalize_eq (by simpa using (h.allows stage).1)] at settled
      obtain rfl := Except.ok.inj settled
      rw [rest.eq_of_nil]
      exact .closed _ rfl rfl rfl rfl

/-- The line is left with the others since the draft, or it takes them to the group of the draft. -/
theorem Drafting.feed_titling (drafting : Drafting limit lines groups group d p) (h : p.Coherent)
    (titling : Titling d (p.keep line) (p.call (.feed line)))
    (abides : Abides (fresh limit) (p.remaining ++ [line]) (fed limit (p.remaining ++ [line])))
    (next : fed limit (lines ++ [line]) = p.call (.feed line)) :
    Cuts limit (lines ++ [line]) (p.call (.feed line)) := by
  obtain ⟨cut, last, whole, pending, alone⟩ := drafting
  have alone' := alone.feed h line
  rw [← fed_concat, List.append_assoc] at alone'
  rw [whole, List.append_assoc, List.append_assoc] at next ⊢
  generalize p.call (.feed line) = q at *
  cases titling with
  | kept finalized pending' remaining stage =>
    rw [keep_finalized] at finalized
    rw [keep_pending] at pending'
    rw [keep_remaining] at remaining
    rw [← remaining] at abides alone' ⊢
    rw [← finalized] at cut last alone'
    exact .titling groups group d ⟨cut, last, rfl, pending'.trans pending, alone'⟩ stage abides
  | closed title finalized pending' remaining stage =>
    rw [keep_finalized] at finalized
    exact cut.cuts_concat next alone' finalized pending' remaining stage

/-! ### A line with a draft pending -/

/-- Empty lines are only kept. -/
theorem fed_of_empty (limit : Nat) (empty : ∀ line ∈ lines, line = []) :
    fed limit lines = { fresh limit with remaining := lines } := by
  induction lines using List.reverseRecOn with
  | nil => rfl
  | append_singleton lines line ih =>
    obtain rfl := empty line (by simp)
    rw [fed_concat, ih fun line mem => empty line (by simp [mem]), call_feed_nil]
    rfl

/-- Blanks before the bracket of a definition do not matter. -/
theorem read_blank_append {b : Text} (stage : p.stage = .startDefinition) (blank : Blank b)
    (nonempty : t ≠ []) : p.read line (b ++ t) = p.read line t := by
  have nonempty' : b ++ t ≠ [] := by simp [nonempty]
  have same : p.step (b ++ t) = p.step t := by
    unfold step
    rw [stage]
    show Except.ok (p.openLabel (b ++ t)) = Except.ok (p.openLabel t)
    rw [openLabel, skipBlanks_append blank, openLabel]
  cases eq : p.step t with
  | error failure => rw [read_of_failure nonempty eq, read_of_failure nonempty' (same.trans eq)]
  | ok result =>
    cases result with
    | none => rw [read_of_no_match nonempty eq, read_of_no_match nonempty' (same.trans eq)]
    | some result =>
      rw [read_of_match nonempty eq, read_of_match nonempty' (same.trans eq)]

/-- A line that does not begin with a title is read as if the draft were settled. -/
theorem Coherent.call_feed_skip {key raw b : Text} {c : Char} (h : p.Coherent)
    (stage : p.stage = .startTitle key raw) (blank : Blank b) (solid : isBlank c = false)
    (other : titleCloser? c = none) (t : Text) :
    p.call (.feed (b ++ c :: t)) =
      (p.settled.goto .startDefinition).call (.feed (b ++ c :: t)) := by
  generalize eq : b ++ c :: t = line
  have nonempty : b ++ c :: t ≠ [] := by simp
  have kept : (p.keep line).Coherent := h
  have started : ((p.settled.goto .startDefinition).keep line).Coherent := rfl
  obtain ⟨q, rest⟩ := started.exists_reading Stage.noConfusion line (c :: t)
  have first : Reading line (p.keep line) (b ++ c :: t) q :=
    .moved nonempty (.skipTitle stage blank (solid_cons_iff.2 solid) (by simpa using other)
      kept.finalize_eq) rest
  have second : Reading line ((p.settled.goto .startDefinition).keep line) (b ++ c :: t) q :=
    reading_of_read ((read_blank_append rfl blank (by simp)).trans (read_of_reading rest))
  rw [eq] at first second
  rw [call_feed (feed_of_reading (stage ▸ Stage.noConfusion) first),
    call_feed (feed_of_reading Stage.noConfusion second)]

theorem Coherent.titling_of_opens {key raw b : Text} {c closing : Char} (h : p.Coherent)
    (pending : p.pending = some d) (stage : p.stage = .startTitle key raw) (blank : Blank b)
    (paired : titleCloser? c = some closing) (t : Text) :
    Titling d (p.keep (b ++ c :: t)) (p.call (.feed (b ++ c :: t))) := by
  obtain rfl := (h.allows stage).2 d pending
  generalize eq : b ++ c :: t = line
  have nonempty : b ++ c :: t ≠ [] := by simp
  have opens : (p.keep line).Move (b ++ c :: t) _ t := .openTitle stage blank paired
  have kept : (p.keep line).Coherent := h
  have opened := opens.coherent kept
  obtain ⟨q, rest⟩ := opened.exists_reading Stage.noConfusion line t
  have reading : Reading line (p.keep line) (b ++ c :: t) q := .moved nonempty opens rest
  rw [eq] at reading
  rw [call_feed (feed_of_reading (stage ▸ Stage.noConfusion) reading)]
  cases rest.titling opened rfl with
  | kept finalized pending remaining stage => exact .kept finalized pending remaining stage
  | closed title finalized pending remaining stage =>
    exact .closed title finalized pending remaining stage

theorem Coherent.titling_of_pending (h : p.Coherent) (pending : p.pending = some d)
    (stage : ∀ key raw, p.stage ≠ .startTitle key raw) (line : Text) :
    Titling d (p.keep line) (p.call (.feed line)) := by
  obtain ⟨q, fed, -, ⟨paragraph, rfl⟩ | ⟨goes_on, reading⟩⟩ := h.feed_cases line
  · rw [call_feed fed]
    exact .kept rfl rfl rfl stage
  · rw [call_feed fed]
    have kept : (p.keep line).Coherent := h
    cases within : p.stage with
    | title key raw closing body =>
      obtain rfl := (h.allows within).2 d pending
      exact reading.titling kept within
    | startTitle key raw => exact absurd within (stage key raw)
    | paragraph => exact absurd within goes_on
    | startDefinition | label _ | destination _ | unknown _ =>
      have allowed := h.allows within
      simp [Stage.Allows, pending] at allowed

theorem Drafting.feed_drafted (drafting : Drafting limit lines groups group d p) (h : p.Coherent)
    (stage : p.stage = .startTitle d.label d.destination) (empty : ∀ line ∈ p.remaining, line = [])
    (solid : line ≠ [] → ¬ Blank line)
    (next : fed limit (lines ++ [line]) = p.call (.feed line)) :
    Cuts limit (lines ++ [line]) (p.call (.feed line)) := by
  have rest := fed_of_empty limit empty
  obtain ⟨cut, last, whole, pending, alone⟩ := drafting
  obtain ⟨begins, b, blank, split⟩ := skipBlanks_eq_iff.1 (rfl : skipBlanks line = _)
  cases after : skipBlanks line with
  | nil =>
    obtain rfl : line = [] := by
      by_contra nonempty
      exact solid nonempty (skipBlanks_eq_nil_iff.1 after)
    have alone' := alone.feed h []
    rw [← fed_concat, List.append_assoc] at alone'
    rw [call_feed_nil] at alone' ⊢
    refine .drafted groups group d ⟨cut, last, ?_, pending, alone'⟩ stage ?_
    · rw [whole, keep_remaining, List.append_assoc, List.append_assoc]
    · simpa [or_imp, forall_and] using empty
  | cons c t =>
    rw [after] at begins split
    have c_solid := solid_cons_iff.1 begins
    subst split
    cases paired : titleCloser? c with
    | none =>
      -- The draft is settled without a title, and this line is the first of a group or of the rest.
      have cut' : Groups limit (groups ++ [group]) (p.settled.goto .startDefinition).finalized := by
        rw [goto_finalized, settled_finalized, committed_of_pending_eq_some pending]
        exact last
      have settled := h.call_feed_skip stage blank c_solid paired t
      rw [settled] at next ⊢
      refine .feed_clear rfl cut' ?_ rfl ?_ next
      · simp [whole]
      · rw [goto_remaining, settled_remaining, rest]
        exact ⟨⟨alone.labelLimit.symm, rfl, rfl, [], by simp, rfl⟩, rfl⟩
    | some closing =>
      -- A title begins where no definition can, so the lines since the draft make a paragraph.
      have opens : titleCloser? '[' = none := by decide
      have bracket : c ≠ '[' := by
        rintro rfl
        rw [opens] at paired
        cases paired
      have start : (fed limit p.remaining).stage = .startDefinition := by rw [rest]; rfl
      have demoted := feed_of_ne_bracket start blank c_solid bracket t
      refine Drafting.feed_titling ⟨cut, last, whole, pending, alone⟩ h
        (h.titling_of_opens pending stage blank paired t) ?_ next
      rw [fed_concat, call_feed demoted, rest]
      exact ⟨rfl, rfl, rfl⟩

/-- Each line leaves the lines cut. -/
theorem Cuts.feed (cuts : Cuts limit lines p) (h : p.Coherent) (solid : line ≠ [] → ¬ Blank line)
    (next : fed limit (lines ++ [line]) = p.call (.feed line)) :
    Cuts limit (lines ++ [line]) (p.call (.feed line)) := by
  cases cuts with
  | clear groups cut whole pending alone => exact .feed_clear h cut whole pending alone next
  | drafted groups group d drafting stage empty =>
    exact drafting.feed_drafted h stage empty solid next
  | titling groups group d drafting stage abides =>
    have titling := h.titling_of_pending drafting.pending stage line
    have abides' := abides.call (coherent_fed limit p.remaining) (.feed line)
    rw [← fed_concat] at abides'
    exact drafting.feed_titling h titling abides' next

theorem cuts_fed (limit : Nat) (solid : ∀ line ∈ lines, line ≠ [] → ¬ Blank line) :
    Cuts limit lines (fed limit lines) := by
  induction lines using List.reverseRecOn with
  | nil => exact .clear [] (groups_nil limit) rfl rfl (alone_fresh rfl rfl rfl rfl)
  | append_singleton lines line ih =>
    have next := fed_concat limit lines line
    have earlier := ih fun line mem => solid line (by simp [mem])
    rw [next]
    exact earlier.feed (coherent_fed limit lines) (solid line (by simp)) next

theorem Cuts.exists_groups (cuts : Cuts limit lines p) :
    ∃ groups, lines = groups.flatten ++ p.remaining ∧ Groups limit groups p.committed ∧
      Gives limit p.remaining [] p.remaining := by
  cases cuts with
  | clear groups cut whole pending alone =>
    have committed := committed_of_pending_eq_none pending
    refine ⟨groups, whole, ?_, alone.gives (committed.trans (List.append_nil _).symm)⟩
    rw [committed]
    exact cut
  | drafted groups group d drafting stage empty =>
    have rest := gives_fed limit p.remaining
    rw [fed_of_empty limit empty] at rest
    refine ⟨groups ++ [group], by simp [drafting.whole], ?_, rest⟩
    rw [committed_of_pending_eq_some drafting.pending]
    exact drafting.last
  | titling groups group d drafting stage abides =>
    have rest := gives_fed limit p.remaining
    rw [abides.committed, abides.remaining] at rest
    refine ⟨groups ++ [group], by simp [drafting.whole], ?_, rest⟩
    rw [committed_of_pending_eq_some drafting.pending]
    exact drafting.last

/-- **Groups of lines.** Lines of which none consists of blanks only can be cut into one group for
each definition that they give, and a rest. Each group alone gives its definition and leaves no
line, as the first groups together give their definitions; and the rest alone gives nothing and is
left whole. -/
theorem feedAll_groups (limit : Nat) (lines : List Text)
    (solid : ∀ line ∈ lines, line ≠ [] → ¬ Blank line) :
    ∃ groups ds rest, Gives limit lines ds rest ∧ lines = groups.flatten ++ rest ∧
      List.Forall₂ (fun group d => Gives limit group [d] []) groups ds ∧
      (∀ n ≤ groups.length, Gives limit (groups.take n).flatten (ds.take n) []) ∧
      Gives limit rest [] rest := by
  obtain ⟨groups, whole, cut, rest⟩ := (cuts_fed limit solid).exists_groups
  exact ⟨groups, _, _, gives_fed limit lines, whole, cut.alone, cut.first, rest⟩

/-- A definition whose title does not come, one over three lines, and a title that stays open. -/
theorem feedAll_groups_fiveLines :
    let lines := ["[a]: /x".toList, "[b]:".toList, "/y".toList, "'t'".toList, "\"open".toList]
    (∀ line ∈ lines, line ≠ [] → ¬ Blank line) ∧
      ∃ groups, lines = groups.flatten ++ ["\"open".toList] ∧
        List.Forall₂ (fun group d => Gives 999 group [d] []) groups
          [⟨['a'], "/x".toList, none⟩, ⟨['b'], "/y".toList, some ['t']⟩] ∧
        Gives 999 (groups.take 1).flatten [⟨['a'], "/x".toList, none⟩] [] ∧
        Gives 999 ["\"open".toList] [] ["\"open".toList] := by
  intro lines
  have solid : ∀ line ∈ lines, line ≠ [] → ¬ Blank line := by decide
  obtain ⟨groups, ds, rest, ⟨p, q, fed, harvest, left⟩, whole, alone, first, nothing⟩ :=
    feedAll_groups 999 lines solid
  rw [feedAll_fresh] at fed
  obtain rfl := Except.ok.inj fed
  have known : (Parser.fed 999 lines).harvest =
      .ok ([⟨['a'], "/x".toList, none⟩, ⟨['b'], "/y".toList, some ['t']⟩],
        (Parser.fed 999 lines).settled) := by decide +kernel
  have open_left : (Parser.fed 999 lines).remaining = ["\"open".toList] := by decide +kernel
  obtain ⟨rfl, -⟩ := Prod.mk.inj (Except.ok.inj (harvest.symm.trans known))
  rw [← left, open_left] at whole nothing
  have two : groups.length = 2 := alone.length_eq
  exact ⟨solid, groups, whole, alone, first 1 (by omega), nothing⟩

end Parser

end LinkDefinitions
