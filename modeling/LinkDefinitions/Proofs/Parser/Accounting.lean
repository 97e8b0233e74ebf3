import LinkDefinitions.Proofs.Parser.Coherent
import Mathlib.Data.List.Infix

/-!
# What a line does to the definitions and to the lines left

A line either leaves the definitions alone and is kept, or it completes one definition and takes
away every line that is left. A completed definition is a new one at the end, or the pending one
with its title (`feed_accounts`). Over a history this makes the lines left a final part of those
fed, with nothing taken before the first definition, and no definition is ever changed but for the
title that a pending one may still get.

Within a line the moves before the last one are quiet: they may settle the pending draft, which
changes nothing for a harvest. Only the last move of a line may commit.
-/

namespace LinkDefinitions

/-- The definition with a title. -/
def Definition.withTitle (d : Definition) (title : Text) : Definition :=
  ⟨d.label, d.destination, some title⟩

namespace Parser

variable {p p' q r : Parser} {line t u : Text} {d : Draft} {old new : List Definition}

/-! ### Quiet moves and commits -/

/-- The lines left are the same, and the pending draft is the same or settled. -/
structure Quiet (p q : Parser) : Prop where
  remaining : q.remaining = p.remaining
  ledger : q.finalized = p.finalized ∧ q.pending = p.pending ∨
    q.finalized = p.committed ∧ q.pending = none

/-- A definition is completed, as a draft or with its title, and takes all lines that are left. -/
inductive Commits (p q : Parser) : Prop
  | drafted (d : Draft) (untitled : d.title = none) (before : p.pending = none)
      (finalized : q.finalized = p.finalized) (pending : q.pending = some d)
      (remaining : q.remaining = [])
  | titled (d : Draft) (title : Text) (untitled : d.title = none) (before : ∀ e ∈ p.pending, e = d)
      (finalized : q.finalized = p.finalized ++ [d.resolved.withTitle title])
      (pending : q.pending = none) (remaining : q.remaining = [])

theorem Quiet.refl (p : Parser) : Quiet p p := ⟨rfl, .inl ⟨rfl, rfl⟩⟩

theorem Quiet.committed (h : Quiet p q) : q.committed = p.committed := by
  rcases h.ledger with ⟨finalized, pending⟩ | ⟨finalized, pending⟩
  · rw [Parser.committed, Parser.committed, finalized, pending]
  · rw [committed_of_pending_eq_none pending, finalized]

theorem Quiet.trans (first : Quiet p q) (second : Quiet q r) : Quiet p r := by
  refine ⟨second.remaining.trans first.remaining, ?_⟩
  rcases second.ledger with ⟨finalized, pending⟩ | ⟨finalized, pending⟩
  · rw [finalized, pending]
    exact first.ledger
  · rw [finalized, first.committed]
    exact .inr ⟨rfl, pending⟩

theorem Quiet.pending (h : Quiet p q) (pending : q.pending = some d) : p.pending = some d := by
  rcases h.ledger with ⟨-, same⟩ | ⟨-, none⟩
  · rw [← same, pending]
  · rw [none] at pending
    cases pending

theorem Quiet.of_idle (h : Quiet p q) (idle : p.pending = none) :
    q.finalized = p.finalized ∧ q.pending = none := by
  rcases h.ledger with ⟨finalized, pending⟩ | ⟨finalized, pending⟩
  · exact ⟨finalized, pending.trans idle⟩
  · exact ⟨finalized.trans (committed_of_pending_eq_none idle), pending⟩

/-- A move is quiet, or it ends the line and commits. -/
theorem Move.quiet_or_commits (h : p.Coherent) (move : p.Move t q u) :
    Quiet p q ∨ u = [] ∧ Commits p q := by
  cases move with
  | openLabel stage blank => exact .inl ⟨rfl, .inl ⟨rfl, rfl⟩⟩
  | extendLabel stage clear => exact .inl ⟨rfl, .inl ⟨rfl, rfl⟩⟩
  | closeLabel stage encloses blank solid short key => exact .inl ⟨rfl, .inl ⟨rfl, rfl⟩⟩
  | @endDestination label _ _ v _ stage blank whole trail_blank =>
    exact .inr ⟨rfl, .drafted ⟨label, v, none⟩ rfl (h.allows stage).2 rfl rfl rfl⟩
  | passDestination stage blank whole space_blank space_ne solid u_ne =>
    exact .inl ⟨rfl, .inl ⟨rfl, rfl⟩⟩
  | openTitle stage blank paired => exact .inl ⟨rfl, .inl ⟨rfl, rfl⟩⟩
  | skipTitle stage blank solid other settled =>
    rw [h.finalize_eq] at settled
    obtain rfl := Except.ok.inj settled
    exact .inl ⟨rfl, .inr ⟨rfl, rfl⟩⟩
  | extendTitle stage clear => exact .inl ⟨rfl, .inl ⟨rfl, rfl⟩⟩
  | @closeTitle label destination raw body _ _ _ stage encloses blank settled =>
    obtain ⟨key, pending⟩ := h.allows stage
    rw [Parser.finalize_eq (by simpa using key)] at settled
    obtain rfl := Except.ok.inj settled
    exact .inr ⟨rfl, .titled ⟨label, destination, none⟩ (unescape (raw ++ body)) rfl pending rfl rfl
      rfl⟩

/-- A line is read quietly, or quietly up to its last move, which commits. -/
theorem Reading.quiet_or_commits (h : p.Coherent) (reading : Reading line p t q) :
    Quiet p q ∨ ∃ m, Quiet p m ∧ Commits m q := by
  induction reading with
  | finished p => exact .inl (.refl p)
  | demoted nonempty stuck => exact .inl ⟨rfl, .inl ⟨rfl, rfl⟩⟩
  | @moved p m q t u nonempty move rest ih =>
    rcases move.quiet_or_commits h with quiet | ⟨rfl, commits⟩
    · rcases ih (move.coherent h) with others | ⟨n, others, commits⟩
      · exact .inl (quiet.trans others)
      · exact .inr ⟨n, quiet.trans others, commits⟩
    · rw [rest.eq_of_nil]
      exact .inr ⟨p, .refl p, commits⟩

/-- A reading that ends in a paragraph leaves the definitions and the lines alone. -/
theorem Reading.quiet_of_paragraph (h : p.Coherent) (reading : Reading line p t q)
    (begins : p.stage ≠ .paragraph) (ends : q.stage = .paragraph) : Quiet p q := by
  induction reading with
  | finished p => exact absurd ends begins
  | demoted nonempty stuck => exact ⟨rfl, .inl ⟨rfl, rfl⟩⟩
  | @moved p m q t u nonempty move rest ih =>
    rcases move.quiet_or_commits h with quiet | ⟨rfl, -⟩
    · exact quiet.trans (ih (move.coherent h) move.ne_paragraph.2 ends)
    · rw [rest.eq_of_nil] at ends
      exact absurd ends move.ne_paragraph.2

/-- A definition has just been completed: it is pending, or it has its title. -/
inductive Complete (p : Parser) : Prop
  | drafted (d : Draft) (stage : p.stage = .startTitle d.label d.destination)
      (pending : p.pending = some d)
  | titled (stage : p.stage = .startDefinition) (pending : p.pending = none)

theorem Complete.stage_of_pending (complete : Complete p) (pending : p.pending = some d) :
    p.stage = .startTitle d.label d.destination := by
  cases complete with
  | drafted e stage pending' =>
    obtain rfl := Option.some.inj (pending.symm.trans pending')
    exact stage
  | titled stage none =>
    rw [none] at pending
    cases pending

theorem Complete.stage_of_idle (complete : Complete p) (idle : p.pending = none) :
    p.stage = .startDefinition := by
  cases complete with
  | drafted d stage pending =>
    rw [pending] at idle
    cases idle
  | titled stage none => exact stage

/-- A reading that takes the lines away completes a definition. -/
theorem Reading.complete (h : p.Coherent) (reading : Reading line p t q)
    (before : p.remaining ≠ []) (after : q.remaining = []) : Complete q := by
  induction reading with
  | finished p => exact absurd after before
  | demoted nonempty stuck => exact absurd after before
  | moved nonempty move rest ih =>
    have coherent := move.coherent h
    cases move with
    | @endDestination label b w v trail stage blank whole trail_blank =>
      rw [rest.eq_of_nil]
      exact .drafted ⟨label, v, none⟩ rfl rfl
    | skipTitle stage blank solid other settled =>
      rw [h.finalize_eq] at settled
      obtain rfl := Except.ok.inj settled
      exact ih coherent before after
    | closeTitle stage encloses blank settled =>
      rw [rest.eq_of_nil]
      exact .titled rfl coherent
    | _ => exact ih coherent before after

/-- A line after which no line is left completes a definition. -/
theorem Coherent.complete_call_feed (h : p.Coherent)
    (after : (p.call (.feed line)).remaining = []) : Complete (p.call (.feed line)) := by
  obtain ⟨q, fed, -, ⟨-, rfl⟩ | ⟨-, reading⟩⟩ := h.feed_cases line
  · rw [call_feed fed] at after
    simp at after
  · rw [call_feed fed] at after ⊢
    have kept : (p.keep line).Coherent := h
    exact reading.complete kept (by simp) after

/-- What feeding a line does: quiet moves, and possibly a commit after them. -/
theorem Coherent.feed_quiet_or_commits (h : p.Coherent) (line : Text) :
    ∃ q, p.feed line = ⟨q, none⟩ ∧ q.Coherent ∧
      (Quiet (p.keep line) q ∨ ∃ m, Quiet (p.keep line) m ∧ Commits m q) := by
  obtain ⟨q, fed, coherent, ⟨-, rfl⟩ | ⟨-, reading⟩⟩ := h.feed_cases line
  · exact ⟨_, fed, coherent, .inl (.refl _)⟩
  · have kept : (p.keep line).Coherent := h
    exact ⟨q, fed, coherent, reading.quiet_or_commits kept⟩

/-! ### One line -/

/-- The line is kept and the definitions stay. -/
def Keeps (p : Parser) (line : Text) (q : Parser) (old new : List Definition) : Prop :=
  new = old ∧ q.remaining = p.remaining ++ [line]

/-- No line is left, and there is one more definition. -/
def Adds (q : Parser) (old new : List Definition) : Prop :=
  q.remaining = [] ∧ ∃ d, new = old ++ [d]

/-- No line is left, and the last definition, which was pending without a title, has got one. -/
def Retitles (p q : Parser) (old new : List Definition) : Prop :=
  q.remaining = [] ∧ ∃ d ds title, p.pending = some d ∧ d.title = none ∧
    old = ds ++ [d.resolved] ∧ new = ds ++ [d.resolved.withTitle title]

theorem Commits.adds_or_retitles (commits : Commits p q) :
    Adds q p.committed q.committed ∨ Retitles p q p.committed q.committed := by
  cases commits with
  | drafted d untitled before finalized pending remaining =>
    refine .inl ⟨remaining, d.resolved, ?_⟩
    rw [committed_of_pending_eq_some pending, finalized, committed_of_pending_eq_none before]
  | titled d title untitled before finalized pending remaining =>
    cases eq : p.pending with
    | none =>
      refine .inl ⟨remaining, d.resolved.withTitle title, ?_⟩
      rw [committed_of_pending_eq_none pending, finalized, committed_of_pending_eq_none eq]
    | some e =>
      obtain rfl := before e eq
      refine .inr ⟨remaining, e, p.finalized, title, eq, untitled, ?_, ?_⟩
      · exact committed_of_pending_eq_some eq
      · rw [committed_of_pending_eq_none pending, finalized]

theorem Coherent.feed_outcome (h : p.Coherent) (line : Text) :
    ∃ q, p.feed line = ⟨q, none⟩ ∧ q.Coherent ∧
      (Keeps p line q p.committed q.committed ∨ Adds q p.committed q.committed ∨
        Retitles p q p.committed q.committed) := by
  obtain ⟨q, fed, coherent, quiet | ⟨m, quiet, commits⟩⟩ := h.feed_quiet_or_commits line
  · exact ⟨q, fed, coherent, .inl ⟨quiet.committed, quiet.remaining⟩⟩
  · refine ⟨q, fed, coherent, .inr ?_⟩
    have same : m.committed = p.committed := quiet.committed
    rcases commits.adds_or_retitles with adds | ⟨remaining, d, ds, title, pending, rest⟩
    · rw [same] at adds
      exact .inl adds
    · rw [same] at rest
      exact .inr ⟨remaining, d, ds, title, quiet.pending pending, rest⟩

theorem Keeps.not_adds (keeps : Keeps p line q old new) : ¬ Adds q old new := by
  rintro ⟨-, d, longer⟩
  have := congrArg List.length (keeps.1.symm.trans longer)
  simp at this

theorem Keeps.not_retitles (keeps : Keeps p line q old new) : ¬ Retitles p q old new := by
  rintro ⟨empty, -⟩
  have := keeps.2
  rw [empty] at this
  simp at this

theorem Adds.not_retitles (adds : Adds q old new) : ¬ Retitles p q old new := by
  obtain ⟨-, d, longer⟩ := adds
  rintro ⟨-, e, ds, title, -, -, rfl, same⟩
  have := congrArg List.length (longer.symm.trans same)
  simp at this

/-! ### Histories -/

/-- The lines left are a final part of the lines fed, and all of them while there is no
definition. -/
theorem remaining_after (limit : Nat) (calls : List Call) :
    ((fresh limit).after calls).remaining <:+ fedLines calls ∧
      (((fresh limit).after calls).remaining = fedLines calls ↔
        ((fresh limit).after calls).committed = []) := by
  induction calls using List.reverseRecOn with
  | nil => exact ⟨List.suffix_rfl, iff_of_true rfl rfl⟩
  | append_singleton calls c ih =>
    have coherent := coherent_after limit calls
    rw [after_concat, fedLines_append]
    generalize (fresh limit).after calls = p at ih coherent ⊢
    obtain ⟨suffix, all⟩ := ih
    cases c with
    | harvest =>
      rw [coherent.call_harvest]
      simpa [fedLines] using ⟨suffix, all⟩
    | feed line =>
      obtain ⟨q, fed, -, outcome⟩ := coherent.feed_outcome line
      rw [call_feed fed]
      simp only [fedLines, List.filterMap_cons, List.filterMap_nil] at suffix all ⊢
      rcases outcome with ⟨same, remaining⟩ | ⟨remaining, d, more⟩ |
        ⟨remaining, d, ds, title, -, -, -, more⟩
      · rw [remaining, same, List.append_left_inj]
        exact ⟨List.suffix_append_self_iff.2 suffix, all⟩
      · simp [remaining, more]
      · simp [remaining, more]

/-- What may have become of the finalized definitions and the draft of a parser later on. -/
inductive Grows (p q : Parser) : Prop
  | same (finalized : q.finalized = p.finalized) (pending : q.pending = p.pending)
  | settled (kept : p.committed <+: q.finalized)
  | titled (d : Draft) (title : Text) (pending : p.pending = some d) (untitled : d.title = none)
      (kept : p.finalized ++ [d.resolved.withTitle title] <+: q.finalized)

theorem Grows.keep (grows : Grows p q) (line : Text) : Grows p (q.keep line) := by
  cases grows with
  | same finalized pending => exact .same finalized pending
  | settled kept => exact .settled kept
  | titled d title pending untitled kept => exact .titled d title pending untitled kept

theorem Grows.quiet (grows : Grows p q) (quiet : Quiet q r) : Grows p r := by
  have longer : q.finalized <+: r.finalized := by
    rcases quiet.ledger with ⟨finalized, -⟩ | ⟨finalized, -⟩
    · rw [finalized]
    · rw [finalized]
      exact List.prefix_append _ _
  cases grows with
  | same finalized pending =>
    rcases quiet.ledger with ⟨finalized', pending'⟩ | ⟨finalized', -⟩
    · exact .same (finalized'.trans finalized) (pending'.trans pending)
    · refine .settled ?_
      rw [finalized', committed, committed, finalized, pending]
  | settled kept => exact .settled (kept.trans longer)
  | titled d title pending untitled kept =>
    exact .titled d title pending untitled (kept.trans longer)

theorem Grows.commits (grows : Grows p q) (commits : Commits q r) : Grows p r := by
  have longer : q.finalized <+: r.finalized := by
    cases commits with
    | drafted d untitled before finalized pending remaining =>
      rw [finalized]
    | titled d title untitled before finalized pending remaining =>
      rw [finalized]
      exact List.prefix_append _ _
  cases grows with
  | same finalized pending =>
    cases eq : p.pending with
    | none =>
      refine .settled ?_
      rw [committed_of_pending_eq_none eq, ← finalized]
      exact longer
    | some e =>
      cases commits with
      | drafted d untitled before =>
        rw [pending, eq] at before
        cases before
      | titled d title untitled before finalized' pending' remaining =>
        obtain rfl := before e (pending.trans eq)
        refine .titled e title eq untitled ?_
        rw [finalized', finalized]
  | settled kept => exact .settled (kept.trans longer)
  | titled d title pending untitled kept =>
    exact .titled d title pending untitled (kept.trans longer)

theorem Coherent.grows_after (h : p.Coherent) (calls : List Call) : Grows p (p.after calls) := by
  induction calls using List.reverseRecOn with
  | nil => exact .same rfl rfl
  | append_singleton calls c ih =>
    have coherent := h.after calls
    rw [after_concat]
    generalize p.after calls = q at ih coherent ⊢
    cases c with
    | harvest =>
      rw [coherent.call_harvest]
      exact ih.quiet ⟨rfl, .inr ⟨rfl, rfl⟩⟩
    | feed line =>
      obtain ⟨r, fed, -, outcome⟩ := coherent.feed_quiet_or_commits line
      rw [call_feed fed]
      rcases outcome with quiet | ⟨m, quiet, commits⟩
      · exact (ih.keep line).quiet quiet
      · exact ((ih.keep line).quiet quiet).commits commits

/-- What is finalized stays. -/
theorem Grows.finalized_kept (grows : Grows p q) : p.finalized <+: q.finalized := by
  cases grows with
  | same finalized pending => rw [finalized]
  | settled kept => exact (List.prefix_append _ _).trans kept
  | titled d title pending untitled kept => exact (List.prefix_append _ _).trans kept

/-- The old definitions are still there, in order and before any other, but for a title that the
pending one among them may have got. -/
def Preserves (p : Parser) (old new : List Definition) : Prop :=
  old <+: new ∨ ∃ d ds title, p.pending = some d ∧ d.title = none ∧ old = ds ++ [d.resolved] ∧
    ds ++ [d.resolved.withTitle title] <+: new

theorem Grows.preserves (grows : Grows p q) : Preserves p p.committed q.committed := by
  have longer : q.finalized <+: q.committed := List.prefix_append _ _
  cases grows with
  | same finalized pending =>
    refine .inl ?_
    rw [committed, committed, finalized, pending]
  | settled kept => exact .inl (kept.trans longer)
  | titled d title pending untitled kept =>
    exact .inr ⟨d, p.finalized, title, pending, untitled, committed_of_pending_eq_some pending,
      kept.trans longer⟩

/-- A definition that has come or has got its title is not undone by what is called later. -/
theorem ne_committed_after (coherent : q.Coherent)
    (commits : Adds q old q.committed ∨ Retitles p q old q.committed) (calls : List Call) :
    (q.after calls).committed ≠ old := by
  intro same
  have preserves := (coherent.grows_after calls).preserves
  rw [same] at preserves
  rcases commits with ⟨-, d, more⟩ | ⟨-, d, ds, title, -, untitled, rfl, titled⟩
  -- There is one definition more, and the number never decreases.
  · rcases preserves with whole | ⟨e, ds, title, -, -, last, whole⟩
    · have := whole.length_le
      rw [more, List.length_append, List.length_singleton] at this
      omega
    · have := whole.length_le
      have longer := congrArg List.length (more.symm.trans last)
      simp only [List.length_append, List.length_singleton] at this longer
      omega
  -- The last definition has a title, and a title is never taken back.
  · rcases preserves with whole | ⟨e, es, title', -, untitled', last, -⟩
    · have equal := whole.eq_of_length (by simp [titled])
      rw [titled, List.append_cancel_left_eq, List.singleton_inj] at equal
      have := congrArg Definition.title equal
      simp [Definition.withTitle, Draft.resolved, untitled] at this
    · obtain ⟨-, equal⟩ := List.append_inj' (titled.symm.trans last) rfl
      have := congrArg Definition.title (List.singleton_inj.1 equal)
      simp [Definition.withTitle, Draft.resolved, untitled'] at this

/-- A line is kept if the definitions stay, and otherwise no line is left. -/
theorem Coherent.remaining_call_feed (h : p.Coherent) (line : Text) :
    (p.call (.feed line)).remaining =
      if (p.call (.feed line)).committed = p.committed then p.remaining ++ [line] else [] := by
  obtain ⟨q, fed, coherent, outcome⟩ := h.feed_outcome line
  rw [call_feed fed]
  rcases outcome with keeps | commits
  · rw [if_pos keeps.1, keeps.2]
  · have other : q.committed ≠ p.committed := ne_committed_after coherent commits []
    rw [if_neg other]
    rcases commits with adds | retitles
    · exact adds.1
    · exact retitles.1

/-- The lines left are the same after a line if it changes the definitions of both or of none. -/
theorem Coherent.remaining_feed_congr (h : p.Coherent) (h' : p'.Coherent)
    (same : p'.remaining = p.remaining)
    (both : (p'.call (.feed line)).committed = p'.committed ↔
      (p.call (.feed line)).committed = p.committed) :
    (p'.call (.feed line)).remaining = (p.call (.feed line)).remaining := by
  rw [h.remaining_call_feed, h'.remaining_call_feed, same]
  exact if_congr both rfl rfl

theorem Coherent.committed_length_le (h : p.Coherent) (calls : List Call) :
    p.committed.length ≤ (p.after calls).committed.length := by
  rcases (h.grows_after calls).preserves with whole | ⟨d, ds, title, -, -, last, whole⟩
  · exact whole.length_le
  · have := whole.length_le
    rw [last]
    simpa using this

/-- Lines after which the definitions are the same have all been kept. -/
theorem Coherent.remaining_of_committed_eq (h : p.Coherent) (lines : List Text)
    (same : (p.after (lines.map .feed)).committed = p.committed) :
    (p.after (lines.map .feed)).remaining = p.remaining ++ lines := by
  induction lines generalizing p with
  | nil => exact (List.append_nil _).symm
  | cons line lines ih =>
    obtain ⟨q, fed, coherent, outcome⟩ := h.feed_outcome line
    rw [List.map_cons, after_cons, call_feed fed] at same ⊢
    rcases outcome with keeps | commits
    · rw [← keeps.1] at same
      rw [ih coherent same, keeps.2, List.append_assoc, List.singleton_append]
    · exact absurd same (ne_committed_after coherent commits _)

/-- **The law of lines and definitions.** After any history a line is kept, completes one more
definition or gives the pending one its title, and only one of these. The lines left are a final
part of those fed, lines have been taken exactly if there are definitions, and whatever is called
later leaves the definitions as they are, but for the title of a pending one. -/
theorem feed_accounts (limit : Nat) (calls : List Call) :
    let p := (fresh limit).after calls
    ∃ old p', p.harvest = .ok (old, p') ∧
      (∀ line, ∃ q new q', p.feed line = ⟨q, none⟩ ∧ q.harvest = .ok (new, q') ∧
        (Keeps p line q old new ∨ Adds q old new ∨ Retitles p q old new) ∧
        ¬ (Keeps p line q old new ∧ Adds q old new) ∧
        ¬ (Keeps p line q old new ∧ Retitles p q old new) ∧
        ¬ (Adds q old new ∧ Retitles p q old new)) ∧
      p.remaining <:+ fedLines calls ∧ (p.remaining ≠ fedLines calls ↔ old ≠ []) ∧
      ∀ more, ∃ new q', (p.after more).harvest = .ok (new, q') ∧ Preserves p old new := by
  intro p
  have coherent : p.Coherent := coherent_after limit calls
  obtain ⟨suffix, all⟩ := remaining_after limit calls
  refine ⟨p.committed, p.settled, coherent.harvest_eq, fun line => ?_, suffix, not_congr all,
    fun more => ?_⟩
  · obtain ⟨q, fed, fed_coherent, outcome⟩ := coherent.feed_outcome line
    exact ⟨q, q.committed, q.settled, fed, fed_coherent.harvest_eq, outcome,
      fun both => both.1.not_adds both.2, fun both => both.1.not_retitles both.2,
      fun both => both.1.not_retitles both.2⟩
  · exact ⟨_, _, (coherent.after more).harvest_eq, (coherent.grows_after more).preserves⟩

end Parser

end LinkDefinitions
