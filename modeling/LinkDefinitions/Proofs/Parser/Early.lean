import LinkDefinitions.Proofs.Parser.Alike

/-!
# A draft that is settled early

Since whether a parser can move depends on its limit and its stage alone, a parser whose draft has
been settled before its time (`Early`) goes the same way as one in which the draft is still pending.
They meet again (`Meets`) where the draft would be settled anyway, with the same definitions, or
where its title is completed: then the early one has one definition more, the draft without its
title.
-/

namespace LinkDefinitions

namespace Parser

variable {p p' q q' : Parser} {line t u : Text} {d : Draft} {ds ds' : List Definition}

/-! ### Two parsers, one of them early -/

/-- The parsers are at the same place, with the draft `d` pending in the first and settled in the
second. -/
structure Early (d : Draft) (ds ds' : List Definition) (p p' : Parser) : Prop where
  labelLimit : p'.labelLimit = p.labelLimit
  stage : p'.stage = p.stage
  pending : p.pending = some d
  pending_early : p'.pending = none
  finalized : p.finalized = ds
  finalized_early : p'.finalized = ds' ++ [d.resolved]

/-- What becomes of an early parser and the other one: the draft is still waiting, or it has been
settled in both, or a title has come which only the other one adds to it. -/
inductive Meets (d : Draft) (ds ds' : List Definition) (p p' : Parser) : Prop
  | waiting (early : Early d ds ds' p p')
  | untitled (alike : Alike (ds ++ [d.resolved]) (ds' ++ [d.resolved]) p p')
  | titled (title : Text) (alike : Alike (ds ++ [d.resolved.withTitle title])
      (ds' ++ [d.resolved, d.resolved.withTitle title]) p p')

theorem Early.keep (early : Early d ds ds' p p') (line line' : Text) :
    Early d ds ds' (p.keep line) (p'.keep line') :=
  ⟨early.labelLimit, early.stage, early.pending, early.pending_early, early.finalized,
    early.finalized_early⟩

theorem Early.goto (early : Early d ds ds' p p') (stage : Stage) :
    Early d ds ds' (p.goto stage) (p'.goto stage) :=
  ⟨early.labelLimit, rfl, early.pending, early.pending_early, early.finalized,
    early.finalized_early⟩

theorem Early.coherent (early : Early d ds ds' p p') (h : p.Coherent) : p'.Coherent := by
  have settled := h.settled
  unfold Coherent at settled ⊢
  rw [early.stage, early.pending_early]
  exact settled

theorem Early.committed (early : Early d ds ds' p p') :
    p.committed = ds ++ [d.resolved] ∧ p'.committed = ds' ++ [d.resolved] := by
  constructor
  · rw [committed_of_pending_eq_some early.pending, early.finalized]
  · rw [committed_of_pending_eq_none early.pending_early, early.finalized_early]

theorem Move.simulate_early (early : Early d ds ds' p p') (h : p.Coherent)
    (move : p.Move t q u) : ∃ q', p'.Move t q' u ∧ Meets d ds ds' q q' := by
  have same := early.stage
  have pending := early.pending
  have h' := early.coherent h
  cases move with
  -- A draft is pending only after the destination.
  | openLabel stage | extendLabel stage | closeLabel stage =>
    have free : p.pending = none := h.allows stage
    rw [free] at pending
    cases pending
  | endDestination stage | passDestination stage =>
    have free : p.pending = none := (h.allows stage).2
    rw [free] at pending
    cases pending
  | openTitle stage blank paired =>
    exact ⟨_, .openTitle (same.trans stage) blank paired, .waiting (early.goto _)⟩
  | extendTitle stage clear =>
    exact ⟨_, .extendTitle (same.trans stage) clear, .waiting (early.goto _)⟩
  | skipTitle stage blank solid other settled =>
    rw [h.finalize_eq] at settled
    obtain rfl := Except.ok.inj settled
    refine ⟨_, .skipTitle (same.trans stage) blank solid other h'.finalize_eq, .untitled ?_⟩
    refine ⟨early.labelLimit, rfl, rfl, [], ?_, ?_⟩
    · simpa using early.committed.1
    · simpa using early.committed.2
  | @closeTitle label destination raw body trail closing r stage encloses blank settled =>
    obtain ⟨key, drafts⟩ := h.allows stage
    obtain rfl := drafts d pending
    rw [Parser.finalize_eq (by simpa using key)] at settled
    obtain rfl := Except.ok.inj settled
    refine ⟨_, .closeTitle (same.trans stage) encloses blank
      (Parser.finalize_eq (by simpa using key)), .titled (unescape (raw ++ body)) ?_⟩
    refine ⟨early.labelLimit, rfl, rfl, [], ?_, ?_⟩
    · simp [Parser.committed, early.finalized, Draft.resolved, Definition.withTitle]
    · simp [Parser.committed, early.finalized_early, Draft.resolved, Definition.withTitle]

theorem Reading.simulate_early (early : Early d ds ds' p p') (h : p.Coherent)
    (reading : Reading line p t q) :
    ∃ q', Reading line p' t q' ∧ Meets d ds ds' q q' := by
  induction reading generalizing p' with
  | finished p => exact ⟨p', .finished p', .waiting early⟩
  | demoted nonempty stuck =>
    have stuck' := h.stuck_of_stuck (early.coherent h) early.labelLimit early.stage stuck
    exact ⟨_, .demoted nonempty stuck', .waiting ⟨early.labelLimit, rfl, early.pending,
      early.pending_early, early.finalized, early.finalized_early⟩⟩
  | moved nonempty move rest ih =>
    have coherent := move.coherent h
    obtain ⟨m, move', meets⟩ := move.simulate_early early h
    cases meets with
    | waiting early =>
      obtain ⟨r, rest', meets⟩ := ih early coherent
      exact ⟨r, .moved nonempty move' rest', meets⟩
    | untitled alike =>
      obtain ⟨r, rest', alike⟩ := rest.simulate alike coherent line
      exact ⟨r, .moved nonempty move' rest', .untitled alike⟩
    | titled title alike =>
      obtain ⟨r, rest', alike⟩ := rest.simulate alike coherent line
      exact ⟨r, .moved nonempty move' rest', .titled title alike⟩

/-- A line leads an early parser and the other one to the same place. -/
theorem Early.feed (early : Early d ds ds' p p') (h : p.Coherent) (line : Text) :
    Meets d ds ds' (p.call (.feed line)) (p'.call (.feed line)) := by
  have same := early.stage
  obtain ⟨q, fed, -, ⟨paragraph, rfl⟩ | ⟨goes_on, reading⟩⟩ := h.feed_cases line
  · obtain ⟨q', fed', -, ⟨-, rfl⟩ | ⟨goes_on, -⟩⟩ := (early.coherent h).feed_cases line
    · rw [call_feed fed, call_feed fed']
      exact .waiting (early.keep line line)
    · exact absurd (same.trans paragraph) goes_on
  · obtain ⟨q', fed', -, ⟨paragraph, -⟩ | ⟨-, reading'⟩⟩ := (early.coherent h).feed_cases line
    · exact absurd (same.symm.trans paragraph) goes_on
    · have kept : (p.keep line).Coherent := h
      obtain ⟨m, reading'', meets⟩ := reading.simulate_early (early.keep line line) kept
      rw [call_feed fed, call_feed fed', reading'.unique reading'']
      exact meets

theorem Early.remaining_feed (early : Early d ds ds' p p') (h : p.Coherent)
    (same : p'.remaining = p.remaining) (line : Text) :
    (p'.call (.feed line)).remaining = (p.call (.feed line)).remaining := by
  obtain ⟨eq, eq'⟩ := early.committed
  have untitled := (h.pending_untitled early.pending).2
  refine h.remaining_feed_congr (early.coherent h) same ?_
  rw [eq, eq']
  cases early.feed h line with
  | waiting early =>
    obtain ⟨new, new'⟩ := early.committed
    exact iff_of_true new' new
  | untitled alike =>
    obtain ⟨more, new, new'⟩ := alike.exists_committed
    rw [new, new', List.append_right_eq_self, List.append_right_eq_self]
  | titled title alike =>
    obtain ⟨more, new, new'⟩ := alike.exists_committed
    refine iff_of_false (fun kept => ?_) (fun kept => ?_)
    · have := congrArg List.length (new'.symm.trans kept)
      simp at this
    · have := new.symm.trans kept
      simp [Definition.withTitle, Draft.resolved, untitled] at this

end Parser

end LinkDefinitions
