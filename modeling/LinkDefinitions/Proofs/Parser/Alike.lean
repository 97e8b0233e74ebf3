import LinkDefinitions.Proofs.Lines
import LinkDefinitions.Proofs.Parser.Accounting

/-!
# What the way of a parser depends on

A parser goes its way by its limit, its stage and its draft, and whether it can move at all depends
on the first two (`Move.transfer`). The definitions found before, the lines left and the notices
have no part in it: parsers that are alike in the former (`Alike`) make the same moves
(`Move.simulate`), are alike at the end of a line (`Reading.simulate`), find the same definitions
and leave the same lines (`Alike.remaining_feed`). Hence empty lines change nothing but the lines
left (`alike_after_filled`).
-/

namespace LinkDefinitions

namespace Parser

variable {p p' q r : Parser} {line t u : Text} {ds ds' : List Definition} {stage : Stage}
  {pending : Option Draft}

/-! ### The same moves in another parser -/

/-- Coherent parsers with the same limit and stage can make the same moves. -/
theorem Move.transfer (h' : p'.Coherent) (limit : p'.labelLimit = p.labelLimit)
    (same : p'.stage = p.stage) (move : p.Move t q u) : ∃ q', p'.Move t q' u := by
  cases move with
  | openLabel stage blank => exact ⟨_, .openLabel (same.trans stage) blank⟩
  | extendLabel stage clear => exact ⟨_, .extendLabel (same.trans stage) clear⟩
  | closeLabel stage encloses blank solid short key =>
    exact ⟨_, .closeLabel (same.trans stage) encloses blank solid (limit ▸ short) key⟩
  | endDestination stage blank whole trail_blank =>
    exact ⟨_, .endDestination (same.trans stage) blank whole trail_blank⟩
  | passDestination stage blank whole space_blank space_ne solid u_ne =>
    exact ⟨_, .passDestination (same.trans stage) blank whole space_blank space_ne solid u_ne⟩
  | openTitle stage blank paired => exact ⟨_, .openTitle (same.trans stage) blank paired⟩
  | skipTitle stage blank solid other settled =>
    exact ⟨_, .skipTitle (same.trans stage) blank solid other h'.finalize_eq⟩
  | extendTitle stage clear => exact ⟨_, .extendTitle (same.trans stage) clear⟩
  | closeTitle stage encloses blank settled =>
    have key := (h'.allows (same.trans stage)).1
    exact ⟨_, .closeTitle (same.trans stage) encloses blank
      (Parser.finalize_eq (by simpa using key))⟩

theorem Coherent.stuck_of_stuck (h : p.Coherent) (h' : p'.Coherent)
    (limit : p'.labelLimit = p.labelLimit) (same : p'.stage = p.stage)
    (stuck : p.step t = .ok none) : p'.step t = .ok none := by
  refine h'.stuck_of_not_move (same ▸ ne_paragraph_of_stuck stuck) fun q u move => ?_
  obtain ⟨q', move'⟩ := move.transfer h limit.symm same.symm
  exact move'.not_stuck stuck

/-! ### Parsers that are alike -/

/-- The two parsers have the same limit, stage and draft, and have found the same definitions, one
of them after `ds` and the other after `ds'`. -/
structure Alike (ds ds' : List Definition) (p p' : Parser) : Prop where
  labelLimit : p'.labelLimit = p.labelLimit
  stage : p'.stage = p.stage
  pending : p'.pending = p.pending
  finalized : ∃ found, p.finalized = ds ++ found ∧ p'.finalized = ds' ++ found

theorem Alike.refl (p : Parser) : Alike [] [] p p := ⟨rfl, rfl, rfl, p.finalized, rfl, rfl⟩

theorem Alike.goto (alike : Alike ds ds' p p') (stage : Stage) :
    Alike ds ds' (p.goto stage) (p'.goto stage) :=
  ⟨alike.labelLimit, rfl, alike.pending, alike.finalized⟩

theorem Alike.keep (alike : Alike ds ds' p p') (line line' : Text) :
    Alike ds ds' (p.keep line) (p'.keep line') :=
  ⟨alike.labelLimit, alike.stage, alike.pending, alike.finalized⟩

theorem Alike.committed (alike : Alike [] [] p p') : p'.committed = p.committed := by
  obtain ⟨-, -, pending, found, eq, eq'⟩ := alike
  rw [Parser.committed, Parser.committed, pending, eq, eq']

theorem Alike.exists_committed (alike : Alike ds ds' p p') :
    ∃ found, p.committed = ds ++ found ∧ p'.committed = ds' ++ found := by
  obtain ⟨-, -, pending, found, eq, eq'⟩ := alike
  refine ⟨found ++ (p.pending.map Draft.resolved).toList, ?_, ?_⟩
  · rw [Parser.committed, eq, List.append_assoc]
  · rw [Parser.committed, eq', pending, List.append_assoc]

theorem Alike.coherent (alike : Alike ds ds' p p') (h : p.Coherent) : p'.Coherent := by
  unfold Coherent
  rw [alike.stage, alike.pending]
  exact h

theorem Alike.finalize (alike : Alike ds ds' p p') (h : p.finalize = .ok q) :
    ∃ q', p'.finalize = .ok q' ∧ Alike ds ds' q q' := by
  obtain ⟨limit, stage, pending, found, eq, eq'⟩ := alike
  unfold Parser.finalize at h ⊢
  rw [pending]
  cases draft : p.pending with
  | none =>
    rw [draft] at h
    obtain rfl := Except.ok.inj h
    exact ⟨p', rfl, limit, stage, pending, found, eq, eq'⟩
  | some d =>
    rw [draft] at h
    dsimp only at h ⊢
    cases result : d.definition with
    | error fault =>
      rw [result] at h
      cases h
    | ok definition =>
      rw [result] at h
      obtain rfl := Except.ok.inj h
      refine ⟨_, rfl, limit, stage, rfl, found ++ [definition], ?_, ?_⟩
      · rw [← List.append_assoc, ← eq]
      · rw [← List.append_assoc, ← eq']

/-- Alike parsers make the same moves. -/
theorem Move.simulate (alike : Alike ds ds' p p') (move : p.Move t q u) :
    ∃ q', p'.Move t q' u ∧ Alike ds ds' q q' := by
  have same := alike.stage
  have limit := alike.labelLimit
  cases move with
  | openLabel stage blank => exact ⟨_, .openLabel (same.trans stage) blank, alike.goto _⟩
  | extendLabel stage clear => exact ⟨_, .extendLabel (same.trans stage) clear, alike.goto _⟩
  | closeLabel stage encloses blank solid short key =>
    exact ⟨_, .closeLabel (same.trans stage) encloses blank solid (limit ▸ short) key, alike.goto _⟩
  | endDestination stage blank whole trail_blank =>
    exact ⟨_, .endDestination (same.trans stage) blank whole trail_blank,
      limit, rfl, rfl, alike.finalized⟩
  | passDestination stage blank whole space_blank space_ne solid u_ne =>
    exact ⟨_, .passDestination (same.trans stage) blank whole space_blank space_ne solid u_ne,
      alike.goto _⟩
  | openTitle stage blank paired =>
    exact ⟨_, .openTitle (same.trans stage) blank paired, alike.goto _⟩
  | skipTitle stage blank solid other settled =>
    obtain ⟨r', settled', alike'⟩ := alike.finalize settled
    exact ⟨_, .skipTitle (same.trans stage) blank solid other settled', alike'.goto _⟩
  | extendTitle stage clear => exact ⟨_, .extendTitle (same.trans stage) clear, alike.goto _⟩
  | @closeTitle label destination raw body _ _ _ stage encloses blank settled =>
    have drafts : Alike ds ds' { p with pending := some ⟨label, destination, some (raw ++ body)⟩ }
        { p' with pending := some ⟨label, destination, some (raw ++ body)⟩ } :=
      ⟨limit, same, rfl, alike.finalized⟩
    obtain ⟨r', settled', alike'⟩ := drafts.finalize settled
    exact ⟨_, .closeTitle (same.trans stage) encloses blank settled',
      alike'.labelLimit, rfl, alike'.pending, alike'.finalized⟩

/-- Alike parsers are alike at the end of a line. -/
theorem Reading.simulate (alike : Alike ds ds' p p') (coherent : p.Coherent)
    (reading : Reading line p t q) (line' : Text) :
    ∃ q', Reading line' p' t q' ∧ Alike ds ds' q q' := by
  induction reading generalizing p' with
  | finished p => exact ⟨p', .finished p', alike⟩
  | @demoted p t nonempty stuck =>
    have stuck' :=
      coherent.stuck_of_stuck (alike.coherent coherent) alike.labelLimit alike.stage stuck
    exact ⟨_, .demoted nonempty stuck', alike.labelLimit, rfl, alike.pending, alike.finalized⟩
  | moved nonempty move rest ih =>
    obtain ⟨q', move', alike'⟩ := move.simulate alike
    obtain ⟨r', rest', alike'⟩ := ih alike' (move.coherent coherent)
    exact ⟨r', .moved nonempty move' rest', alike'⟩

theorem Reading.unique (first : Reading line p t q) (second : Reading line p t r) : q = r :=
  Except.ok.inj ((read_of_reading first).symm.trans (read_of_reading second))

/-- Alike parsers are alike after the same line. -/
theorem Alike.feed (alike : Alike ds ds' p p') (h : p.Coherent) (line : Text) :
    Alike ds ds' (p.call (.feed line)) (p'.call (.feed line)) := by
  obtain ⟨q, fed, -, ⟨paragraph, rfl⟩ | ⟨goes_on, reading⟩⟩ := h.feed_cases line
  · obtain ⟨q', fed', -, ⟨-, rfl⟩ | ⟨goes_on', -⟩⟩ := (alike.coherent h).feed_cases line
    · rw [call_feed fed, call_feed fed']
      exact alike.keep line line
    · exact absurd (alike.stage.trans paragraph) goes_on'
  · obtain ⟨q', fed', -, ⟨paragraph, -⟩ | ⟨-, reading'⟩⟩ := (alike.coherent h).feed_cases line
    · exact absurd (alike.stage.symm.trans paragraph) goes_on
    · have kept : (p.keep line).Coherent := h
      obtain ⟨q'', reading'', alike'⟩ := reading.simulate (alike.keep line line) kept line
      rw [call_feed fed, call_feed fed', reading'.unique reading'']
      exact alike'

theorem Alike.remaining_feed (alike : Alike ds ds' p p') (h : p.Coherent)
    (same : p'.remaining = p.remaining) (line : Text) :
    (p'.call (.feed line)).remaining = (p.call (.feed line)).remaining := by
  obtain ⟨found, eq, eq'⟩ := alike.exists_committed
  obtain ⟨more, new, new'⟩ := (alike.feed h line).exists_committed
  refine h.remaining_feed_congr (alike.coherent h) same ?_
  rw [eq, eq', new, new', List.append_cancel_left_eq, List.append_cancel_left_eq]

/-- An empty line is only kept. -/
theorem call_feed_nil (p : Parser) : p.call (.feed []) = p.keep [] := by
  show (p.feed []).parser = p.keep []
  unfold feed
  dsimp only
  rw [read_nil]
  split <;> rfl

/-- Empty lines change nothing but the lines left. -/
theorem alike_after_filled (alike : Alike ds ds' p p') (h : p.Coherent) (lines : List Text) :
    Alike ds ds' (p.after (lines.map .feed)) (p'.after ((filled lines).map .feed)) := by
  induction lines generalizing p p' with
  | nil => exact alike
  | cons line lines ih =>
    by_cases empty : line = []
    · subst empty
      have kept : Alike ds ds' (p.call (.feed [])) p' := by
        rw [call_feed_nil]
        exact ⟨alike.labelLimit, alike.stage, alike.pending, alike.finalized⟩
      exact ih kept (h.call _)
    · have whole : filled (line :: lines) = line :: filled lines := by simp [filled, empty]
      rw [whole]
      exact ih (alike.feed h line) (h.call _)

/-! ### The limit -/

theorem finalize_labelLimit (h : p.finalize = .ok q) : q.labelLimit = p.labelLimit := by
  unfold finalize at h
  split at h
  · cases h
    rfl
  · next draft _ =>
    cases eq : draft.definition <;> simp [eq, bind, Except.bind, pure, Except.pure] at h
    subst h
    rfl

theorem Move.labelLimit (move : p.Move t q u) : q.labelLimit = p.labelLimit := by
  cases move with
  | skipTitle stage blank solid other settled =>
    have limit := finalize_labelLimit settled
    exact limit
  | closeTitle stage encloses blank settled =>
    have limit := finalize_labelLimit settled
    exact limit
  | _ => rfl

theorem Reading.labelLimit (reading : Reading line p t q) : q.labelLimit = p.labelLimit := by
  induction reading with
  | finished p => rfl
  | demoted nonempty stuck => rfl
  | moved nonempty move rest ih => exact ih.trans move.labelLimit

theorem Coherent.labelLimit_call (h : p.Coherent) (c : Call) :
    (p.call c).labelLimit = p.labelLimit := by
  cases c with
  | harvest =>
    rw [h.call_harvest]
    rfl
  | feed line =>
    obtain ⟨q, fed, -, ⟨-, rfl⟩ | ⟨-, reading⟩⟩ := h.feed_cases line
    · rw [call_feed fed]
      rfl
    · rw [call_feed fed, reading.labelLimit]
      rfl

/-- The limit never changes. -/
theorem labelLimit_after (limit : Nat) (calls : List Call) :
    ((fresh limit).after calls).labelLimit = limit := by
  induction calls using List.reverseRecOn with
  | nil => rfl
  | append_singleton calls c ih =>
    rw [after_concat]
    exact ((coherent_after limit calls).labelLimit_call c).trans ih

end Parser

end LinkDefinitions
