import LinkDefinitions.Proofs.Parser.Early

/-!
# Harvests between the lines

A harvest settles a pending draft before its title may come, so harvests between the lines can make
a difference. They make none to the stage and to the lines left, and all that they do to the
definitions is that one whose title comes after a harvest (`Interrupted`) has itself without the
title before it (`interleaved_harvests`).

The run with harvests follows the one without (`Follows`): they are alike but for the doubled
definitions, or the first is early with the draft that is pending in the second.
-/

namespace LinkDefinitions

/-- The definition without its title. -/
def Definition.untitled (d : Definition) : Definition := ⟨d.label, d.destination, none⟩

namespace Parser

variable {limit i : Nat} {p p' : Parser} {calls : List Call} {line : Text} {c : Call} {d : Draft}
  {ds es : List Definition} {event : List Call → Call → Prop} {P Q : Nat → Prop}

/-! ### Events of a history -/

/-- Some call of the history is an event, given the calls before it. -/
def Occurs (event : List Call → Call → Prop) (calls : List Call) : Prop :=
  ∃ before c after, calls = before ++ c :: after ∧ event before c

theorem not_occurs_nil : ¬ Occurs event [] := by
  rintro ⟨before, c, after, eq, -⟩
  simp at eq

theorem occurs_concat : Occurs event (calls ++ [c]) ↔ Occurs event calls ∨ event calls c := by
  constructor
  · rintro ⟨before, c', after, eq, happens⟩
    rcases List.eq_nil_or_concat after with rfl | ⟨after, last, rfl⟩
    · obtain ⟨rfl, same⟩ := List.append_inj' eq rfl
      obtain rfl := List.singleton_inj.1 same
      exact .inr happens
    · rw [List.concat_eq_append, ← List.cons_append, ← List.append_assoc] at eq
      exact .inl ⟨before, c', after, (List.append_inj' eq rfl).1, happens⟩
  · rintro (⟨before, c', after, rfl, happens⟩ | happens)
    · exact ⟨before, c', after ++ [c], by simp, happens⟩
    · exact ⟨calls, c, [], rfl, happens⟩

/-- The same lines without the harvests between them. -/
def plain (limit : Nat) (calls : List Call) : Parser := fed limit (fedLines calls)

theorem plain_feed (limit : Nat) (calls : List Call) (line : Text) :
    plain limit (calls ++ [.feed line]) = (plain limit calls).call (.feed line) := by
  rw [plain, fedLines_append]
  exact fed_concat limit (fedLines calls) line

theorem plain_harvest (limit : Nat) (calls : List Call) :
    plain limit (calls ++ [.harvest]) = plain limit calls := by
  rw [plain, fedLines_append]
  exact congrArg (fed limit) (List.append_nil _)

theorem coherent_plain (limit : Nat) (calls : List Call) : (plain limit calls).Coherent :=
  coherent_fed limit _

/-- The line ends with the destination of definition number `i`, which becomes a draft. -/
def Drafts (p : Parser) (line : Text) (i : Nat) : Prop :=
  p.committed.length = i ∧ Adds (p.call (.feed line)) p.committed (p.call (.feed line)).committed ∧
    ∃ key raw, (p.call (.feed line)).stage = .startTitle key raw

/-- The line ends with the title of definition number `i`, which was a draft. -/
def Titles (p : Parser) (line : Text) (i : Nat) : Prop :=
  p.committed.length = i + 1 ∧
    Retitles p (p.call (.feed line)) p.committed (p.call (.feed line)).committed

/-- There has been a line that ends with the destination of definition number `i`. -/
def Drafted (limit : Nat) (calls : List Call) (i : Nat) : Prop :=
  Occurs (fun before c => ∃ line, c = .feed line ∧ Drafts (plain limit before) line i) calls

/-- There has been a harvest after the line that ends with the destination of definition number
`i`. -/
def Held (limit : Nat) (calls : List Call) (i : Nat) : Prop :=
  Occurs (fun before c => c = .harvest ∧ Drafted limit before i) calls

/-- There has been a harvest after the line that ends with the destination of definition number `i`
and before the line that ends with its title. -/
def Interrupted (limit : Nat) (calls : List Call) (i : Nat) : Prop :=
  Occurs (fun before c => ∃ line, c = .feed line ∧ Held limit before i ∧
    Titles (plain limit before) line i) calls

theorem drafted_feed : Drafted limit (calls ++ [.feed line]) i ↔
    Drafted limit calls i ∨ Drafts (plain limit calls) line i := by
  simp [Drafted, occurs_concat]

theorem drafted_harvest : Drafted limit (calls ++ [.harvest]) i ↔ Drafted limit calls i := by
  simp [Drafted, occurs_concat]

theorem held_feed : Held limit (calls ++ [.feed line]) i ↔ Held limit calls i := by
  simp [Held, occurs_concat]

theorem held_harvest :
    Held limit (calls ++ [.harvest]) i ↔ Held limit calls i ∨ Drafted limit calls i := by
  simp [Held, occurs_concat]

theorem interrupted_feed : Interrupted limit (calls ++ [.feed line]) i ↔
    Interrupted limit calls i ∨ Held limit calls i ∧ Titles (plain limit calls) line i := by
  simp [Interrupted, occurs_concat]

theorem interrupted_harvest :
    Interrupted limit (calls ++ [.harvest]) i ↔ Interrupted limit calls i := by
  simp [Interrupted, occurs_concat]

/-! ### Where the definitions of a history are -/

theorem Drafted.lt_committed (drafted : Drafted limit calls i) :
    i < (plain limit calls).committed.length := by
  induction calls using List.reverseRecOn with
  | nil => exact absurd drafted not_occurs_nil
  | append_singleton calls c ih =>
    cases c with
    | harvest =>
      rw [plain_harvest]
      exact ih (drafted_harvest.1 drafted)
    | feed line =>
      rw [plain_feed]
      rcases drafted_feed.1 drafted with drafted | ⟨rfl, ⟨-, d, more⟩, -⟩
      · have longer := (coherent_plain limit calls).committed_length_le [.feed line]
        exact (ih drafted).trans_le longer
      · rw [more, List.length_append, List.length_singleton]
        exact Nat.lt_succ_self _

theorem Held.lt_committed (held : Held limit calls i) :
    i < (plain limit calls).committed.length := by
  obtain ⟨before, c, after, rfl, -, before', c', after', rfl, event⟩ := held
  exact Drafted.lt_committed ⟨before', c', after' ++ c :: after, by simp, event⟩

/-- A definition that has got its title is final. -/
theorem Titles.exists_finalized (h : p.Coherent) (titles : Titles p line i) :
    ∃ d, (p.call (.feed line)).finalized[i]? = some d ∧ d.title ≠ none := by
  obtain ⟨number, remaining, d, ds, title, -, -, old, new⟩ := titles
  rw [old, List.length_append, List.length_singleton] at number
  obtain rfl : ds.length = i := Nat.succ.inj number
  cases h.complete_call_feed remaining with
  | titled stage none =>
    rw [committed_of_pending_eq_none none] at new
    exact ⟨d.resolved.withTitle title, by simp [new], Option.some_ne_none title⟩
  | drafted e stage pending =>
    -- The last definition would be a draft, without a title.
    have untitled := ((h.call (.feed line)).pending_untitled pending).2
    rw [committed_of_pending_eq_some pending] at new
    obtain ⟨-, same⟩ := List.append_inj' new rfl
    have := congrArg Definition.title (List.singleton_inj.1 same)
    simp [Definition.withTitle, Draft.resolved, untitled] at this

theorem Interrupted.exists_finalized (interrupted : Interrupted limit calls i) :
    ∃ d, (plain limit calls).finalized[i]? = some d ∧ d.title ≠ none := by
  induction calls using List.reverseRecOn with
  | nil => exact absurd interrupted not_occurs_nil
  | append_singleton calls c ih =>
    cases c with
    | harvest =>
      rw [plain_harvest]
      exact ih (interrupted_harvest.1 interrupted)
    | feed line =>
      have coherent := coherent_plain limit calls
      rw [plain_feed]
      rcases interrupted_feed.1 interrupted with interrupted | ⟨-, titles⟩
      · obtain ⟨d, eq, titled⟩ := ih interrupted
        have longer : (plain limit calls).finalized <+:
            ((plain limit calls).call (.feed line)).finalized :=
          (coherent.grows_after [.feed line]).finalized_kept
        obtain ⟨more, eq'⟩ := longer
        refine ⟨d, ?_, titled⟩
        rw [← eq', List.getElem?_append_left (List.getElem?_eq_some_iff.1 eq).1, eq]
      · exact titles.exists_finalized coherent

theorem Interrupted.lt_finalized (interrupted : Interrupted limit calls i) :
    i < (plain limit calls).finalized.length := by
  obtain ⟨d, eq, -⟩ := interrupted.exists_finalized
  exact (List.getElem?_eq_some_iff.1 eq).1

/-- A draft that is pending after a line was pending before it, or it ends that line. -/
theorem Coherent.drafts_of_pending (h : p.Coherent)
    (pending : (p.call (.feed line)).pending = some d) :
    p.pending = some d ∧ (p.call (.feed line)).finalized = p.finalized ∨
      Drafts p line (p.call (.feed line)).finalized.length := by
  obtain ⟨q, fed, coherent, quiet | ⟨m, quiet, commits⟩⟩ := h.feed_quiet_or_commits line
  · rw [call_feed fed] at pending ⊢
    rcases quiet.ledger with ⟨finalized, same⟩ | ⟨-, none⟩
    · exact .inl ⟨same.symm.trans pending, finalized⟩
    · rw [none] at pending
      cases pending
  · rw [call_feed fed] at pending ⊢
    cases commits with
    | titled e title untitled before finalized none remaining =>
      rw [none] at pending
      cases pending
    | drafted e untitled before finalized pending' remaining =>
      have old : q.finalized = p.committed := by
        rw [finalized, ← committed_of_pending_eq_none before, quiet.committed]
        rfl
      have complete : Complete (p.call (.feed line)) :=
        h.complete_call_feed (by rw [call_feed fed, remaining])
      rw [call_feed fed] at complete
      rw [Drafts, call_feed fed, old, committed_of_pending_eq_some pending, old]
      exact .inr ⟨rfl, ⟨remaining, _, rfl⟩, _, _, complete.stage_of_pending pending⟩

/-- A pending draft has had its line, and its number is the one after the final definitions. -/
theorem drafted_of_pending (pending : (plain limit calls).pending = some d) :
    Drafted limit calls (plain limit calls).finalized.length := by
  induction calls using List.reverseRecOn with
  | nil => cases pending
  | append_singleton calls c ih =>
    cases c with
    | harvest =>
      rw [plain_harvest] at pending ⊢
      exact drafted_harvest.2 (ih pending)
    | feed line =>
      rw [plain_feed] at pending ⊢
      refine drafted_feed.2 ?_
      rcases (coherent_plain limit calls).drafts_of_pending pending with ⟨pending, same⟩ | drafts
      · rw [same]
        exact .inl (ih pending)
      · exact .inr drafts

/-! ### Doubled definitions -/

open Classical in
/-- The definitions, where those with a number in `P` are doubled, first without their title. -/
noncomputable def doubled (P : Nat → Prop) (ds : List Definition) : List Definition :=
  (ds.mapIdx fun i d => if P i then [d.untitled, d] else [d]).flatten

open Classical in
theorem doubled_concat (P : Nat → Prop) (ds : List Definition) (d : Definition) :
    doubled P (ds ++ [d]) = doubled P ds ++ if P ds.length then [d.untitled, d] else [d] := by
  simp [doubled, List.mapIdx_append]

theorem doubled_append (rest : ∀ i, ds.length ≤ i → ¬ P i) :
    doubled P (ds ++ es) = doubled P ds ++ es := by
  induction es using List.reverseRecOn with
  | nil => simp
  | append_singleton es d ih =>
    rw [← List.append_assoc, doubled_concat, if_neg (rest _ (by simp)), ih, List.append_assoc]

theorem doubled_of_never (never : ∀ i, ¬ P i) (ds : List Definition) : doubled P ds = ds := by
  show doubled P ([] ++ ds) = doubled P [] ++ ds
  exact doubled_append fun i _ => never i

open Classical in
theorem doubled_congr (same : ∀ i < ds.length, (P i ↔ Q i)) : doubled P ds = doubled Q ds := by
  induction ds using List.reverseRecOn with
  | nil => rfl
  | append_singleton ds d ih =>
    have last : P ds.length ↔ Q ds.length := same _ (by simp)
    rw [doubled_concat, doubled_concat, ih fun i lt => same i (by simp; omega)]
    exact congrArg _ (if_congr last rfl rfl)

theorem Alike.doubled (rest : ∀ i, ds.length ≤ i → ¬ P i)
    (alike : Alike ds (doubled P ds) p p') :
    Alike p.finalized (Parser.doubled P p.finalized) p p' := by
  obtain ⟨labelLimit, stage, pending, found, eq, eq'⟩ := alike
  refine ⟨labelLimit, stage, pending, [], (List.append_nil _).symm, ?_⟩
  rw [eq, doubled_append rest, eq', List.append_nil]

/-! ### The run with the harvests -/

/-- How a run with harvests stands to the one without. They are alike, and no harvest has settled
the draft that is pending; or one has, and the run with harvests is early. -/
inductive Follows (limit : Nat) (calls : List Call) (p p' : Parser) : Prop
  | alike (unheld : ∀ d, p.pending = some d → ¬ Held limit calls p.finalized.length)
      (alike : Alike p.finalized (doubled (Interrupted limit calls) p.finalized) p p')
  | early (d : Draft) (held : Held limit calls p.finalized.length)
      (early : Early d p.finalized (doubled (Interrupted limit calls) p.finalized) p p')

theorem Follows.stage (follows : Follows limit calls p p') : p'.stage = p.stage := by
  cases follows with
  | alike unheld alike => exact alike.stage
  | early d held early => exact early.stage

theorem Follows.committed (follows : Follows limit calls (plain limit calls) p') :
    p'.committed = doubled (Interrupted limit calls) (plain limit calls).committed := by
  have later (i : Nat) (le : (plain limit calls).finalized.length ≤ i) :
      ¬ Interrupted limit calls i :=
    fun interrupted => Nat.not_lt.2 le interrupted.lt_finalized
  cases follows with
  | alike unheld alike =>
    obtain ⟨found, eq, eq'⟩ := alike.exists_committed
    rw [eq, eq', doubled_append later]
  | early d held early =>
    rw [early.committed.1, early.committed.2, doubled_append later]

theorem Titles.exists_pending (titles : Titles p line i) :
    p.finalized.length = i ∧ ∃ d, p.pending = some d := by
  obtain ⟨number, -, d, -, -, pending, -⟩ := titles
  rw [committed_of_pending_eq_some pending, List.length_append, List.length_singleton] at number
  exact ⟨Nat.succ.inj number, d, pending⟩

theorem Coherent.retitles_of_not_prefix (h : p.Coherent)
    (changed : ¬ p.committed <+: (p.call (.feed line)).committed) :
    Retitles p (p.call (.feed line)) p.committed (p.call (.feed line)).committed := by
  obtain ⟨q, fed, -, ⟨same, -⟩ | ⟨-, d, more⟩ | retitles⟩ := h.feed_outcome line
  · rw [call_feed fed, same] at changed
    exact absurd List.prefix_rfl changed
  · rw [call_feed fed, more] at changed
    exact absurd (List.prefix_append _ _) changed
  · rw [call_feed fed]
    exact retitles

/-- A line that gives a title does not keep the definitions there were. -/
theorem Titles.not_prefix (titles : Titles p line i) :
    ¬ p.committed <+: (p.call (.feed line)).committed := by
  rintro ⟨more, kept⟩
  obtain ⟨-, -, d, ds, title, -, untitled, old, new⟩ := titles
  rw [old, new] at kept
  simp [Definition.withTitle, Draft.resolved, untitled] at kept

/-- A line may only double the definition to which it gives a title. -/
theorem not_interrupted_feed (le : (plain limit calls).finalized.length ≤ i)
    (calm : ¬ (Held limit calls i ∧ Titles (plain limit calls) line i)) :
    ¬ Interrupted limit (calls ++ [.feed line]) i := by
  intro interrupted
  rcases interrupted_feed.1 interrupted with before | now
  · exact Nat.not_lt.2 le before.lt_finalized
  · exact calm now

theorem doubled_feed (limit : Nat) (calls : List Call) (line : Text) :
    doubled (Interrupted limit (calls ++ [.feed line])) (plain limit calls).finalized =
      doubled (Interrupted limit calls) (plain limit calls).finalized := by
  refine doubled_congr fun i lt => interrupted_feed.trans (or_iff_left ?_)
  rintro ⟨-, titles⟩
  exact lt.ne titles.exists_pending.1.symm

/-- A draft that a line leaves pending is not yet settled by a harvest, if it was not before. -/
theorem not_held_feed
    (pending : (plain limit (calls ++ [.feed line])).pending = some d)
    (unheld : (plain limit calls).pending = some d →
      (plain limit (calls ++ [.feed line])).finalized = (plain limit calls).finalized →
      ¬ Held limit calls (plain limit calls).finalized.length) :
    ¬ Held limit (calls ++ [.feed line])
      (plain limit (calls ++ [.feed line])).finalized.length := by
  rw [held_feed]
  rw [plain_feed] at pending unheld ⊢
  rcases (coherent_plain limit calls).drafts_of_pending pending with ⟨before, same⟩ | drafts
  · rw [same]
    exact unheld before same
  · rw [← drafts.1]
    exact fun held => absurd held.lt_committed (Nat.lt_irrefl _)

/-- A line after which the runs are alike and have one definition more, with its double if it is
interrupted. -/
theorem follows_feed_of_alike (e : Definition)
    (alike : Alike ((plain limit calls).finalized ++ [e])
      (doubled (Interrupted limit (calls ++ [.feed line])) ((plain limit calls).finalized ++ [e]))
      (plain limit (calls ++ [.feed line])) p') :
    Follows limit (calls ++ [.feed line]) (plain limit (calls ++ [.feed line])) p' := by
  refine .alike (fun d pending => not_held_feed pending fun _ same => ?_)
    (alike.doubled fun i le => ?_)
  · obtain ⟨-, -, -, found, eq, -⟩ := alike
    have := congrArg List.length (eq.symm.trans same)
    simp at this
  · rw [List.length_append, List.length_singleton] at le
    refine not_interrupted_feed (by omega) ?_
    rintro ⟨-, titles⟩
    have := titles.exists_pending.1
    omega

theorem Follows.feed (follows : Follows limit calls (plain limit calls) p') (line : Text) :
    Follows limit (calls ++ [.feed line]) (plain limit (calls ++ [.feed line]))
      (p'.call (.feed line)) := by
  have coherent := coherent_plain limit calls
  have doubles := doubled_feed limit calls line
  cases follows with
  | alike unheld alike =>
    -- A title would be that of the draft, which no harvest has settled, so none is doubled.
    have alike := alike.feed coherent line
    rw [← plain_feed, ← doubles] at alike
    refine .alike (fun d pending => not_held_feed pending fun before _ => unheld d before)
      (alike.doubled fun i le => not_interrupted_feed le ?_)
    rintro ⟨held, titles⟩
    obtain ⟨rfl, d, pending⟩ := titles.exists_pending
    exact unheld d pending held
  | early d held early =>
    have old := early.committed.1
    have meets := early.feed coherent line
    rw [← plain_feed, ← doubles] at meets
    cases meets with
    | waiting early =>
      have same := early.finalized
      refine .early d ?_ ?_
      · rw [held_feed, same]
        exact held
      · rw [same]
        exact early
    | untitled alike =>
      obtain ⟨more, new, -⟩ := alike.exists_committed
      rw [plain_feed] at new
      have calm : ¬ Interrupted limit (calls ++ [.feed line])
          (plain limit calls).finalized.length := by
        refine not_interrupted_feed le_rfl ?_
        rintro ⟨-, titles⟩
        exact titles.not_prefix ⟨more, by rw [old, new]⟩
      refine follows_feed_of_alike d.resolved ?_
      rw [doubled_concat, if_neg calm]
      exact alike
    | titled title alike =>
      obtain ⟨more, new, -⟩ := alike.exists_committed
      rw [plain_feed] at new
      have untitled := (coherent.pending_untitled early.pending).2
      have titles : Titles (plain limit calls) line (plain limit calls).finalized.length := by
        refine ⟨by simp [old], coherent.retitles_of_not_prefix ?_⟩
        rintro ⟨others, kept⟩
        rw [old, new] at kept
        simp [Definition.withTitle, Draft.resolved, untitled] at kept
      have named : (d.resolved.withTitle title).untitled = d.resolved := by
        simp [Definition.untitled, Definition.withTitle, Draft.resolved, untitled]
      refine follows_feed_of_alike (d.resolved.withTitle title) ?_
      rw [doubled_concat, if_pos (interrupted_feed.2 (.inr ⟨held, titles⟩)), named]
      exact alike

theorem Follows.harvest (follows : Follows limit calls (plain limit calls) p') (h' : p'.Coherent) :
    Follows limit (calls ++ [.harvest]) (plain limit (calls ++ [.harvest])) (p'.call .harvest) := by
  have same : Interrupted limit (calls ++ [.harvest]) = Interrupted limit calls :=
    funext fun i => propext interrupted_harvest
  rw [plain_harvest, h'.call_harvest]
  cases follows with
  | alike unheld alike =>
    cases pending : (plain limit calls).pending with
    | none =>
      have none := alike.pending.trans pending
      obtain ⟨labelLimit, stage, -, found, eq, eq'⟩ := alike
      refine .alike (fun d some => absurd (pending.symm.trans some) (by simp)) ?_
      rw [same]
      exact ⟨labelLimit, stage, pending.symm, found, eq,
        (committed_of_pending_eq_none none).trans eq'⟩
    | some d =>
      obtain ⟨found, eq, eq'⟩ := alike.exists_committed
      rw [committed_of_pending_eq_some pending, List.append_cancel_left_eq] at eq
      refine .early d (held_harvest.2 (.inr (drafted_of_pending pending))) ?_
      rw [same]
      exact ⟨alike.labelLimit, alike.stage, pending, rfl, rfl, eq ▸ eq'⟩
  | early d held early =>
    refine .early d (held_harvest.2 (.inl held)) ?_
    rw [same]
    exact ⟨early.labelLimit, early.stage, early.pending, rfl, early.finalized, early.committed.2⟩

theorem Follows.remaining_feed (follows : Follows limit calls p p') (h : p.Coherent)
    (same : p'.remaining = p.remaining) (line : Text) :
    (p'.call (.feed line)).remaining = (p.call (.feed line)).remaining := by
  cases follows with
  | alike unheld alike => exact alike.remaining_feed h same line
  | early d held early => exact early.remaining_feed h same line

/-- Whatever has been called, the run follows the one without the harvests. -/
theorem follows_after (limit : Nat) (calls : List Call) :
    Follows limit calls (plain limit calls) ((fresh limit).after calls) ∧
      ((fresh limit).after calls).remaining = (plain limit calls).remaining := by
  induction calls using List.reverseRecOn with
  | nil => exact ⟨.alike (fun d pending => by cases pending) (.refl _), rfl⟩
  | append_singleton calls c ih =>
    obtain ⟨follows, same⟩ := ih
    have coherent := coherent_after limit calls
    rw [after_concat]
    cases c with
    | feed line =>
      refine ⟨follows.feed line, ?_⟩
      rw [plain_feed]
      exact follows.remaining_feed (coherent_plain limit calls) same line
    | harvest =>
      refine ⟨follows.harvest coherent, ?_⟩
      rw [plain_harvest, coherent.call_harvest]
      exact same

/-- **Harvests between the lines.** They change neither the stage nor the lines left. A harvest
gives the definitions that it would give had there been none before, but that each definition with
a harvest between its destination and its title, which end different lines, has itself without the
title before it. Harvests one after the other give the same. -/
theorem interleaved_harvests (limit : Nat) (calls : List Call) :
    let p := (fresh limit).after calls
    p.stage = (plain limit calls).stage ∧ p.remaining = (plain limit calls).remaining ∧
      ∃ ds q new p', (plain limit calls).harvest = .ok (ds, q) ∧ p.harvest = .ok (new, p') ∧
        p'.harvest = .ok (new, p') ∧ new = doubled (Interrupted limit calls) ds ∧
        (∀ i, Interrupted limit calls i → ∃ d, ds[i]? = some d ∧ d.title ≠ none) ∧
        ((∀ i, ¬ Interrupted limit calls i) → new = ds) := by
  intro p
  have coherent : p.Coherent := coherent_after limit calls
  obtain ⟨follows, remaining⟩ := follows_after limit calls
  have once : p.settled.harvest = .ok (p.committed, p.settled) := by
    rw [coherent.settled.harvest_eq, settled_committed, settled_settled]
  refine ⟨follows.stage, remaining, (plain limit calls).committed, _, p.committed, p.settled,
    (coherent_plain limit calls).harvest_eq, coherent.harvest_eq, once, follows.committed,
    fun i interrupted => ?_, fun never => ?_⟩
  · obtain ⟨d, eq, titled⟩ := interrupted.exists_finalized
    refine ⟨d, ?_, titled⟩
    rw [Parser.committed, List.getElem?_append_left interrupted.lt_finalized, eq]
  · rw [follows.committed]
    exact doubled_of_never never _

/-- A harvest between a destination and its title, and one where no title comes. -/
theorem interleaved_harvests_twoLines :
    let calls := [.feed "[a]: /x".toList, .harvest, .feed "'t'".toList]
    Interrupted 999 calls 0 ∧
      (∃ p', ((fresh 999).after calls).harvest =
        .ok ([⟨['a'], "/x".toList, none⟩, ⟨['a'], "/x".toList, some ['t']⟩], p')) ∧
      (∀ i, ¬ Interrupted 999 [.feed "[a]: /x".toList, .harvest] i) ∧
      ∃ p', ((fresh 999).after [.feed "[a]: /x".toList, .harvest]).harvest =
        .ok ([⟨['a'], "/x".toList, none⟩], p') := by
  intro calls
  have drafts : Drafts (plain 999 []) "[a]: /x".toList 0 :=
    ⟨rfl, ⟨by decide +kernel, ⟨['a'], "/x".toList, none⟩, by decide +kernel⟩, ['a'], "/x".toList,
      by decide +kernel⟩
  have titles : Titles (plain 999 [.feed "[a]: /x".toList, .harvest]) "'t'".toList 0 :=
    ⟨by decide +kernel, by decide +kernel, ⟨['a'], "/x".toList, none⟩, [], ['t'],
      by decide +kernel, rfl, by decide +kernel, by decide +kernel⟩
  have held : Held 999 [.feed "[a]: /x".toList, .harvest] 0 :=
    ⟨[.feed "[a]: /x".toList], .harvest, [], rfl, rfl, [], _, [], rfl, _, rfl, drafts⟩
  have interrupted : Interrupted 999 calls 0 := ⟨_, _, [], rfl, _, rfl, held, titles⟩
  have never (i : Nat) : ¬ Interrupted 999 [.feed "[a]: /x".toList, .harvest] i := by
    intro interrupted
    have empty : (plain 999 [.feed "[a]: /x".toList, .harvest]).finalized = [] := by decide +kernel
    have lt := interrupted.lt_finalized
    rw [empty] at lt
    exact absurd lt (Nat.not_lt_zero i)
  have titled : (plain 999 calls).committed = [⟨['a'], "/x".toList, some ['t']⟩] := by
    decide +kernel
  have untitled : (plain 999 [.feed "[a]: /x".toList, .harvest]).committed =
      [⟨['a'], "/x".toList, none⟩] := by decide +kernel
  obtain ⟨-, -, ds, q, new, p', whole, harvest, -, doubles, -⟩ :=
    interleaved_harvests 999 calls
  obtain ⟨-, -, ds', q', new', r', whole', harvest', -, -, -, same⟩ :=
    interleaved_harvests 999 [.feed "[a]: /x".toList, .harvest]
  rw [(coherent_plain 999 _).harvest_eq] at whole whole'
  obtain ⟨rfl, -⟩ := Prod.mk.inj (Except.ok.inj whole)
  obtain ⟨rfl, -⟩ := Prod.mk.inj (Except.ok.inj whole')
  refine ⟨interrupted, ⟨p', ?_⟩, never, r', ?_⟩
  · rw [harvest, doubles, titled]
    simp [doubled, interrupted, Definition.untitled]
  · rw [harvest', same never, untitled]

end Parser

end LinkDefinitions
