import LinkDefinitions.Proofs.Parser.Move

/-!
# Coherent parsers

The stage of a parser and its pending draft go together: a draft waits only while its title may
follow, or in a paragraph, it has a label and no title, and it repeats what the stage holds. Every
move keeps this (`Move.coherent`), a coherent parser outside a paragraph can read any text
(`Coherent.exists_reading`), and every history of feeds and harvests leads from a fresh parser to a
coherent one (`coherent_after`). So a feed or a harvest in such a history never fails.
-/

namespace LinkDefinitions

/-- The definition of a draft with its escapes and references resolved, if it has a label. -/
def Draft.resolved (d : Draft) : Definition :=
  ⟨d.label, unescape d.destination, d.title.map unescape⟩

theorem Draft.definition_eq {d : Draft} (h : d.label ≠ []) : d.definition = .ok d.resolved :=
  if_neg h

/-- The drafts that may be pending in a stage. -/
def Stage.Allows : Stage → Option Draft → Prop
  | .startDefinition, pending => pending = none
  | .label _, pending => pending = none
  | .destination key, pending => key ≠ [] ∧ pending = none
  | .startTitle key raw, pending => key ≠ [] ∧ ∀ d ∈ pending, d = ⟨key, raw, none⟩
  | .title key raw _ _, pending => key ≠ [] ∧ ∀ d ∈ pending, d = ⟨key, raw, none⟩
  | .paragraph, pending => ∀ d ∈ pending, d.label ≠ [] ∧ d.title = none
  | .unknown _, _ => False

namespace Parser

variable {p q r : Parser} {line t u : Text} {d : Draft}

theorem ok_bind {ε α β : Type} (a : α) (f : α → Except ε β) : (Except.ok a >>= f) = f a := rfl

/-- A parser whose pending draft belongs to its stage. -/
def Coherent (p : Parser) : Prop := p.stage.Allows p.pending

theorem Coherent.allows {stage : Stage} (h : p.Coherent) (eq : p.stage = stage) :
    stage.Allows p.pending :=
  eq ▸ h

theorem coherent_fresh (limit : Nat) : Coherent (fresh limit) := rfl

theorem Coherent.pending_untitled (h : p.Coherent) (pending : p.pending = some d) :
    d.label ≠ [] ∧ d.title = none := by
  unfold Coherent at h
  rw [pending] at h
  cases stage : p.stage <;> rw [stage] at h <;> simp [Stage.Allows] at h
  · exact ⟨h.2 ▸ h.1, h.2 ▸ rfl⟩
  · exact ⟨h.2 ▸ h.1, h.2 ▸ rfl⟩
  · exact h

@[simp] theorem goto_stage (p : Parser) (stage : Stage) : (p.goto stage).stage = stage := rfl

@[simp] theorem goto_pending (p : Parser) (stage : Stage) :
    (p.goto stage).pending = p.pending := rfl

@[simp] theorem goto_remaining (p : Parser) (stage : Stage) :
    (p.goto stage).remaining = p.remaining := rfl

@[simp] theorem goto_finalized (p : Parser) (stage : Stage) :
    (p.goto stage).finalized = p.finalized := rfl

@[simp] theorem goto_labelLimit (p : Parser) (stage : Stage) :
    (p.goto stage).labelLimit = p.labelLimit := rfl

/-! ### Settling a draft -/

/-- The definitions that a harvest gives: those found, and the pending one. -/
def committed (p : Parser) : List Definition :=
  p.finalized ++ (p.pending.map Draft.resolved).toList

/-- The parser after its pending draft has become a definition. -/
def settled (p : Parser) : Parser :=
  { p with
    pending := none
    finalized := p.committed
    notices := p.notices ++
      (p.pending.map fun d => .finalized d.resolved.label d.resolved.destination).toList }

@[simp] theorem settled_stage (p : Parser) : p.settled.stage = p.stage := rfl

@[simp] theorem settled_pending (p : Parser) : p.settled.pending = none := rfl

@[simp] theorem settled_remaining (p : Parser) : p.settled.remaining = p.remaining := rfl

@[simp] theorem settled_finalized (p : Parser) : p.settled.finalized = p.committed := rfl

@[simp] theorem settled_labelLimit (p : Parser) : p.settled.labelLimit = p.labelLimit := rfl

theorem committed_of_pending_eq_none (h : p.pending = none) : p.committed = p.finalized := by
  simp [committed, h]

theorem committed_of_pending_eq_some (h : p.pending = some d) :
    p.committed = p.finalized ++ [d.resolved] := by
  simp [committed, h]

@[simp] theorem settled_committed (p : Parser) : p.settled.committed = p.committed :=
  committed_of_pending_eq_none rfl

theorem settled_settled (p : Parser) : p.settled.settled = p.settled := by
  simp [settled, committed]

theorem finalize_eq (h : ∀ d ∈ p.pending, d.label ≠ []) : p.finalize = .ok p.settled := by
  unfold finalize
  cases pending : p.pending with
  | none =>
    cases p
    simp_all [settled, committed]
  | some d =>
    simp [Draft.definition_eq (h d pending), settled, committed, pending, bind, Except.bind, pure,
      Except.pure]

theorem Coherent.finalize_eq (h : p.Coherent) : p.finalize = .ok p.settled :=
  Parser.finalize_eq fun _ pending => (h.pending_untitled pending).1

theorem Coherent.settled (h : p.Coherent) : p.settled.Coherent := by
  unfold Coherent at h ⊢
  cases stage : p.stage <;> rw [stage] at h <;> simp_all [Stage.Allows]

theorem Coherent.harvest_eq (h : p.Coherent) : p.harvest = .ok (p.committed, p.settled) := by
  rw [harvest, h.finalize_eq]
  rfl

/-! ### Moves -/

theorem Move.coherent (h : p.Coherent) (move : p.Move t q u) : q.Coherent := by
  cases move with
  | openLabel stage blank =>
    have allowed := h.allows stage
    exact allowed
  | extendLabel stage clear =>
    have allowed := h.allows stage
    exact allowed
  | closeLabel stage encloses blank solid short key => exact ⟨key, h.allows stage⟩
  | endDestination stage blank whole trail_blank =>
    exact ⟨(h.allows stage).1, fun d pending => (Option.some.inj pending).symm⟩
  | passDestination stage blank whole space_blank space_ne solid u_ne =>
    obtain ⟨label, pending⟩ := h.allows stage
    refine ⟨label, fun d mem => ?_⟩
    simp [pending] at mem
  | openTitle stage blank paired =>
    have allowed := h.allows stage
    exact allowed
  | skipTitle stage blank solid other settled =>
    rw [h.finalize_eq] at settled
    obtain rfl := Except.ok.inj settled
    rfl
  | extendTitle stage clear =>
    have allowed := h.allows stage
    exact allowed
  | closeTitle stage encloses blank settled =>
    rw [Parser.finalize_eq (by simpa using (h.allows stage).1)] at settled
    obtain rfl := Except.ok.inj settled
    rfl

/-- Outside a paragraph a coherent parser never fails in a step. -/
theorem Coherent.step_ok (h : p.Coherent) (goes_on : p.stage ≠ .paragraph) (t : Text) :
    ∃ result, p.step t = .ok result := by
  unfold step
  cases stage : p.stage with
  | startDefinition => exact ⟨_, rfl⟩
  | label raw => exact ⟨_, rfl⟩
  | destination label => exact ⟨_, rfl⟩
  | startTitle label destination =>
    have opened : ∃ result, p.openTitle label destination t = .ok result := by
      unfold openTitle
      rw [h.finalize_eq]
      dsimp only
      split
      · exact ⟨_, rfl⟩
      · split <;> exact ⟨_, rfl⟩
    obtain ⟨result, eq⟩ := opened
    exact ⟨some result, by simp [eq, bind, Except.bind, pure, Except.pure]⟩
  | title label destination closing raw =>
    have nonempty : label ≠ [] := (h.allows stage).1
    simp only [readTitle]
    split
    · exact ⟨_, rfl⟩
    · exact ⟨_, rfl⟩
    · rw [Parser.finalize_eq (by simpa using nonempty)]
      split <;> exact ⟨_, rfl⟩
  | paragraph => exact absurd stage goes_on
  | unknown value => exact (h.allows stage).elim

/-- Outside a paragraph a coherent parser is stuck if it has no move. -/
theorem Coherent.stuck_of_not_move (h : p.Coherent) (goes_on : p.stage ≠ .paragraph)
    (still : ∀ q u, ¬ p.Move t q u) : p.step t = .ok none := by
  obtain ⟨result, eq⟩ := h.step_ok goes_on t
  cases result with
  | none => exact eq
  | some result => exact absurd (step_eq_some_iff.1 eq) (still _ _)

theorem Coherent.demote (h : p.Coherent) (line : Text) : (p.demote line).Coherent :=
  fun _ pending => h.pending_untitled pending

theorem Reading.coherent (h : p.Coherent) (reading : Reading line p t q) : q.Coherent := by
  induction reading with
  | finished p => exact h
  | demoted nonempty stuck => exact h.demote line
  | moved nonempty move _ ih => exact ih (move.coherent h)

/-- Outside a paragraph a coherent parser reads every text: no move leads into a paragraph, so none
of its steps fails. -/
theorem Coherent.exists_reading (h : p.Coherent) (goes_on : p.stage ≠ .paragraph) (line t : Text) :
    ∃ q, Reading line p t q := by
  fun_induction read p line t with
  | case1 p => exact ⟨p, .finished p⟩
  | case2 p t nonempty failure eq =>
    obtain ⟨result, ok⟩ := h.step_ok goes_on t
    rw [eq] at ok
    cases ok
  | case3 p t nonempty eq => exact ⟨_, .demoted nonempty eq⟩
  | case4 p t nonempty r u eq ih =>
    have move := step_eq_some_iff.1 eq
    obtain ⟨q, rest⟩ := ih (move.coherent h) move.ne_paragraph.2
    exact ⟨q, .moved nonempty move rest⟩

/-! ### Lines -/

@[simp] theorem keep_stage (p : Parser) (line : Text) : (p.keep line).stage = p.stage := rfl

@[simp] theorem keep_pending (p : Parser) (line : Text) : (p.keep line).pending = p.pending := rfl

@[simp] theorem keep_finalized (p : Parser) (line : Text) :
    (p.keep line).finalized = p.finalized := rfl

@[simp] theorem keep_committed (p : Parser) (line : Text) :
    (p.keep line).committed = p.committed := rfl

@[simp] theorem keep_remaining (p : Parser) (line : Text) :
    (p.keep line).remaining = p.remaining ++ [line] := rfl

theorem feed_of_reading (goes_on : p.stage ≠ .paragraph)
    (reading : Reading line (p.keep line) line q) : p.feed line = ⟨q, none⟩ := by
  unfold feed
  rw [if_neg goes_on, read_of_reading reading]

/-- What feeding a line comes to: the line is kept, and unless the block is a paragraph it is
read. -/
theorem Coherent.feed_cases (h : p.Coherent) (line : Text) :
    ∃ q, p.feed line = ⟨q, none⟩ ∧ q.Coherent ∧
      (p.stage = .paragraph ∧ q = p.keep line ∨
        p.stage ≠ .paragraph ∧ Reading line (p.keep line) line q) := by
  have kept : (p.keep line).Coherent := h
  by_cases paragraph : p.stage = .paragraph
  · exact ⟨p.keep line, by rw [feed]; exact if_pos paragraph, kept, .inl ⟨paragraph, rfl⟩⟩
  · obtain ⟨q, reading⟩ := kept.exists_reading paragraph line line
    exact ⟨q, feed_of_reading paragraph reading, reading.coherent kept, .inr ⟨paragraph, reading⟩⟩

/-- Where a definition may start, a line that does not begin with a bracket is demoted. -/
theorem feed_of_ne_bracket {b : Text} {c : Char} (stage : p.stage = .startDefinition)
    (blank : Blank b) (solid : isBlank c = false) (bracket : c ≠ '[') (t : Text) :
    p.feed (b ++ c :: t) = ⟨(p.keep (b ++ c :: t)).demote (b ++ c :: t), none⟩ := by
  have skip : skipBlanks (b ++ c :: t) = c :: t := by
    rw [skipBlanks_append blank]
    exact solid_cons_iff.2 solid
  have stuck : (p.keep (b ++ c :: t)).step (b ++ c :: t) = .ok none := by
    unfold step
    rw [keep_stage, stage]
    show Except.ok ((p.keep (b ++ c :: t)).openLabel (b ++ c :: t)) = .ok none
    unfold openLabel
    rw [skip]
    split
    · next eq => exact absurd (List.cons.inj eq).1 bracket
    · rfl
  exact feed_of_reading (stage ▸ Stage.noConfusion) (.demoted (by simp) stuck)

/-- A feed or a harvest. -/
inductive Call
  | feed (line : Text)
  | harvest
  deriving DecidableEq, Repr

/-- The parser after a call, which stays as it is if its draft cannot be settled. -/
def call (p : Parser) : Call → Parser
  | .feed line => (p.feed line).parser
  | .harvest =>
    match p.harvest with
    | .ok (_, q) => q
    | .error _ => p

/-- The parser after a history of calls. -/
def after (p : Parser) (calls : List Call) : Parser := calls.foldl call p

/-- The lines fed in a history. -/
def fedLines (calls : List Call) : List Text :=
  calls.filterMap fun
    | .feed line => some line
    | .harvest => none

@[simp] theorem after_nil (p : Parser) : p.after [] = p := rfl

theorem after_cons (p : Parser) (c : Call) (calls : List Call) :
    p.after (c :: calls) = (p.call c).after calls := rfl

theorem after_append (p : Parser) (calls more : List Call) :
    p.after (calls ++ more) = (p.after calls).after more :=
  List.foldl_append

theorem after_concat (p : Parser) (calls : List Call) (c : Call) :
    p.after (calls ++ [c]) = (p.after calls).call c :=
  after_append p calls [c]

theorem call_feed (fed : p.feed line = ⟨q, none⟩) : p.call (.feed line) = q :=
  congrArg Feeding.parser fed

theorem Coherent.call_harvest (h : p.Coherent) : p.call .harvest = p.settled := by
  simp [call, h.harvest_eq]

theorem Coherent.call (h : p.Coherent) (c : Call) : (p.call c).Coherent := by
  cases c with
  | feed line =>
    obtain ⟨q, fed, coherent, -⟩ := h.feed_cases line
    rwa [call_feed fed]
  | harvest =>
    rw [h.call_harvest]
    exact h.settled

theorem Coherent.after (h : p.Coherent) (calls : List Call) : (p.after calls).Coherent := by
  induction calls generalizing p with
  | nil => exact h
  | cons c calls ih => exact ih (h.call c)

/-- Whatever has been called, a parser is coherent. -/
theorem coherent_after (limit : Nat) (calls : List Call) : ((fresh limit).after calls).Coherent :=
  (coherent_fresh limit).after calls

/-- Feeding lines in order is a history of feeds. -/
theorem Coherent.feedAll_eq (h : p.Coherent) (lines : List Text) :
    p.feedAll lines = .ok (p.after (lines.map .feed)) := by
  induction lines generalizing p with
  | nil => rfl
  | cons line lines ih =>
    obtain ⟨q, fed, coherent, -⟩ := h.feed_cases line
    rw [feedAll, fed, List.map_cons, after_cons, call_feed fed]
    exact ih coherent

@[simp] theorem fedLines_map_feed (lines : List Text) : fedLines (lines.map .feed) = lines := by
  simp [fedLines, List.filterMap_map]

theorem fedLines_append (calls more : List Call) :
    fedLines (calls ++ more) = fedLines calls ++ fedLines more :=
  List.filterMap_append

/-- A fresh parser after it has been fed some lines, with no harvest in between. -/
def fed (limit : Nat) (lines : List Text) : Parser := (fresh limit).after (lines.map .feed)

theorem fed_append (limit : Nat) (lines more : List Text) :
    fed limit (lines ++ more) = (fed limit lines).after (more.map .feed) := by
  rw [fed, List.map_append, after_append]
  rfl

theorem fed_concat (limit : Nat) (lines : List Text) (line : Text) :
    fed limit (lines ++ [line]) = (fed limit lines).call (.feed line) :=
  fed_append limit lines [line]

theorem coherent_fed (limit : Nat) (lines : List Text) : (fed limit lines).Coherent :=
  coherent_after limit _

theorem feedAll_fresh (limit : Nat) (lines : List Text) :
    (fresh limit).feedAll lines = .ok (fed limit lines) :=
  (coherent_fresh limit).feedAll_eq lines

end Parser

end LinkDefinitions
