import LinkDefinitions.Proofs.Parser.Coherent

/-!
# What a parser reports

A parser reports each definition when it is found for good, and the line that makes a paragraph of
the block. `Reports p q` says that nothing else was reported from `p` to `q`, which holds of every
move (`Move.reports`), and `Breaks p line stage q` says what is reported when `line` makes a
paragraph of the block: the definitions that were settled in this line, and then the stage in which
a step did not match.

Over a history the notices are those of the definitions found, in order, with the notice of the
broken line among them as soon as the block is a paragraph; only one notice can follow that one
(`notices_after`).
-/

namespace LinkDefinitions

/-- The notice that reports a definition. -/
def Definition.notice (d : Definition) : Notice := .finalized d.label d.destination

namespace Notice

/-- The notice reports a definition. -/
def isFinalized : Notice → Bool
  | finalized .. => true
  | _ => false

/-- The notice reports the line that makes a paragraph of its block. -/
def isDemoted : Notice → Bool
  | demoted .. => true
  | _ => false

end Notice

namespace Parser

variable {p q r : Parser} {line t u : Text} {stage : Stage}

/-! ### Definitions and their notices -/

/-- From `p` to `q` some definitions were found for good, and these were reported, in order. -/
def Reports (p q : Parser) : Prop :=
  ∃ ds, q.finalized = p.finalized ++ ds ∧ q.notices = p.notices ++ ds.map Definition.notice

theorem Reports.of_eq (finalized : q.finalized = p.finalized) (notices : q.notices = p.notices) :
    Reports p q :=
  ⟨[], by rw [finalized, List.append_nil], by rw [notices, List.map_nil, List.append_nil]⟩

theorem Reports.trans (first : Reports p q) (second : Reports q r) : Reports p r := by
  obtain ⟨ds, finalized, notices⟩ := first
  obtain ⟨es, finalized', notices'⟩ := second
  refine ⟨ds ++ es, ?_, ?_⟩
  · rw [finalized', finalized, List.append_assoc]
  · rw [notices', notices, List.map_append, List.append_assoc]

theorem reports_settled (p : Parser) : Reports p p.settled := by
  refine ⟨(p.pending.map Draft.resolved).toList, rfl, ?_⟩
  show p.notices ++ _ = _
  cases p.pending <;> rfl

/-- A move reports the definition that it settles, and nothing else. -/
theorem Move.reports (h : p.Coherent) (move : p.Move t q u) : Reports p q := by
  cases move with
  | skipTitle stage blank solid other settled =>
    rw [h.finalize_eq] at settled
    obtain rfl := Except.ok.inj settled
    exact (reports_settled p).trans (.of_eq rfl rfl)
  | @closeTitle label destination raw body _ _ _ stage encloses blank settled =>
    obtain ⟨key, -⟩ := h.allows stage
    rw [Parser.finalize_eq (by simpa using key)] at settled
    obtain rfl := Except.ok.inj settled
    have titled :=
      reports_settled { p with pending := some ⟨label, destination, some (raw ++ body)⟩ }
    exact titled.trans (.of_eq rfl rfl)
  | openLabel | extendLabel | closeLabel | endDestination | passDestination | openTitle
  | extendTitle => exact .of_eq rfl rfl

/-! ### The line that makes a paragraph -/

/-- Reading goes on, step after step, from `p` with `t` unread to `q` with `u` unread. -/
inductive Comes : Parser → Text → Parser → Text → Prop
  | here (p : Parser) (t : Text) : Comes p t p t
  | step {p q r : Parser} {t u v : Text} (nonempty : t ≠ []) (step : p.step t = .ok (some (q, u)))
      (rest : Comes q u r v) : Comes p t r v

/-- The names of the stages in which a step may fail to match. -/
def failing : List Text :=
  ["start_definition".toList, "label".toList, "destination".toList, "title".toList]

/-- The line makes a paragraph of the block, since a step does not match in the given stage. It is
reported with this stage, after the definitions that were settled in the same line. -/
structure Breaks (p : Parser) (line : Text) (stage : Stage) (q : Parser) : Prop where
  fed : p.feed line = ⟨q, none⟩
  goes_on : p.stage ≠ .paragraph
  paragraph : q.stage = .paragraph
  failed : ∃ m t, Comes (p.keep line) line m t ∧ t ≠ [] ∧ m.stage = stage ∧ m.step t = .ok none
  named : stage.name ∈ failing
  reported : ∃ ds, q.finalized = p.finalized ++ ds ∧
    q.notices = p.notices ++ ds.map Definition.notice ++ [.demoted stage line]

/-- After a destination a step always matches, and in a paragraph there is none. -/
theorem name_mem_failing (stuck : p.step t = .ok none) : p.stage.name ∈ failing := by
  unfold step at stuck
  split at stuck
  · next stage =>
    rw [stage]
    show "start_definition".toList ∈ failing
    decide
  · next raw stage =>
    rw [stage]
    show "label".toList ∈ failing
    decide
  · next label stage =>
    rw [stage]
    show "destination".toList ∈ failing
    decide
  · next label destination stage =>
    cases opened : p.openTitle label destination t <;> rw [opened] at stuck <;> cases stuck
  · next label destination closing raw stage =>
    rw [stage]
    show "title".toList ∈ failing
    decide
  · cases stuck
  · cases stuck

/-- A line is read to its end with nothing but definitions reported, or up to a step that does not
match. -/
theorem Reading.reports_or_stuck (h : p.Coherent) (goes_on : p.stage ≠ .paragraph)
    (reading : Reading line p t q) :
    q.stage ≠ .paragraph ∧ Reports p q ∨
      ∃ m u, Comes p t m u ∧ u ≠ [] ∧ m.step u = .ok none ∧ Reports p m ∧ q = m.demote line := by
  induction reading with
  | finished p => exact .inl ⟨goes_on, .of_eq rfl rfl⟩
  | @demoted p t nonempty stuck =>
    exact .inr ⟨p, t, .here p t, nonempty, stuck, .of_eq rfl rfl, rfl⟩
  | moved nonempty move rest ih =>
    have first := move.reports h
    rcases ih (move.coherent h) move.ne_paragraph.2 with ⟨ends, others⟩ |
      ⟨m, v, comes, unread, stuck, others, rfl⟩
    · exact .inl ⟨ends, first.trans others⟩
    · exact .inr ⟨m, v, .step nonempty (step_eq_some_iff.2 move) comes, unread, stuck,
        first.trans others, rfl⟩

/-- Within a block of definitions a line reports definitions, or it breaks the block. -/
theorem Coherent.reports_or_breaks (h : p.Coherent) (goes_on : p.stage ≠ .paragraph)
    (line : Text) :
    ∃ q, p.feed line = ⟨q, none⟩ ∧ q.Coherent ∧
      (q.stage ≠ .paragraph ∧ Reports p q ∨ ∃ stage, Breaks p line stage q) := by
  obtain ⟨q, fed, coherent, ⟨paragraph, -⟩ | ⟨-, reading⟩⟩ := h.feed_cases line
  · exact absurd paragraph goes_on
  · have kept : (p.keep line).Coherent := h
    refine ⟨q, fed, coherent, ?_⟩
    rcases reading.reports_or_stuck kept goes_on with ⟨ends, reports⟩ |
      ⟨m, t, comes, nonempty, stuck, ⟨ds, finalized, notices⟩, rfl⟩
    · exact .inl ⟨ends, reports⟩
    · refine .inr ⟨m.stage, fed, goes_on, rfl, ⟨m, t, comes, nonempty, rfl, stuck⟩,
        name_mem_failing stuck, ds, finalized, ?_⟩
      show m.notices ++ _ = _
      rw [notices]
      rfl

/-! ### Paragraphs -/

/-- What may become of a paragraph: lines are left, and its draft is settled. -/
inductive Rests (p : Parser) : Parser → Prop
  | kept (lines : List Text) : Rests p { p with remaining := lines }
  | settled (lines : List Text) : Rests p { p.settled with remaining := lines }

theorem Rests.stage_eq (rests : Rests p q) : q.stage = p.stage := by
  cases rests <;> rfl

/-- Only the draft that was pending can still be reported. -/
theorem Rests.reports (rests : Rests p q) :
    ∃ ds, ds.length ≤ 1 ∧ q.finalized = p.finalized ++ ds ∧
      q.notices = p.notices ++ ds.map Definition.notice := by
  cases rests with
  | kept lines => exact ⟨[], Nat.zero_le 1, (List.append_nil _).symm, (List.append_nil _).symm⟩
  | settled lines =>
    refine ⟨(p.pending.map Draft.resolved).toList, ?_, rfl, ?_⟩
    · cases p.pending with
      | none => exact Nat.zero_le 1
      | some d => exact Nat.le_refl 1
    · show p.notices ++ _ = _
      cases p.pending <;> rfl

theorem call_feed_of_paragraph (paragraph : p.stage = .paragraph) (line : Text) :
    p.call (.feed line) = p.keep line :=
  call_feed (if_pos paragraph)

theorem Rests.call (rests : Rests p q) (h : q.Coherent) (paragraph : p.stage = .paragraph)
    (c : Call) : Rests p (q.call c) := by
  cases c with
  | feed line =>
    rw [call_feed_of_paragraph (rests.stage_eq.trans paragraph)]
    cases rests with
    | kept lines => exact .kept (lines ++ [line])
    | settled lines => exact .settled (lines ++ [line])
  | harvest =>
    rw [h.call_harvest]
    cases rests with
    | kept lines => exact .settled lines
    | settled lines =>
      -- A second harvest finds no draft.
      have again : Parser.settled { p.settled with remaining := lines } =
          { p.settled.settled with remaining := lines } := rfl
      rw [again, settled_settled]
      exact .settled lines

theorem Rests.after (rests : Rests p q) (h : q.Coherent) (paragraph : p.stage = .paragraph)
    (calls : List Call) : Rests p (q.after calls) := by
  induction calls generalizing q with
  | nil => exact rests
  | cons c calls ih => exact ih (rests.call h paragraph c) (h.call c)

/-! ### Histories -/

/-- What has been reported after a history: the definitions found, or those and the line that broke
the block. -/
theorem reports_after (limit : Nat) (calls : List Call) :
    ((fresh limit).after calls).stage ≠ .paragraph ∧
        Reports (fresh limit) ((fresh limit).after calls) ∨
      ∃ before line later stage q, calls = before ++ .feed line :: later ∧
        Reports (fresh limit) ((fresh limit).after before) ∧
        Breaks ((fresh limit).after before) line stage q ∧ q.Coherent ∧
        (fresh limit).after calls = q.after later := by
  induction calls using List.reverseRecOn with
  | nil => exact .inl ⟨Stage.noConfusion, .of_eq rfl rfl⟩
  | append_singleton calls c ih =>
    have coherent := coherent_after limit calls
    rw [after_concat]
    rcases ih with ⟨goes_on, reports⟩ | ⟨before, line, later, stage, q, rfl, reports, breaks, h, eq⟩
    · cases c with
      | harvest =>
        rw [coherent.call_harvest]
        exact .inl ⟨goes_on, reports.trans (reports_settled _)⟩
      | feed line =>
        obtain ⟨q, fed, h, ⟨goes_on', others⟩ | ⟨stage, breaks⟩⟩ :=
          coherent.reports_or_breaks goes_on line
        · rw [call_feed fed]
          exact .inl ⟨goes_on', reports.trans others⟩
        · exact .inr ⟨calls, line, [], stage, q, rfl, reports, breaks, h, call_feed fed⟩
    · refine .inr ⟨before, line, later ++ [c], stage, q, by simp, reports, breaks, h, ?_⟩
      rw [eq, after_concat]

/-- The notices of definitions report definitions and no broken line. -/
theorem isFinalized_of_mem {n : Notice} {ds : List Definition}
    (mem : n ∈ ds.map Definition.notice) : n.isFinalized = true ∧ n.isDemoted = false := by
  obtain ⟨d, -, rfl⟩ := List.mem_map.1 mem
  exact ⟨rfl, rfl⟩

theorem filter_isFinalized (ds : List Definition) :
    (ds.map Definition.notice).filter Notice.isFinalized = ds.map Definition.notice :=
  List.filter_eq_self.2 fun _ mem => (isFinalized_of_mem mem).1

theorem countP_isDemoted (ds : List Definition) :
    (ds.map Definition.notice).countP Notice.isDemoted = 0 := by
  refine List.countP_eq_zero.2 fun n mem => ?_
  rw [(isFinalized_of_mem mem).2]
  exact Bool.false_ne_true

/-- **What is reported.** After any history the notices of definitions are those of the definitions
found for good, one for each and in the same order. Besides these there is at most one notice, and
there is one exactly if the block is a paragraph. It reports the line that was fed when the block
became a paragraph and the stage in which a step did not match on it, after every definition found
in that line. From then on a line reports nothing, and all harvests together report at most one
definition. -/
theorem notices_after (limit : Nat) (calls : List Call) :
    let p := (fresh limit).after calls
    p.notices.filter Notice.isFinalized = p.finalized.map Definition.notice ∧
    (∀ n ∈ p.notices, n.isFinalized = true ∨ n.isDemoted = true) ∧
    p.notices.countP Notice.isDemoted ≤ 1 ∧
    (p.notices.countP Notice.isDemoted = 1 ↔ p.stage = .paragraph) ∧
    ∀ stage line, .demoted stage line ∈ p.notices →
      ∃ before later q, calls = before ++ .feed line :: later ∧
        Breaks ((fresh limit).after before) line stage q ∧
        (∀ more next, (q.after (more ++ [.feed next])).notices = (q.after more).notices) ∧
        ∀ more, ∃ ds, ds.length ≤ 1 ∧ (q.after more).finalized = q.finalized ++ ds ∧
          (q.after more).notices = q.notices ++ ds.map Definition.notice := by
  intro p
  rcases reports_after limit calls with ⟨goes_on, ds, finalized, notices⟩ |
    ⟨before, line, later, stage, q, split, ⟨bs, finalized, notices⟩, breaks, coherent, eq⟩
  · have found : p.finalized = ds := finalized
    have reported : p.notices = ds.map Definition.notice := notices
    have none_demoted : p.notices.countP Notice.isDemoted = 0 := by
      rw [reported, countP_isDemoted]
    refine ⟨?_, ?_, by omega, iff_of_false (by omega) goes_on, ?_⟩
    · rw [reported, found, filter_isFinalized]
    · intro n mem
      rw [reported] at mem
      exact .inl (isFinalized_of_mem mem).1
    · intro stage line mem
      rw [reported] at mem
      exact absurd (isFinalized_of_mem mem).1 Bool.false_ne_true
  · have rests (more : List Call) : Rests q (q.after more) :=
      (Rests.kept q.remaining).after coherent breaks.paragraph more
    obtain ⟨ds, during, reported⟩ := breaks.reported
    obtain ⟨es, -, last, closing⟩ := (rests later).reports
    have found : p.finalized = bs ++ ds ++ es := by
      show ((fresh limit).after calls).finalized = _
      rw [eq, last, during, finalized]
      rfl
    have reports : p.notices = (bs ++ ds).map Definition.notice ++
        .demoted stage line :: es.map Definition.notice := by
      show ((fresh limit).after calls).notices = _
      rw [eq, closing, reported, notices, List.map_append, List.append_assoc]
      rfl
    have one_demoted : p.notices.countP Notice.isDemoted = 1 := by
      rw [reports, List.countP_append, List.countP_cons, countP_isDemoted, countP_isDemoted]
      rfl
    have paragraph : p.stage = .paragraph := by
      show ((fresh limit).after calls).stage = _
      rw [eq, (rests later).stage_eq, breaks.paragraph]
    refine ⟨?_, ?_, one_demoted.le, iff_of_true one_demoted paragraph, ?_⟩
    · rw [reports, found, List.filter_append, List.filter_cons_of_neg Bool.false_ne_true,
        filter_isFinalized, filter_isFinalized, ← List.map_append]
    · intro n mem
      rw [reports, List.mem_append, List.mem_cons] at mem
      rcases mem with mem | rfl | mem
      · exact .inl (isFinalized_of_mem mem).1
      · exact .inr rfl
      · exact .inl (isFinalized_of_mem mem).1
    · intro stage' line' mem
      have same : Notice.demoted stage' line' = .demoted stage line := by
        rw [reports, List.mem_append, List.mem_cons] at mem
        rcases mem with mem | mem | mem
        · exact absurd (isFinalized_of_mem mem).1 Bool.false_ne_true
        · exact mem
        · exact absurd (isFinalized_of_mem mem).1 Bool.false_ne_true
      obtain ⟨rfl, rfl⟩ := Notice.demoted.inj same
      refine ⟨before, later, q, split, breaks, fun more next => ?_,
        fun more => (rests more).reports⟩
      rw [after_concat, call_feed_of_paragraph ((rests more).stage_eq.trans breaks.paragraph)]
      rfl

/-- A block that breaks within the title of its second definition, with a harvest at the end. -/
def brokenBlock : List Call :=
  [.feed "[a]: /x".toList, .feed "[b]: /y".toList, .feed "'open".toList,
    .feed "shut' late".toList, .feed "[c]: /z".toList, .harvest]

theorem notices_after_brokenBlock :
    let p := (fresh 999).after brokenBlock
    let stage := Stage.title ['b'] "/y".toList '\x27' "open\n".toList
    p.notices = [.finalized ['a'] "/x".toList, .demoted stage "shut' late".toList,
        .finalized ['b'] "/y".toList] ∧
      .demoted stage "shut' late".toList ∈ p.notices ∧
      ∃ before later q, brokenBlock = before ++ .feed "shut' late".toList :: later ∧
        Breaks ((fresh 999).after before) "shut' late".toList stage q ∧
        ∀ more next, (q.after (more ++ [.feed next])).notices = (q.after more).notices := by
  intro p stage
  have reported : p.notices = [.finalized ['a'] "/x".toList,
      .demoted stage "shut' late".toList, .finalized ['b'] "/y".toList] := by
    decide +kernel
  have mem : .demoted stage "shut' late".toList ∈ p.notices := by
    rw [reported]
    exact List.mem_cons_of_mem _ List.mem_cons_self
  obtain ⟨-, -, -, -, broken⟩ := notices_after 999 brokenBlock
  obtain ⟨before, later, q, split, breaks, silent, -⟩ := broken stage _ mem
  exact ⟨reported, mem, before, later, q, split, breaks, silent⟩

end Parser

end LinkDefinitions
