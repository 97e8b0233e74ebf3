import LinkDefinitions.Proofs.Cursor
import LinkDefinitions.Proofs.Parser.Coherent

/-!
# Walking a line with a cursor

The handlers of the stages, said with a cursor in the line: each moves the cursor by the operations
of `Cursor`, any of which is a fault where nothing can be read. `stepAt_before` says that a step
with a cursor is a step on the text ahead of it, faults and what they leave included, so no cursor
is ever asked for more than there is.

`Walk line n p c outcome` is the loop that reads a line: `n` steps take the parser from `p` with its
cursor at `c` to the outcome, where the line is over, a step has not matched or a step has failed.
Every reading is a walk of at most two steps a character and one more (`read_walk`). A step fails
at a draft without a label or for its stage (`step_failure`), and neither happens to a parser with a
history: no move leads into a paragraph or to a stage that is none. So a feed fails for its stage
exactly if that is none, and then nothing has been done but to keep the line (`feed_total`).
-/

namespace LinkDefinitions

namespace Parser

variable {p q : Parser} {line t u raw label destination : Text} {closing : Char} {fault : Fault}
  {failure : Failure} {stage : Stage} {value : StrayStage}

/-! ### The handlers of the stages -/

/-- The mark after a text that has been read up to a cursor. -/
def markAt (c : Cursor) : Text := if c.atEnd then [continuationMark] else []

def openLabelAt (p : Parser) (c : Cursor) : Except Failure (Option (Parser × Cursor)) := do
  let c ← p.during c.skipBlanks
  match ← p.during (c.expect ['[']) with
  | none => return none
  | some after => return some (p.goto (.label (markAt after)), after)

def readLabelAt (p : Parser) (raw : Text) (c : Cursor) :
    Except Failure (Option (Parser × Cursor)) := do
  match ← p.during c.scanLabel with
  | none => return none
  | some stop =>
    let raw := raw ++ c.sliceTo stop.pos
    if stop.atEnd then return some (p.goto (.label (raw ++ [continuationMark])), stop)
    else
      match ← p.during (stop.expect [']']) with
      | none => return none
      | some close =>
        match ← p.during (close.expect [':']) with
        | none => return none
        | some after =>
          if p.labelLimit < raw.length ∨ Label.key raw = [] then return none
          else
            -- The stage is entered before the blanks are skipped.
            let q := p.goto (.destination (Label.key raw))
            return some (q, ← q.during after.skipBlanks)

def readDestinationAt (p : Parser) (label : Text) (c : Cursor) :
    Except Failure (Option (Parser × Cursor)) := do
  let c ← p.during c.skipBlanks
  match ← p.during c.rawDestination with
  | none => return none
  | some (destination, stop) =>
    let after ← p.during stop.skipBlanks
    if after.atEnd then
      return some ({ p with
        stage := .startTitle label destination
        pending := some ⟨label, destination, none⟩
        remaining := [] }, after)
    else if after.pos = stop.pos then return none
    else return some (p.goto (.startTitle label destination), after)

def openTitleAt (p : Parser) (label destination : Text) (c : Cursor) :
    Except Failure (Option (Parser × Cursor)) := do
  let c ← p.during c.skipBlanks
  if c.atEnd then return some ((← p.during p.finalize).goto .startDefinition, c)
  else
    match titleCloser? (← p.during c.current) with
    | none => return some ((← p.during p.finalize).goto .startDefinition, c)
    | some closing =>
      let after := c.advance 1
      return some (p.goto (.title label destination closing (markAt after)), after)

def readTitleAt (p : Parser) (label destination : Text) (closing : Char) (raw : Text)
    (c : Cursor) : Except Failure (Option (Parser × Cursor)) := do
  match ← p.during (c.scanTitle [closing]) with
  | none => return none
  | some stop =>
    let raw := raw ++ c.sliceTo stop.pos
    if stop.atEnd then
      return some (p.goto (.title label destination closing (raw ++ [continuationMark])), stop)
    else
      let after ← p.during (stop.advance 1).skipBlanks
      if after.atEnd then
        let titled := { p with pending := some ⟨label, destination, some raw⟩ }
        let q ← titled.during titled.finalize
        return some ({ q with stage := .startDefinition, remaining := [] }, after)
      else return none

/-- One stage of the way on a line, from a cursor: the parser and the cursor after it. -/
def stepAt (p : Parser) (c : Cursor) : Except Failure (Option (Parser × Cursor)) :=
  match p.stage with
  | .startDefinition => p.openLabelAt c
  | .label raw => p.readLabelAt raw c
  | .destination label => p.readDestinationAt label c
  | .startTitle label destination => p.openTitleAt label destination c
  | .title label destination closing raw => p.readTitleAt label destination closing raw c
  | .paragraph | .unknown _ => .error ⟨p, .unknownStage p.stage⟩

/-! ### Each handler reads the text ahead of its cursor -/

/-- The result of a step on a text as that of a step in `line`. -/
def within (line : Text) (result : Option (Parser × Text)) : Option (Parser × Cursor) :=
  result.map fun (q, u) => (q, Cursor.before line u)

theorem during_bind {α β : Type} (p : Parser) (a : α) (f : α → Except Failure β) :
    (p.during (.ok a) >>= f) = f a := rfl

theorem markAt_before (line t : Text) : markAt (Cursor.before line t) = markAtEnd t := by
  unfold markAt markAtEnd
  by_cases ends : t = []
  · rw [if_pos ends, if_pos ((Cursor.atEnd_before line t).2 ends)]
  · rw [if_neg ends, if_neg (mt (Cursor.atEnd_before line t).1 ends)]

theorem openLabelAt_before (h : t <:+ line) :
    p.openLabelAt (Cursor.before line t) = .ok (within line (p.openLabel t)) := by
  have skipped : skipBlanks t <:+ line := (List.dropWhile_suffix isBlank).trans h
  unfold openLabelAt openLabel
  rw [Cursor.skipBlanks_before h, during_bind]
  split
  · next rest eq =>
    rw [eq] at skipped ⊢
    rw [Cursor.expect_before_cons skipped, during_bind]
    dsimp only
    rw [markAt_before]
    rfl
  · next other =>
    have apart : (skipBlanks t).head? ≠ some '[' := by
      intro head
      obtain ⟨rest, eq⟩ := List.head?_eq_some_iff.1 head
      exact other rest eq
    rw [Cursor.expect_before_ne skipped apart]
    rfl

theorem readLabelAt_before (h : t <:+ line) :
    p.readLabelAt raw (Cursor.before line t) = .ok (within line (p.readLabel raw t)) := by
  unfold readLabelAt readLabel
  rw [Cursor.scanLabel, Cursor.scanWith_before h Scan.label_append, during_bind]
  cases eq : Scan.label t with
  | none => rfl
  | some parts =>
    obtain ⟨body, rest⟩ := parts
    obtain ⟨whole, ends⟩ := Scan.label_eq_some_iff.1 eq
    have left : rest <:+ line := List.IsSuffix.trans ⟨body, whole⟩ h
    simp only [Option.map_some, Cursor.sliceTo_before h whole]
    rcases ends with ⟨rfl, -⟩ | ⟨rest, rfl, -⟩
    · rw [if_pos ((Cursor.atEnd_before line []).2 rfl)]
      rfl
    · rw [if_neg (mt (Cursor.atEnd_before line _).1 (List.cons_ne_nil _ _)),
        Cursor.expect_before_cons left, during_bind]
      have rest_left : rest <:+ line := (List.suffix_cons _ rest).trans left
      dsimp only
      by_cases colon : rest.head? = some ':'
      · obtain ⟨after, rfl⟩ := List.head?_eq_some_iff.1 colon
        rw [Cursor.expect_before_cons rest_left, during_bind]
        dsimp only
        by_cases unfit : p.labelLimit < (raw ++ body).length ∨ Label.key (raw ++ body) = []
        · simp only [if_pos unfit]
          rfl
        · simp only [if_neg unfit,
            Cursor.skipBlanks_before ((List.suffix_cons _ after).trans rest_left)]
          rfl
      · rw [Cursor.expect_before_ne rest_left colon, during_bind]
        cases rest with
        | nil => rfl
        | cons c rest =>
          have other : c ≠ ':' := by simpa using colon
          split <;> simp_all [within, pure, Except.pure]

theorem readDestinationAt_before (h : t <:+ line) :
    p.readDestinationAt label (Cursor.before line t) =
      .ok (within line (p.readDestination label t)) := by
  have skipped : skipBlanks t <:+ line := (List.dropWhile_suffix isBlank).trans h
  unfold readDestinationAt readDestination
  rw [Cursor.skipBlanks_before h, during_bind, Cursor.rawDestination_before skipped, during_bind]
  cases eq : Scan.rawDestination (skipBlanks t) with
  | none => rfl
  | some parts =>
    obtain ⟨destination, rest⟩ := parts
    obtain ⟨w, whole, -⟩ := Scan.rawDestination_self eq
    have left : rest <:+ line := List.IsSuffix.trans ⟨w, whole⟩ skipped
    dsimp only [Option.map_some]
    rw [Cursor.skipBlanks_before left, during_bind]
    by_cases ends : skipBlanks rest = []
    · rw [if_pos ends, ends, if_pos ((Cursor.atEnd_before line []).2 rfl)]
      rfl
    · rw [if_neg ends, if_neg (mt (Cursor.atEnd_before line _).1 ends)]
      by_cases apart : skipBlanks rest = rest
      · rw [if_pos apart, apart, if_pos rfl]
        rfl
      · have moved : (Cursor.before line (skipBlanks rest)).pos ≠ (Cursor.before line rest).pos :=
          mt (Cursor.before_pos_inj (List.dropWhile_suffix isBlank)) apart
        rw [if_neg apart, if_neg moved]
        rfl

theorem openTitleAt_before (h : t <:+ line) :
    p.openTitleAt label destination (Cursor.before line t) =
      (p.openTitle label destination t).map fun result => within line (some result) := by
  have skipped : skipBlanks t <:+ line := (List.dropWhile_suffix isBlank).trans h
  have close (rest : Text) : (do
      return some ((← p.during p.finalize).goto .startDefinition, Cursor.before line rest) :
      Except Failure (Option (Parser × Cursor))) =
      Except.map (fun result => within line (some result))
        (do return ((← p.during p.finalize).goto .startDefinition, rest)) := by
    cases p.during p.finalize <;> rfl
  unfold openTitleAt openTitle
  rw [Cursor.skipBlanks_before h, during_bind]
  dsimp only
  cases eq : skipBlanks t with
  | nil =>
    rw [if_pos ((Cursor.atEnd_before line []).2 rfl)]
    exact close []
  | cons c rest =>
    rw [eq] at skipped
    rw [if_neg (mt (Cursor.atEnd_before line _).1 (List.cons_ne_nil _ _)),
      Cursor.current_before skipped, during_bind, Cursor.advance_before skipped]
    dsimp only
    cases titleCloser? c with
    | none => exact close (c :: rest)
    | some closing =>
      rw [markAt_before]
      rfl

theorem readTitleAt_before (h : t <:+ line) :
    p.readTitleAt label destination closing raw (Cursor.before line t) =
      (p.readTitle label destination closing raw t).map (within line) := by
  unfold readTitleAt readTitle
  rw [Cursor.scanTitle, Cursor.scanWith_before h Scan.title_append, during_bind]
  cases eq : Scan.title [closing] t with
  | none => rfl
  | some parts =>
    obtain ⟨body, rest⟩ := parts
    have whole := Scan.title_append eq
    have left : rest <:+ line := List.IsSuffix.trans ⟨body, whole⟩ h
    simp only [Option.map_some, Cursor.sliceTo_before h whole]
    cases rest with
    | nil =>
      rw [if_pos ((Cursor.atEnd_before line []).2 rfl)]
      rfl
    | cons c rest =>
      have rest_left : rest <:+ line := (List.suffix_cons c rest).trans left
      rw [if_neg (mt (Cursor.atEnd_before line _).1 (List.cons_ne_nil _ _)),
        Cursor.advance_before left, Cursor.skipBlanks_before rest_left, during_bind]
      dsimp only
      by_cases ends : skipBlanks rest = []
      · rw [if_pos ends, ends, if_pos ((Cursor.atEnd_before line []).2 rfl)]
        cases finalize { p with pending := some ⟨label, destination, some (raw ++ body)⟩ } <;> rfl
      · rw [if_neg ends, if_neg (mt (Cursor.atEnd_before line _).1 ends)]
        rfl

/-- A step with a cursor is a step on the text ahead of it. -/
theorem stepAt_before (h : t <:+ line) :
    p.stepAt (Cursor.before line t) = (p.step t).map (within line) := by
  unfold stepAt step
  cases p.stage with
  | startDefinition => exact openLabelAt_before h
  | label raw => exact readLabelAt_before h
  | destination label => exact readDestinationAt_before h
  | startTitle label destination =>
    dsimp only
    rw [openTitleAt_before h]
    cases p.openTitle label destination t <;> rfl
  | title label destination closing raw => exact readTitleAt_before h
  | paragraph => rfl
  | unknown value => rfl

/-! ### The loop over a line -/

/-- The loop that reads a line takes `n` steps from `p` with its cursor at `c`. At its outcome the
line is over, a step has not matched or a step has failed. -/
inductive Walk (line : Text) : Nat → Parser → Cursor → Except Failure Parser → Prop
  | finished {p : Parser} {c : Cursor} (ends : c.atEnd = true) : Walk line 0 p c (.ok p)
  | demoted {p : Parser} {c : Cursor} (goes_on : c.atEnd = false) (stuck : p.stepAt c = .ok none) :
      Walk line 1 p c (.ok (p.demote line))
  | failed {p : Parser} {c : Cursor} {failure : Failure} (goes_on : c.atEnd = false)
      (fails : p.stepAt c = .error failure) : Walk line 1 p c (.error failure)
  | moved {n : Nat} {p q : Parser} {c d : Cursor} {outcome : Except Failure Parser}
      (goes_on : c.atEnd = false) (step : p.stepAt c = .ok (some (q, d)))
      (rest : Walk line n q d outcome) : Walk line (n + 1) p c outcome

theorem before_goes_on (line : Text) (nonempty : t ≠ []) :
    (Cursor.before line t).atEnd = false :=
  Bool.eq_false_iff.2 (mt (Cursor.atEnd_before line t).1 nonempty)

/-- A reading is a walk, with at most two steps a character and an idle one. -/
theorem read_walk (p : Parser) (h : t <:+ line) :
    ∃ n ≤ 2 * t.length + idleSteps p.stage,
      Walk line n p (Cursor.before line t) (p.read line t) := by
  fun_induction read p line t with
  | case1 p => exact ⟨0, Nat.zero_le _, .finished ((Cursor.atEnd_before line []).2 rfl)⟩
  | case2 p t nonempty failure fails =>
    have goes_on := before_goes_on line nonempty
    have pos := List.length_pos_iff.2 nonempty
    refine ⟨1, by omega, .failed goes_on ?_⟩
    rw [stepAt_before h, fails]
    rfl
  | case3 p t nonempty stuck =>
    have goes_on := before_goes_on line nonempty
    have pos := List.length_pos_iff.2 nonempty
    refine ⟨1, by omega, .demoted goes_on ?_⟩
    rw [stepAt_before h, stuck]
    rfl
  | case4 p t nonempty q u step ih =>
    have goes_on := before_goes_on line nonempty
    have progress := step_progress nonempty step
    obtain ⟨n, bound, walk⟩ := ih ((step_eq_some_iff.1 step).suffix.trans h)
    refine ⟨n + 1, by omega, .moved goes_on ?_ walk⟩
    rw [stepAt_before h, step]
    rfl

/-! ### Faults -/

theorem finalize_fault (h : p.finalize = .error fault) : fault = .emptyLabel := by
  unfold finalize at h
  split at h
  · cases h
  · next draft _ =>
    unfold Draft.definition Definition.make at h
    split at h <;> simp_all [bind, Except.bind, pure, Except.pure]

/-- What is done with a settled draft fails only if the draft cannot be settled. -/
theorem bind_finalize_failure {α : Type} {f : Parser → α}
    (h : (do return f (← p.during p.finalize) : Except Failure α) = .error failure) :
    failure = ⟨p, .emptyLabel⟩ := by
  obtain ⟨fault, eq, rfl⟩ := bind_during_eq_error_iff.1 h
  rw [finalize_fault eq]

theorem openTitle_failure (h : p.openTitle label destination t = .error failure) :
    failure = ⟨p, .emptyLabel⟩ := by
  unfold openTitle at h
  dsimp only at h
  split at h
  · exact bind_finalize_failure h
  · split at h
    · exact bind_finalize_failure h
    · cases h

/-- The draft that could not be settled stays pending. -/
theorem readTitle_failure (h : p.readTitle label destination closing raw t = .error failure) :
    ∃ draft, failure = ⟨{ p with pending := some draft }, .emptyLabel⟩ := by
  unfold readTitle at h
  split at h
  · cases h
  · cases h
  · split at h
    · exact ⟨_, bind_finalize_failure h⟩
    · cases h

/-- A step fails at a draft without a label, which is then pending, or for its stage, a paragraph or
one that is none, before anything has changed. -/
theorem step_failure (h : p.step t = .error failure) :
    (∃ pending, failure = ⟨{ p with pending }, .emptyLabel⟩) ∨
      (p.stage = .paragraph ∨ ∃ value, p.stage = .unknown value) ∧
        failure = ⟨p, .unknownStage p.stage⟩ := by
  unfold step at h
  split at h
  · cases h
  · cases h
  · cases h
  · next label destination stage =>
    cases opened : p.openTitle label destination t with
    | ok result =>
      rw [opened] at h
      cases h
    | error other =>
      rw [opened] at h
      obtain rfl := Except.error.inj h
      exact .inl ⟨p.pending, openTitle_failure opened⟩
  · obtain ⟨draft, eq⟩ := readTitle_failure h
    exact .inl ⟨some draft, eq⟩
  · next stage => exact .inr ⟨.inl stage, (Except.error.inj h).symm⟩
  · next value stage => exact .inr ⟨.inr ⟨value, stage⟩, (Except.error.inj h).symm⟩

/-- A title is closed for an empty label: line, stage and the titled draft stay. -/
example :
    let stage := Stage.title [] "/x".toList '\x27' "so".toList
    feed ⟨999, stage, none, [], [], []⟩ "me'".toList =
      ⟨⟨999, stage, some ⟨[], "/x".toList, some "some".toList⟩, ["me'".toList], [], []⟩,
        some .emptyLabel⟩ := by
  decide +kernel

theorem Move.ne_unknown (move : p.Move t q u) (value : StrayStage) : q.stage ≠ .unknown value := by
  cases move <;> exact Stage.noConfusion

/-- Outside a paragraph a reading fails at a draft without a label, or in its first step for a stage
that is none: no move leads to such a stage or into a paragraph. -/
theorem read_failure (goes_on : p.stage ≠ .paragraph) (h : p.read line t = .error failure) :
    failure.fault = .emptyLabel ∨
      (∃ value, p.stage = .unknown value) ∧ failure = ⟨p, .unknownStage p.stage⟩ := by
  fun_induction read p line t with
  | case1 p => cases h
  | case2 p t nonempty failure' fails =>
    obtain rfl := Except.error.inj h
    obtain ⟨pending, rfl⟩ | ⟨paragraph | none, unchanged⟩ := step_failure fails
    · exact .inl rfl
    · exact absurd paragraph goes_on
    · exact .inr ⟨none, unchanged⟩
  | case3 p t nonempty stuck => cases h
  | case4 p t nonempty q u step ih =>
    have move := step_eq_some_iff.1 step
    rcases ih move.ne_paragraph.2 h with empty | ⟨⟨value, stage⟩, -⟩
    · exact .inl empty
    · exact absurd stage (move.ne_unknown value)

/-- In a stage that is none the first step fails, and the line has been kept. -/
theorem feed_unknown (stage : p.stage = .unknown value) (nonempty : line ≠ []) :
    p.feed line = ⟨p.keep line, some (.unknownStage p.stage)⟩ := by
  have fails : (p.keep line).step line = .error ⟨p.keep line, .unknownStage p.stage⟩ := by
    unfold step
    rw [keep_stage, stage]
  unfold feed
  rw [if_neg (stage ▸ Stage.noConfusion), read_of_failure nonempty fails]

/-- A feed that fails for a stage was in that stage, which is none. -/
theorem unknown_of_feed (h : (p.feed line).fault = some (.unknownStage stage)) :
    (∃ value, p.stage = .unknown value) ∧ line ≠ [] := by
  unfold feed at h
  dsimp only at h
  split at h
  · cases h
  · next goes_on =>
    split at h
    · cases h
    · next q fault fails =>
      obtain rfl := Option.some.inj h
      have kept : (p.keep line).stage ≠ .paragraph := goes_on
      rcases read_failure kept fails with empty | ⟨none, -⟩
      · cases empty
      · refine ⟨none, ?_⟩
        rintro rfl
        rw [read_nil] at fails
        cases fails

/-- **Totality.** After any history a harvest succeeds, and so does the feed of any line: it is read
by a walk without a fault of at most two steps a character and one more. For any parser whatever, a
feed fails for its stage exactly if that is none of the six and the line is not empty, and then
keeping the line is all that it has done. -/
theorem feed_total (limit : Nat) :
    (∀ calls : List Call,
      let p := (fresh limit).after calls
      (∃ ds q, p.harvest = .ok (ds, q)) ∧ (∃ q, p.finalize = .ok q) ∧
      ∀ line, ∃ q, p.feed line = ⟨q, none⟩ ∧
        (p.stage = .paragraph ∧ q = p.keep line ∨
          p.stage ≠ .paragraph ∧
            ∃ n ≤ 2 * line.length + 1, Walk line n (p.keep line) ⟨line, 0⟩ (.ok q))) ∧
    ∀ (p : Parser) (line : Text),
      ((∃ stage, (p.feed line).fault = some (.unknownStage stage)) ↔
        (∃ value, p.stage = .unknown value) ∧ line ≠ []) ∧
      ((∃ stage, (p.feed line).fault = some (.unknownStage stage)) ↔
        p.feed line =
          ⟨{ p with remaining := p.remaining ++ [line] }, some (.unknownStage p.stage)⟩) := by
  constructor
  · intro calls p
    have coherent : p.Coherent := coherent_after limit calls
    refine ⟨⟨_, _, coherent.harvest_eq⟩, ⟨_, coherent.finalize_eq⟩, fun line => ?_⟩
    obtain ⟨q, fed, -, kept | ⟨goes_on, reading⟩⟩ := coherent.feed_cases line
    · exact ⟨q, fed, .inl kept⟩
    · obtain ⟨n, bound, walk⟩ := read_walk (p.keep line) (List.suffix_rfl : line <:+ line)
      have idle := idleSteps_le p.stage
      rw [Cursor.before_self, read_of_reading reading] at walk
      exact ⟨q, fed, .inr ⟨goes_on, n, bound.trans (Nat.add_le_add_left idle _), walk⟩⟩
  · intro p line
    refine ⟨⟨?_, ?_⟩, ?_, fun fed => ⟨p.stage, congrArg Feeding.fault fed⟩⟩
    · rintro ⟨stage, fault⟩
      exact unknown_of_feed fault
    · rintro ⟨⟨value, stage⟩, nonempty⟩
      exact ⟨p.stage, congrArg Feeding.fault (feed_unknown stage nonempty)⟩
    · rintro ⟨stage, fault⟩
      obtain ⟨⟨value, none⟩, nonempty⟩ := unknown_of_feed fault
      exact feed_unknown none nonempty

end Parser

end LinkDefinitions
