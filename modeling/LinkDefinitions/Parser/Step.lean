import LinkDefinitions.Parser.Basic
import LinkDefinitions.Scan

/-!
# One step of a parser

In each stage but a paragraph a parser reads on from the beginning of a text, the rest of its line.
A step gives the parser after it and what is still unread, or `none` if the text does not match in
the stage. A step that fails leaves the parser as it was when the fault came up. Every step that
matches makes progress (`step_progress`): it reads something, or it leaves the stage in which a
title may start, and does so only once.
-/

namespace LinkDefinitions

namespace Parser

/-- The mark after a text that has been read up to the end of a line. -/
def markAtEnd (rest : Text) : Text := if rest = [] then [continuationMark] else []

/-- Opens a label at a bracket, before which only blanks may stand. -/
def openLabel (p : Parser) (t : Text) : Option (Parser × Text) :=
  match skipBlanks t with
  | '[' :: rest => some (p.goto (.label (markAtEnd rest)), rest)
  | _ => none

/-- Reads on in a label, up to the end of the line or to the colon after the closing bracket. The
raw label may not be too long, and its key may not be empty. -/
def readLabel (p : Parser) (raw t : Text) : Option (Parser × Text) :=
  match Scan.label t with
  | none => none
  | some (body, []) => some (p.goto (.label (raw ++ body ++ [continuationMark])), [])
  | some (body, _ :: ':' :: rest) =>
    if p.labelLimit < (raw ++ body).length ∨ Label.key (raw ++ body) = [] then none
    else some (p.goto (.destination (Label.key (raw ++ body))), skipBlanks rest)
  | some (_, _ :: _) => none

/-- Reads a destination. At the end of the line it completes a draft, to which all lines so far
belong; within the line a blank has to follow. -/
def readDestination (p : Parser) (label t : Text) : Option (Parser × Text) :=
  match Scan.rawDestination (skipBlanks t) with
  | none => none
  | some (destination, rest) =>
    let after := skipBlanks rest
    if after = [] then
      some ({ p with
        stage := .startTitle label destination
        pending := some ⟨label, destination, none⟩
        remaining := [] }, [])
    else if after = rest then none
    else some (p.goto (.startTitle label destination), after)

/-- Opens a title at its opening mark. Anything else ends the definition, and another one may start
there. -/
def openTitle (p : Parser) (label destination t : Text) : Except Failure (Parser × Text) :=
  let close (rest : Text) : Except Failure (Parser × Text) := do
    return ((← p.during p.finalize).goto .startDefinition, rest)
  match skipBlanks t with
  | [] => close []
  | c :: rest =>
    match titleCloser? c with
    | none => close (c :: rest)
    | some closing =>
      .ok (p.goto (.title label destination closing (markAtEnd rest)), rest)

/-- Reads on in a title, up to the end of the line or to its closing mark, after which only blanks
may stand. The draft with the title is pending before it is settled. -/
def readTitle (p : Parser) (label destination : Text) (closing : Char) (raw t : Text) :
    Except Failure (Option (Parser × Text)) :=
  match Scan.title [closing] t with
  | none => .ok none
  | some (body, []) =>
    .ok (some (p.goto (.title label destination closing (raw ++ body ++ [continuationMark])), []))
  | some (body, _ :: rest) =>
    if skipBlanks rest = [] then do
      let titled := { p with pending := some ⟨label, destination, some (raw ++ body)⟩ }
      let q ← titled.during titled.finalize
      return some ({ q with stage := .startDefinition, remaining := [] }, [])
    else .ok none

/-- One stage of the way on the rest of a line: the parser after it and what is still unread, or
`none` if the text does not match in the stage. There is no way on from a paragraph. -/
def step (p : Parser) (t : Text) : Except Failure (Option (Parser × Text)) :=
  match p.stage with
  | .startDefinition => .ok (p.openLabel t)
  | .label raw => .ok (p.readLabel raw t)
  | .destination label => .ok (p.readDestination label t)
  | .startTitle label destination => do return some (← p.openTitle label destination t)
  | .title label destination closing raw => p.readTitle label destination closing raw t
  | .paragraph | .unknown _ => .error ⟨p, .unknownStage p.stage⟩

/-! ### Progress -/

theorem length_lt_of_openLabel {p q : Parser} {t u : Text} (h : p.openLabel t = some (q, u)) :
    u.length < t.length := by
  have shorter := length_skipBlanks_le t
  simp only [openLabel] at h
  split at h
  · next rest eq =>
    simp only [Option.some.injEq, Prod.mk.injEq] at h
    simp only [eq, List.length_cons, h.2] at shorter
    omega
  · contradiction

theorem length_lt_of_readLabel {p q : Parser} {raw t u : Text} (nonempty : t ≠ [])
    (h : p.readLabel raw t = some (q, u)) : u.length < t.length := by
  simp only [readLabel] at h
  split at h
  · contradiction
  · simp only [Option.some.injEq, Prod.mk.injEq] at h
    simpa [← h.2] using List.length_pos_iff.2 nonempty
  · next body c rest eq =>
    have whole := congrArg List.length (Scan.label_append eq)
    split at h
    · contradiction
    · have shorter := length_skipBlanks_le rest
      simp only [Option.some.injEq, Prod.mk.injEq] at h
      simp only [List.length_append, List.length_cons] at whole
      rw [← h.2]
      omega
  · contradiction

theorem length_lt_of_readDestination {p q : Parser} {label t u : Text}
    (h : p.readDestination label t = some (q, u)) : u.length < t.length := by
  simp only [readDestination] at h
  split at h
  · contradiction
  · next destination rest eq =>
    obtain ⟨⟨taken, rest'⟩, scan, eq⟩ := Option.map_eq_some_iff.1 eq
    simp only [Prod.mk.injEq] at eq
    have whole := congrArg List.length (Scan.destination_append scan)
    have taken_pos := List.length_pos_iff.2 (Scan.destination_ne_nil scan)
    have shorter := length_skipBlanks_le t
    have shorter_rest := length_skipBlanks_le rest
    rw [List.length_append, eq.2] at whole
    split at h
    · simp only [Option.some.injEq, Prod.mk.injEq] at h
      simp only [← h.2, List.length_nil]
      omega
    · split at h
      · contradiction
      · simp only [Option.some.injEq, Prod.mk.injEq] at h
        rw [← h.2]
        omega

theorem openTitle_progress {p q : Parser} {label destination t u : Text}
    (h : p.openTitle label destination t = .ok (q, u)) :
    u.length < t.length ∨ u.length ≤ t.length ∧ q.stage = .startDefinition := by
  have shorter := length_skipBlanks_le t
  simp only [openTitle] at h
  split at h
  · obtain ⟨r, -, rfl, rfl⟩ := bind_during_eq_ok_iff.1 h
    exact .inr ⟨Nat.zero_le _, rfl⟩
  · next c rest eq =>
    rw [eq, List.length_cons] at shorter
    split at h
    · obtain ⟨r, -, rfl, rfl⟩ := bind_during_eq_ok_iff.1 h
      exact .inr ⟨shorter, rfl⟩
    · simp only [Except.ok.injEq, Prod.mk.injEq] at h
      rw [← h.2]
      omega

theorem length_lt_of_readTitle {p q : Parser} {label destination raw t u : Text} {closing : Char}
    (nonempty : t ≠ []) (h : p.readTitle label destination closing raw t = .ok (some (q, u))) :
    u.length < t.length := by
  have pos := List.length_pos_iff.2 nonempty
  simp only [readTitle] at h
  split at h
  · cases h
  · simp only [Except.ok.injEq, Option.some.injEq, Prod.mk.injEq] at h
    simpa [← h.2] using pos
  · next body c rest _ =>
    split at h
    · obtain ⟨r, -, eq⟩ := bind_during_eq_ok_iff.1 h
      obtain ⟨-, rfl⟩ := Prod.mk.inj (Option.some.inj eq)
      exact pos
    · cases h

/-- A parser that looks for a title may give up without reading. -/
def idleSteps : Stage → Nat
  | .startTitle .. => 1
  | _ => 0

theorem idleSteps_le (s : Stage) : idleSteps s ≤ 1 := by
  cases s <;> simp [idleSteps]

/-- Twice the unread length, together with the idle steps that are left, decreases. -/
theorem step_progress {p q : Parser} {t u : Text} (nonempty : t ≠ [])
    (h : p.step t = .ok (some (q, u))) :
    2 * u.length + idleSteps q.stage < 2 * t.length + idleSteps p.stage := by
  have idle := idleSteps_le q.stage
  simp only [step] at h
  split at h
  · have := length_lt_of_openLabel (Except.ok.inj h)
    omega
  · have := length_lt_of_readLabel nonempty (Except.ok.inj h)
    omega
  · have := length_lt_of_readDestination (Except.ok.inj h)
    omega
  · next label destination stage =>
    have titled : p.openTitle label destination t = .ok (q, u) := by
      cases eq : p.openTitle label destination t <;> simp_all [bind, Except.bind, pure, Except.pure]
    have := openTitle_progress titled
    have idle_before : idleSteps p.stage = 1 := by rw [stage]; rfl
    rcases this with less | ⟨le, started⟩
    · omega
    · have idle_after : idleSteps q.stage = 0 := by rw [started]; rfl
      omega
  · have := length_lt_of_readTitle nonempty h
    omega
  · cases h
  · cases h

end Parser

end LinkDefinitions
