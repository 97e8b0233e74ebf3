import LinkDefinitions.Proofs.CursorAhead
import LinkDefinitions.Proofs.Scan

/-!
# The loops behind the operations of a cursor

The operations of `Cursor` are said by the text ahead. Here they are said as loops that take one
character after another (`Cursor.Loop.run`): a loop asks for a character only where the line is not
over, and then it ends, moves on by the character, or moves on over an escape. From a negative
position a loop goes on behind the last character of the line with its first one, so the text that
it passes is the text ahead of the cursor, and it comes to what the operation comes to.

`unchecked_positions` says at which positions the operations are out of range and where they lead
from all others.
-/

namespace LinkDefinitions

namespace Cursor

variable {c next : Cursor} {t : Text} {ch d : Char} {fault : Fault}

/-! ### Loops -/

theorem advance_decreases (h : ¬ c.atEnd = true) :
    ((c.advance 1).source.length - (c.advance 1).pos).toNat <
      (c.source.length - c.pos).toNat := by
  rw [atEnd, decide_eq_true_eq] at h
  simp only [advance]
  omega

/-- The cursor behind a backslash, and behind the punctuation character after it, if one follows. -/
def skipEscape (c : Cursor) : Except Fault Cursor :=
  let next := c.advance 1
  if next.atEnd then .ok next
  else do
    let ch ← next.current
    return if isPunctuation ch then next.advance 1 else next

theorem skipEscape_decreases (h : ¬ c.atEnd = true) (skip : c.skipEscape = .ok next) :
    (next.source.length - next.pos).toNat < (c.source.length - c.pos).toNat := by
  have first := advance_decreases h
  unfold skipEscape at skip
  dsimp only at skip
  split at skip
  · obtain rfl := Except.ok.inj skip
    exact first
  · next inside =>
    have second := advance_decreases inside
    cases eq : (c.advance 1).current with
    | error fault =>
      rw [eq] at skip
      cases skip
    | ok ch =>
      rw [eq] at skip
      obtain rfl := Except.ok.inj skip
      split
      · exact second.trans first
      · exact first

/-- What a loop does at a character. -/
inductive Turn (σ ρ : Type)
  /-- It ends with a result. -/
  | leave (result : ρ)
  /-- It goes on behind the character. -/
  | pass (state : σ)
  /-- It goes on behind the escape that begins with the character. -/
  | escape

/-- A loop over the characters from a cursor on, with a state. -/
structure Loop (σ ρ : Type) where
  /-- What it does at the character of a cursor. -/
  turn : σ → Cursor → Char → Turn σ ρ
  /-- What it comes to at the end of the line. -/
  last : σ → Cursor → ρ

variable {σ ρ : Type} {l : Loop σ ρ} {state after : σ} {result : ρ}

/-- Takes turn after turn, as long as the line is not over. -/
def Loop.run (l : Loop σ ρ) (state : σ) (c : Cursor) : Except Fault ρ :=
  if _ : c.atEnd then .ok (l.last state c)
  else
    match c.current with
    | .error fault => .error fault
    | .ok ch =>
      match l.turn state c ch with
      | .leave result => .ok result
      | .pass after => l.run after (c.advance 1)
      | .escape =>
        match _ : c.skipEscape with
        | .error fault => .error fault
        | .ok next => l.run state next
  termination_by (c.source.length - c.pos).toNat
  decreasing_by
  · exact advance_decreases ‹_›
  · exact skipEscape_decreases ‹_› ‹_›

/-! ### One turn, by the text ahead -/

theorem skipEscape_cons (h : c.ahead = .ok (ch :: d :: t)) :
    c.skipEscape = .ok (if isPunctuation d then c.forward 2 else c.forward 1) := by
  have behind := ahead_forward_one h
  rw [skipEscape, advance_one h, atEnd_of_ahead_cons behind, current_of_ahead behind,
    advance_one behind, forward_forward]
  rfl

/-- A backslash that escapes nothing is passed alone. -/
theorem skipEscape_lone (h : c.ahead = .ok (ch :: t))
    (lone : ∀ d ∈ t.head?, isPunctuation d = false) : c.skipEscape = .ok (c.forward 1) := by
  cases t with
  | nil =>
    have behind := ahead_forward_one h
    rw [skipEscape, advance_one h]
    exact if_pos (atEnd_of_ahead_nil behind)
  | cons d t =>
    rw [skipEscape_cons h, lone d rfl]
    rfl

namespace Loop

theorem run_fault (h : c.ahead = .error fault) : l.run state c = .error fault := by
  rw [run, dif_neg (by simp [atEnd_of_ahead_error h]), current_of_ahead_error h]

theorem run_nil (h : c.ahead = .ok []) : l.run state c = .ok (l.last state c) := by
  rw [run, dif_pos (atEnd_of_ahead_nil h)]

theorem run_cons (h : c.ahead = .ok (ch :: t)) :
    l.run state c =
      match l.turn state c ch with
      | .leave result => .ok result
      | .pass after => l.run after (c.forward 1)
      | .escape =>
        match c.skipEscape with
        | .error fault => .error fault
        | .ok next => l.run state next := by
  rw [run, dif_neg (by simp [atEnd_of_ahead_cons h]), current_of_ahead h, ← advance_one h]
  dsimp only
  split
  · rfl
  · rfl
  · split <;> simp_all

theorem run_leave (h : c.ahead = .ok (ch :: t)) (turn : l.turn state c ch = .leave result) :
    l.run state c = .ok result := by
  rw [run_cons h, turn]

theorem run_pass (h : c.ahead = .ok (ch :: t)) (turn : l.turn state c ch = .pass after) :
    l.run state c = l.run after (c.forward 1) := by
  rw [run_cons h, turn]

theorem run_lone (h : c.ahead = .ok (ch :: t)) (turn : l.turn state c ch = .escape)
    (lone : ∀ d ∈ t.head?, isPunctuation d = false) :
    l.run state c = l.run state (c.forward 1) := by
  rw [run_cons h, turn, skipEscape_lone h lone]

theorem run_escaped (h : c.ahead = .ok (ch :: d :: t)) (turn : l.turn state c ch = .escape)
    (mark : isPunctuation d = true) : l.run state c = l.run state (c.forward 2) := by
  rw [run_cons h, turn, skipEscape_cons h, if_pos mark]

end Loop

/-! ### Loops that look for a mark -/

section Seek

variable {stop : Glyph → Bool} {l : Loop Unit ρ} {found : Cursor → Char → ρ}

/-- A loop that goes on to the first glyph of some, each of which is one character other than a
backslash. -/
structure Loop.Seeks (l : Loop Unit ρ) (stop : Glyph → Bool) (found : Cursor → Char → ρ) :
    Prop where
  escaped : ∀ d, stop (.escaped d) = false
  backslash : stop (.plain '\\') = false
  escape : ∀ c, l.turn () c '\\' = .escape
  pass : ∀ c ch, ch ≠ '\\' → stop (.plain ch) = false → l.turn () c ch = .pass ()
  leave : ∀ c ch, ch ≠ '\\' → stop (.plain ch) = true → l.turn () c ch = .leave (found c ch)

/-- What a loop that looks for a mark comes to, by what a split takes and leaves. -/
def Loop.outcome (l : Loop Unit ρ) (found : Cursor → Char → ρ) (c : Cursor) : Text × Text → ρ
  | (body, []) => l.last () (c.forward body.length)
  | (body, ch :: _) => found (c.forward body.length) ch

theorem Loop.outcome_forward (l : Loop Unit ρ) (found : Cursor → Char → ρ) (c : Cursor) (s : Text)
    (parts : Text × Text) :
    l.outcome found (c.forward s.length) parts = l.outcome found c (s ++ parts.1, parts.2) := by
  obtain ⟨body, _ | ⟨ch, rest⟩⟩ := parts
  · simp only [Loop.outcome, forward_forward, List.length_append]
  · simp only [Loop.outcome, forward_forward, List.length_append]

/-- A loop that looks for a mark splits the text ahead. -/
theorem Loop.Seeks.run_eq (h : l.Seeks stop found) (ahead : c.ahead = .ok t) :
    l.run () c = .ok (l.outcome found c (splitBefore stop t)) := by
  induction t using glyph_induction generalizing c with
  | nil =>
    show _ = Except.ok (l.last () (c.forward 0))
    rw [forward_zero, run_nil ahead]
  | plain ch t other ih =>
    have eq := glyphs_cons other t
    by_cases stops : stop (.plain ch) = true
    · -- The mark is right ahead, so nothing has been passed.
      rw [splitBefore_stop eq stops]
      show _ = Except.ok (found (c.forward 0) ch)
      rw [forward_zero, run_leave ahead (h.leave c ch other stops)]
    · rw [Bool.not_eq_true] at stops
      rw [splitBefore_pass eq stops, run_pass ahead (h.pass c ch other stops),
        ih (ahead_forward_one ahead)]
      exact congrArg Except.ok (l.outcome_forward found c [ch] _)
  | lone t lone ih =>
    rw [splitBefore_pass (glyphs_lone lone) h.backslash, run_lone ahead (h.escape c) lone,
      ih (ahead_forward_one ahead)]
    exact congrArg Except.ok (l.outcome_forward found c ['\\'] _)
  | escaped d t mark ih =>
    have behind : (c.forward 2).ahead = .ok t := ahead_forward (s := ['\\', d]) ahead
    rw [splitBefore_pass (glyphs_escaped_cons mark t) (h.escaped d),
      run_escaped ahead (h.escape c) mark, ih behind]
    exact congrArg Except.ok (l.outcome_forward found c ['\\', d] _)

/-- The cursor at a mark that a loop has found, unless it is a wrong one. -/
def atMark (wrong : Char → Bool) (c : Cursor) (ch : Char) : Option Cursor :=
  if wrong ch then none else some c

/-- A loop that stops at a mark or at the end of the line is a scan by a split. -/
theorem Loop.Seeks.run_eq_scanWith {l : Loop Unit (Option Cursor)} {wrong : Char → Bool}
    (h : l.Seeks stop (atMark wrong)) (last : ∀ c, l.last () c = some c)
    {scan : Text → Option (Text × Text)}
    (split : ∀ t, scan t =
      if (splitBefore stop t).2.head?.any wrong then none else some (splitBefore stop t))
    (c : Cursor) : l.run () c = c.scanWith scan := by
  cases eq : c.ahead with
  | error fault => rw [run_fault eq, scanWith_fault eq]
  | ok t =>
    rw [h.run_eq eq, scanWith_of_ahead eq, split]
    obtain ⟨body, _ | ⟨ch, rest⟩⟩ := splitBefore stop t
    · exact congrArg Except.ok (last _)
    · show Except.ok (atMark wrong _ ch) = _
      rw [atMark, List.head?_cons, Option.any_some]
      split <;> rfl

end Seek

/-! ### Blanks, labels and titles -/

/-- Passes blanks. -/
def blanksLoop : Loop Unit Cursor where
  turn _ c ch := if isBlank ch then .pass () else .leave c
  last _ c := c

/-- Passes the body of a label. -/
def labelLoop : Loop Unit (Option Cursor) where
  turn _ c ch :=
    if ch = '\\' then .escape
    else if ch = ']' then .leave (some c)
    else if ch = '[' then .leave none
    else .pass ()
  last _ c := some c

/-- Passes the body of a title that the given text closes. -/
def titleLoop (closing : Text) : Loop Unit (Option Cursor) where
  turn _ c ch :=
    if ch = '\\' then .escape
    else if [ch] = closing then .leave (some c)
    else if closing = [')'] ∧ ch = '(' then .leave none
    else .pass ()
  last _ c := some c

theorem blanksLoop_of_ahead (ahead : c.ahead = .ok t) :
    blanksLoop.run () c = .ok (c.forward (t.takeWhile isBlank).length) := by
  induction t generalizing c with
  | nil =>
    rw [Loop.run_nil ahead, List.takeWhile_nil, List.length_nil, forward_zero]
    rfl
  | cons ch t ih =>
    by_cases blank : isBlank ch = true
    · have passes : blanksLoop.turn () c ch = .pass () := if_pos blank
      rw [Loop.run_pass ahead passes, ih (ahead_forward_one ahead), forward_forward,
        List.takeWhile_cons_of_pos blank, List.length_cons, Nat.add_comm]
    · have leaves : blanksLoop.turn () c ch = .leave c := if_neg blank
      rw [Loop.run_leave ahead leaves, List.takeWhile_cons_of_neg blank, List.length_nil,
        forward_zero]

theorem blanksLoop_run (c : Cursor) : blanksLoop.run () c = c.skipBlanks := by
  cases eq : c.ahead with
  | error fault => rw [Loop.run_fault eq, skipBlanks_fault eq]
  | ok t => rw [blanksLoop_of_ahead eq, skipBlanks_of_ahead eq]

theorem labelLoop_seeks : labelLoop.Seeks Scan.isBracket (atMark (· == '[')) where
  escaped _ := rfl
  backslash := rfl
  escape _ := rfl
  pass c ch other goes_on := by
    have apart : ch ≠ '[' ∧ ch ≠ ']' := by simpa [Scan.isBracket] using goes_on
    simp [labelLoop, other, apart]
  leave c ch other stops := by
    have bracket : ch = '[' ∨ ch = ']' := by simpa [Scan.isBracket] using stops
    rcases bracket with rfl | rfl <;> rfl

theorem labelLoop_run (c : Cursor) : labelLoop.run () c = c.scanLabel := by
  refine labelLoop_seeks.run_eq_scanWith (fun _ => rfl) (fun t => ?_) c
  unfold Scan.label
  obtain ⟨body, _ | ⟨ch, rest⟩⟩ := splitBefore Scan.isBracket t <;> simp

theorem titleLoop_seeks (closing : Text) :
    (titleLoop closing).Seeks (Scan.endsTitle closing)
      (atMark fun ch => closing == [')'] && ch == '(') where
  escaped _ := rfl
  backslash := rfl
  escape _ := rfl
  pass c ch other goes_on := by
    have apart : ¬ [ch] = closing ∧ (closing = [')'] → ¬ ch = '(') := by
      simpa [Scan.endsTitle, other] using goes_on
    simpa [titleLoop, other, apart.1] using apart.2
  leave c ch other stops := by
    have ends : [ch] = closing ∨ closing = [')'] ∧ ch = '(' := by
      simpa [Scan.endsTitle, other] using stops
    rcases ends with rfl | ⟨rfl, rfl⟩
    · have right : ¬ (ch = ')' ∧ ch = '(') := by
        rintro ⟨rfl, opening⟩
        exact absurd opening (by decide)
      simp [titleLoop, atMark, other, right]
    · rfl

theorem titleLoop_run (closing : Text) (c : Cursor) :
    (titleLoop closing).run () c = c.scanTitle closing := by
  refine (titleLoop_seeks closing).run_eq_scanWith (fun _ => rfl) (fun t => ?_) c
  unfold Scan.title
  obtain ⟨body, _ | ⟨ch, rest⟩⟩ := splitBefore (Scan.endsTitle closing) t <;> simp

/-! ### Destinations -/

/-- Passes a destination behind its opening angle bracket. -/
def angledLoop : Loop Unit (Option Cursor) where
  turn _ c ch :=
    if ch = '\\' then .escape
    else if ch = '\n' ∨ ch = '<' then .leave none
    else if ch = '>' then .leave (some (c.advance 1))
    else .pass ()
  last _ _ := none

/-- The cursor after a bare destination, which is not empty and closes what it opens. -/
def closed (start : Int) (depth : Nat) (c : Cursor) : Option Cursor :=
  if c.pos = start ∨ depth ≠ 0 then none else some c

/-- Passes a bare destination, with the number of parentheses that are open. -/
def bareLoop (start : Int) : Loop Nat (Option Cursor) where
  turn depth c ch :=
    if ch = ' ' ∨ isControl ch then .leave (closed start depth c)
    else if ch = '\\' then .escape
    else if ch = '(' then
      if maxParenDepth < depth + 1 then .leave none else .pass (depth + 1)
    else if ch = ')' then
      if depth = 0 then .leave (closed start depth c) else .pass (depth - 1)
    else .pass depth
  last := closed start

/-- Passes a destination in either of its forms. -/
def destinationLoop (c : Cursor) : Except Fault (Option Cursor) :=
  if c.atEnd then .ok none
  else do
    match ← c.expect ['<'] with
    | some inside => angledLoop.run () inside
    | none => (bareLoop c.pos).run 0 c

theorem angledLoop_seeks :
    angledLoop.Seeks Scan.endsAngled
      fun c ch => if ch = '>' then some (c.advance 1) else none where
  escaped _ := rfl
  backslash := rfl
  escape _ := rfl
  pass c ch other goes_on := by
    have apart : (ch ≠ '\n' ∧ ch ≠ '<') ∧ ch ≠ '>' := by
      simpa [Scan.endsAngled] using goes_on
    simp [angledLoop, other, apart]
  leave c ch other stops := by
    have ends : (ch = '\n' ∨ ch = '<') ∨ ch = '>' := by simpa [Scan.endsAngled] using stops
    rcases ends with (rfl | rfl) | rfl <;> rfl

theorem angledLoop_run (c : Cursor) : angledLoop.run () c = c.scanWith Scan.angled := by
  cases eq : c.ahead with
  | error fault => rw [Loop.run_fault eq, scanWith_fault eq]
  | ok t =>
    rw [angledLoop_seeks.run_eq eq, scanWith_of_ahead eq, Scan.angled]
    have whole := splitBefore_append Scan.endsAngled t
    generalize splitBefore Scan.endsAngled t = parts at whole ⊢
    obtain ⟨body, _ | ⟨ch, rest⟩⟩ := parts
    · rfl
    · by_cases closing : ch = '>'
      · subst closing
        rw [← whole] at eq
        have moved := advance_one (ahead_forward eq)
        show Except.ok (some ((c.forward body.length).advance 1)) =
          Except.ok (some (c.forward (body ++ ['>']).length))
        rw [moved, forward_forward, List.length_append, List.length_singleton]
      · show Except.ok (if ch = '>' then _ else _) = _
        simp [closing]

section Bare

variable {depth : Nat} {start : Int} {gs rest : List Glyph}
  {scan : Option (List Glyph × List Glyph)}

/-- The cursor after the glyphs that a scan of a bare destination takes. -/
def closedAfter (start : Int) (c : Cursor) (scan : Option (List Glyph × List Glyph)) :
    Option Cursor :=
  scan.bind fun (taken, _) => closed start 0 (c.forward (LinkDefinitions.source taken).length)

theorem closedAfter_taking (g : Glyph) :
    closedAfter start c (Scan.taking g scan) =
      closedAfter start (c.forward g.source.length) scan := by
  cases scan with
  | none => rfl
  | some parts =>
    obtain ⟨taken, rest⟩ := parts
    simp [closedAfter, Scan.taking, forward_forward]

theorem closedAfter_nil :
    closedAfter start c (if depth = 0 then some ([], rest) else none) = closed start depth c := by
  by_cases balanced : depth = 0
  · simp [closedAfter, balanced, forward_zero]
  · simp [closedAfter, closed, balanced]

/-- At a character that is no backslash a loop goes on where a scan goes on, and otherwise it ends
with what the scan takes. -/
theorem bareLoop_turn (other : ch ≠ '\\') (shallow : depth ≤ maxParenDepth) :
    (∃ after ≤ maxParenDepth, (bareLoop start).turn depth c ch = .pass after ∧
        Scan.bareGlyphs depth (.plain ch :: gs) =
          Scan.taking (.plain ch) (Scan.bareGlyphs after gs)) ∨
      (bareLoop start).turn depth c ch =
        .leave (closedAfter start c (Scan.bareGlyphs depth (.plain ch :: gs))) := by
  rw [Scan.bareGlyphs]
  by_cases ends : ch = ' ' ∨ isControl ch = true
  · rw [if_pos ends, closedAfter_nil]
    exact .inr (if_pos ends)
  by_cases opening : ch = '('
  · by_cases deep : depth = maxParenDepth
    · have deeper : maxParenDepth < depth + 1 := by omega
      simp only [bareLoop, if_neg ends, if_neg other, if_pos opening, if_pos deep, if_pos deeper]
      exact .inr rfl
    · have within : ¬ maxParenDepth < depth + 1 := by omega
      simp only [bareLoop, if_neg ends, if_neg other, if_pos opening, if_neg deep, if_neg within]
      exact .inl ⟨depth + 1, by omega, rfl, rfl⟩
  by_cases closing : ch = ')'
  · by_cases balanced : depth = 0
    · have balances : closedAfter start c (some ([], .plain ch :: gs)) = closed start depth c := by
        simp [closedAfter, balanced, forward_zero]
      simp only [bareLoop, if_neg ends, if_neg other, if_neg opening, if_pos closing,
        if_pos balanced, balances]
      exact .inr trivial
    · simp only [bareLoop, if_neg ends, if_neg other, if_neg opening, if_pos closing,
        if_neg balanced]
      exact .inl ⟨depth - 1, by omega, rfl, rfl⟩
  · simp only [bareLoop, if_neg ends, if_neg other, if_neg opening, if_neg closing]
    exact .inl ⟨depth, shallow, rfl, rfl⟩

theorem bareLoop_of_ahead (ahead : c.ahead = .ok t) (shallow : depth ≤ maxParenDepth) :
    (bareLoop start).run depth c =
      .ok (closedAfter start c (Scan.bareGlyphs depth (glyphs t))) := by
  induction t using glyph_induction generalizing c depth with
  | nil =>
    rw [Loop.run_nil ahead, glyphs_nil, Scan.bareGlyphs, closedAfter_nil]
    rfl
  | plain ch t other ih =>
    rw [glyphs_cons other]
    rcases bareLoop_turn other shallow with ⟨after, bound, passes, goes_on⟩ | leaves
    · rw [Loop.run_pass ahead passes, ih (ahead_forward_one ahead) bound, goes_on,
        closedAfter_taking]
      rfl
    · exact Loop.run_leave ahead leaves
  | lone t lone ih =>
    -- A backslash is no control character, so both begin an escape with it.
    rw [glyphs_lone lone, Scan.bareGlyphs, Loop.run_lone ahead rfl lone,
      ih (ahead_forward_one ahead) shallow]
    exact congrArg Except.ok (closedAfter_taking (.plain '\\')).symm
  | escaped d t mark ih =>
    have behind : (c.forward 2).ahead = .ok t := ahead_forward (s := ['\\', d]) ahead
    rw [glyphs_escaped_cons mark, Scan.bareGlyphs, Loop.run_escaped ahead rfl mark,
      ih behind shallow]
    exact congrArg Except.ok (closedAfter_taking (.escaped d)).symm

theorem closedAfter_bareGlyphs (c : Cursor) (t : Text) :
    closedAfter c.pos c (Scan.bareGlyphs 0 (glyphs t)) =
      (Scan.bare t).map fun (taken, _) => c.forward taken.length := by
  unfold Scan.bare
  cases Scan.bareGlyphs 0 (glyphs t) with
  | none => rfl
  | some parts =>
    obtain ⟨_ | ⟨g, gs⟩, rest⟩ := parts
    · simp [closedAfter, closed, forward]
    · have taken : (LinkDefinitions.source (g :: gs)).length ≠ 0 := by
        cases g <;> simp [Glyph.source]
      have moved : ¬ ((c.forward (LinkDefinitions.source (g :: gs)).length).pos = c.pos ∨
          0 ≠ 0) := by
        simp only [forward]
        omega
      exact if_neg moved

end Bare

theorem destinationLoop_eq (c : Cursor) : c.destinationLoop = c.scanDestination := by
  unfold destinationLoop scanDestination
  cases eq : c.ahead with
  | error fault =>
    rw [atEnd_of_ahead_error eq, scanWith_fault eq, expect, eq]
    rfl
  | ok t =>
    cases t with
    | nil =>
      rw [atEnd_of_ahead_nil eq, scanWith_of_ahead eq]
      rfl
    | cons ch t =>
      rw [atEnd_of_ahead_cons eq, scanWith_of_ahead eq, expect, eq]
      by_cases bracket : ch = '<'
      · subst bracket
        show angledLoop.run () (c.forward 1) = _
        rw [angledLoop_run, scanWith_of_ahead (ahead_forward_one eq), Scan.destination]
        cases Scan.angled t with
        | none => rfl
        | some parts =>
          obtain ⟨taken, rest⟩ := parts
          simp [Scan.taking, forward_forward, Nat.add_comm]
      · have bare : Scan.destination (ch :: t) = Scan.bare (ch :: t) :=
          Scan.destination_eq_bare (by simpa using bracket)
        have other : ¬ [ch] = ['<'] := by simpa using bracket
        show (do
          match ← Except.ok (if [ch] = ['<'] then some (c.forward 1) else none) with
          | some inside => angledLoop.run () inside
          | none => (bareLoop c.pos).run 0 c : Except Fault (Option Cursor)) = _
        rw [if_neg other, bare, ← closedAfter_bareGlyphs]
        exact bareLoop_of_ahead eq (Nat.zero_le _)

/-! ### Unchecked positions -/

/-- A cursor in the line of another one, at least so many characters further on. It is not beyond
the end of the line, unless the other one is: that one has no characters ahead of it, so its place
is kept. -/
structure Onward (least : Nat) (c next : Cursor) : Prop where
  source_eq : next.source = c.source
  forward : c.pos + least ≤ next.pos
  bounded : next.pos ≤ max c.pos c.source.length

/-- What is done from a cursor at any position, where `cursor?` is the cursor that it leads to. It
is out of range exactly at a position further before the start than the line is long, no character
is asked for past the end, and at all other positions there is a result. -/
structure Unchecked (least : Nat) (c : Cursor) (cursor? : ρ → Option Cursor)
    (outcome : Except Fault ρ) : Prop where
  outOfRange_iff : outcome = .error .outOfRange ↔ c.pos < -c.source.length
  ne_pastEnd : ∀ pos, outcome ≠ .error (.pastEnd pos)
  ends : -c.source.length ≤ c.pos →
    ∃ found, outcome = .ok found ∧ ∀ next, cursor? found = some next → Onward least c next

variable {least k : Nat} {cursor? : ρ → Option Cursor} {outcome : Except Fault ρ}
  {scan : Text → Option (Text × Text)}

theorem onward_forward (ahead : c.ahead = .ok t) (enough : least ≤ k) (within : k ≤ t.length) :
    Onward least c (c.forward k) := by
  have length := length_ahead ahead
  refine ⟨rfl, ?_, ?_⟩
  · simp only [forward]
    omega
  · simp only [forward]
    omega

theorem onward_of_scan (loses_nothing : ∀ {a b}, scan t = some (a, b) → a ++ b = t)
    (takes : ∀ {a b}, scan t = some (a, b) → least ≤ a.length) (ahead : c.ahead = .ok t)
    (found : ((scan t).map fun (taken, _) => c.forward taken.length) = some next) :
    Onward least c next := by
  obtain ⟨⟨taken, rest⟩, scanned, rfl⟩ := Option.map_eq_some_iff.1 found
  have within : taken.length ≤ t.length := by
    rw [← loses_nothing scanned, List.length_append]
    omega
  exact onward_forward ahead (takes scanned) within

/-- What can be read from a cursor at all decides. -/
theorem unchecked_of_ahead (fails : ∀ fault, c.ahead = .error fault → outcome = .error fault)
    (ends : ∀ t, c.ahead = .ok t →
      ∃ found, outcome = .ok found ∧ ∀ next, cursor? found = some next → Onward least c next) :
    Unchecked least c cursor? outcome := by
  cases eq : c.ahead with
  | error fault =>
    obtain ⟨rfl, before⟩ := ahead_eq_error_iff.1 eq
    have failed := fails _ eq
    refine ⟨by simp [failed, before], by simp [failed], fun inside => ?_⟩
    omega
  | ok t =>
    obtain ⟨found, eq_found, onward⟩ := ends t eq
    have inside : ¬ c.pos < -c.source.length := by
      intro before
      rw [ahead_eq_error_iff.2 ⟨rfl, before⟩] at eq
      cases eq
    exact ⟨by simp [eq_found, inside], by simp [eq_found], fun _ => ⟨found, eq_found, onward⟩⟩

theorem unchecked_skipBlanks (c : Cursor) : Unchecked 0 c some c.skipBlanks := by
  refine unchecked_of_ahead (fun _ eq => skipBlanks_fault eq)
    (fun t eq => ⟨_, skipBlanks_of_ahead eq, fun next found => ?_⟩)
  obtain rfl := Option.some.inj found
  exact onward_forward eq (Nat.zero_le _) (List.takeWhile_prefix isBlank).length_le

theorem unchecked_scanWith (loses_nothing : ∀ {t a b}, scan t = some (a, b) → a ++ b = t)
    (c : Cursor) : Unchecked 0 c id (c.scanWith scan) :=
  unchecked_of_ahead (fun _ eq => scanWith_fault eq) fun _ eq =>
    ⟨_, scanWith_of_ahead eq, fun _ => onward_of_scan loses_nothing (fun _ => Nat.zero_le _) eq⟩

theorem unchecked_rawDestination (c : Cursor) :
    Unchecked 1 c (Option.map Prod.snd) c.rawDestination := by
  refine unchecked_of_ahead (fun fault eq => ?_) (fun t eq => ?_)
  · rw [rawDestination, scanDestination, scanWith_fault eq]
    rfl
  · have scanned : c.scanDestination = _ := scanWith_of_ahead eq
    rw [rawDestination, scanned]
    refine ⟨_, rfl, fun next found => ?_⟩
    simp only [Option.map_map, Function.comp_def] at found
    refine onward_of_scan Scan.destination_append (fun scanned => ?_) eq found
    exact List.length_pos_iff.2 (Scan.destination_ne_nil scanned)

/-- **Unchecked positions.** At every position, in a line or out of it, skipping blanks and scanning
the body of a label or of a title, whatever text closes it, and a destination come to what their
loops come to. They are out of range exactly where the position is further before the start than the
line is long, and never past the end. Everywhere else they come to a result, and where they lead to
a cursor it is in the same line, not before the position and no further than the end of the line,
but at the position itself if that is no longer in the line. A destination leads to a cursor behind
the position. -/
theorem unchecked_positions (c : Cursor) (closing : Text) :
    (blanksLoop.run () c = c.skipBlanks ∧ Unchecked 0 c some c.skipBlanks) ∧
      (labelLoop.run () c = c.scanLabel ∧ Unchecked 0 c id c.scanLabel) ∧
      ((titleLoop closing).run () c = c.scanTitle closing ∧
        Unchecked 0 c id (c.scanTitle closing)) ∧
      c.destinationLoop = c.scanDestination ∧
        Unchecked 1 c (Option.map Prod.snd) c.rawDestination :=
  ⟨⟨blanksLoop_run c, unchecked_skipBlanks c⟩,
    ⟨labelLoop_run c, unchecked_scanWith Scan.label_append c⟩,
    ⟨titleLoop_run closing c, unchecked_scanWith Scan.title_append c⟩,
    destinationLoop_eq c, unchecked_rawDestination c⟩

/-- From the last character of a line a scan goes on with the first one. -/
example : scanLabel ⟨"a]b".toList, -1⟩ = .ok (some ⟨"a]b".toList, 1⟩) := by decide

end Cursor

end LinkDefinitions
