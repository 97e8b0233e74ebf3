import LinkDefinitions.Proofs.Parser.Coherent
import LinkDefinitions.Proofs.Unescaped

/-!
# Scanning line by line

A line feed is never escaped and escapes nothing, so the first unescaped mark of a text over several
lines is the first one of the first line that has any (`firstUnescaped_break`). A scan for such a
mark therefore goes on in the next line as at a beginning (`Cursor.Resumes`), and from this alone it
follows that scanning lines one at a time comes to what one scan of all of them comes to
(`Cursor.Resumes.scanLines_agree`).

A parser within a label or a title gathers raw text in this way (`Parser.gathers_unfinished`), but
for empty lines, which it does not scan.
-/

namespace LinkDefinitions

variable {a b marks t : Text} {stop : Glyph → Bool} {q : Char} {j k : Nat}

/-! ### Unescaped marks over a line feed -/

theorem unescapedAt_break_left (h : j < a.length) :
    unescapedAt marks (a ++ '\n' :: b) j = unescapedAt marks a j := by
  have same : j ∈ Scan.escapes (a ++ '\n' :: b) ↔ j ∈ Scan.escapes a := by
    rw [Scan.escapes_break, List.mem_append, List.mem_map]
    refine or_iff_left ?_
    rintro ⟨i, -, rfl⟩
    omega
  rw [Bool.eq_iff_iff, unescapedAt_iff, unescapedAt_iff, List.getElem?_append_left h, same]

theorem getElem?_break_right (a b : Text) (k : Nat) :
    (a ++ '\n' :: b)[k + (a.length + 1)]? = b[k]? := by
  rw [List.getElem?_append_right (by omega), Nat.add_comm k, Nat.add_assoc, Nat.add_sub_cancel_left,
    Nat.add_comm 1, List.getElem?_cons_succ]

theorem take_break_right (a b : Text) (k : Nat) :
    (a ++ '\n' :: b).take (k + (a.length + 1)) = a ++ '\n' :: b.take k := by
  rw [Nat.add_comm, Nat.add_assoc, List.take_length_add_append, Nat.add_comm 1, List.take_succ_cons]

theorem unescapedAt_break_right :
    unescapedAt marks (a ++ '\n' :: b) (k + (a.length + 1)) = unescapedAt marks b k := by
  have same : k + (a.length + 1) ∈ Scan.escapes (a ++ '\n' :: b) ↔ k ∈ Scan.escapes b := by
    rw [Scan.escapes_break, List.mem_append, List.mem_map]
    constructor
    · rintro (before | ⟨i, mem, eq⟩)
      · have := (Scan.pos_of_mem_escapes before).2
        omega
      · obtain rfl : i = k := by omega
        exact mem
    · exact fun mem => .inr ⟨k, mem, rfl⟩
  rw [Bool.eq_iff_iff, unescapedAt_iff, unescapedAt_iff, getElem?_break_right, same]

theorem unescapedAt_break_mid (h : '\n' ∉ marks) :
    unescapedAt marks (a ++ '\n' :: b) a.length = false := by
  simp [unescapedAt, h]

theorem firstUnescaped_eq_none_iff :
    firstUnescaped marks t = none ↔ ∀ j < t.length, unescapedAt marks t j = false := by
  rw [firstUnescaped, List.find?_range_eq_none]
  simp only [Bool.not_eq_true']

/-- The first line that has an unescaped mark decides. -/
theorem firstUnescaped_break (h : '\n' ∉ marks) (a b : Text) :
    firstUnescaped marks (a ++ '\n' :: b) =
      (firstUnescaped marks a).or ((firstUnescaped marks b).map (· + (a.length + 1))) := by
  have before (none : firstUnescaped marks a = none) :
      ∀ j < a.length + 1, unescapedAt marks (a ++ '\n' :: b) j = false := by
    intro j inside
    rcases Nat.lt_succ_iff_lt_or_eq.1 inside with earlier | rfl
    · rw [unescapedAt_break_left earlier]
      exact firstUnescaped_eq_none_iff.1 none j earlier
    · exact unescapedAt_break_mid h
  cases first : firstUnescaped marks a with
  | some k =>
    obtain ⟨here, earlier⟩ := firstUnescaped_eq_some_iff.1 first
    obtain ⟨c, -, at_k, -⟩ := exists_of_firstUnescaped first
    have inside := (List.getElem?_eq_some_iff.1 at_k).1
    refine firstUnescaped_eq_some_iff.2 ⟨?_, fun j less => ?_⟩
    · rwa [unescapedAt_break_left inside]
    · rw [unescapedAt_break_left (less.trans inside)]
      exact earlier j less
  | none =>
    -- Without a mark in the first line, a position in the other one is that many further on.
    have before := before first
    cases second : firstUnescaped marks b with
    | some k =>
      obtain ⟨here, earlier⟩ := firstUnescaped_eq_some_iff.1 second
      refine firstUnescaped_eq_some_iff.2 ⟨?_, fun j less => ?_⟩
      · rwa [unescapedAt_break_right]
      · rcases Nat.lt_or_ge j (a.length + 1) with within | behind
        · exact before j within
        · obtain ⟨i, rfl⟩ := Nat.exists_eq_add_of_le' behind
          rw [unescapedAt_break_right]
          exact earlier i (Nat.lt_of_add_lt_add_right less)
    | none =>
      refine firstUnescaped_eq_none_iff.2 fun j inside => ?_
      rcases Nat.lt_or_ge j (a.length + 1) with within | behind
      · exact before j within
      · obtain ⟨i, rfl⟩ := Nat.exists_eq_add_of_le' behind
        rw [unescapedAt_break_right]
        refine firstUnescaped_eq_none_iff.1 second i ?_
        simp only [List.length_append, List.length_cons] at inside
        omega

namespace Cursor

variable {scan : Cursor → Except Fault (Option Cursor)} {raw : Text} {n : Nat}

/-! ### Scans over a line feed -/

/-- A scan that goes on after a line feed as at a beginning: where it fails or stops before the line
feed it does so whatever follows, and where it reaches the line feed the rest decides. -/
structure Resumes (scan : Cursor → Except Fault (Option Cursor)) : Prop where
  empty : scan ⟨[], 0⟩ = .ok (some ⟨[], 0⟩)
  cases : ∀ a, scan ⟨a, 0⟩ = .ok none ∨ ∃ k : Nat, k ≤ a.length ∧ scan ⟨a, 0⟩ = .ok (some ⟨a, k⟩)
  fails : ∀ a b, scan ⟨a, 0⟩ = .ok none → scan ⟨a ++ '\n' :: b, 0⟩ = .ok none
  stops : ∀ a b (k : Nat), k < a.length → scan ⟨a, 0⟩ = .ok (some ⟨a, k⟩) →
    scan ⟨a ++ '\n' :: b, 0⟩ = .ok (some ⟨a ++ '\n' :: b, k⟩)
  goes_on : ∀ a b, scan ⟨a, 0⟩ = .ok (some ⟨a, a.length⟩) →
    scan ⟨a ++ '\n' :: b, 0⟩ = (scan ⟨b, 0⟩).map fun stop =>
      stop.map fun c => ⟨a ++ '\n' :: b, c.pos + (a.length + 1)⟩

/-- Where a scan for a mark stops that begins at the beginning. -/
def markedStop (marks : Text) (q : Char) (t : Text) : Option Nat :=
  match firstUnescaped marks t with
  | none => some t.length
  | some k => if t[k]? = some q then some k else none

theorem scanWith_upTo_zero (h : StopsAt stop marks) (q : Char) (t : Text) :
    scanWith (Scan.upTo stop q) ⟨t, 0⟩ =
      .ok ((markedStop marks q t).map fun k : Nat => ⟨t, k⟩) := by
  have zero : (⟨t, 0⟩ : Cursor) = ⟨t, (0 : Nat)⟩ := rfl
  rw [zero, scanWith_upTo h q (Nat.zero_le _), List.drop_zero, markedStop]
  cases firstUnescaped marks t with
  | none => rfl
  | some k => by_cases closing : t[k]? = some q <;> simp [closing]

theorem markedStop_le (h : markedStop marks q t = some k) : k ≤ t.length := by
  unfold markedStop at h
  split at h
  · exact (Option.some.inj h).ge
  · next first =>
    obtain ⟨c, -, here, -⟩ := exists_of_firstUnescaped first
    split at h
    · obtain rfl := Option.some.inj h
      exact (List.getElem?_eq_some_iff.1 here).1.le
    · cases h

theorem markedStop_break (inline : '\n' ∉ marks) (q : Char) (a b : Text) :
    markedStop marks q (a ++ '\n' :: b) =
      (markedStop marks q a).bind fun k =>
        if k < a.length then some k else (markedStop marks q b).map (· + (a.length + 1)) := by
  unfold markedStop
  rw [firstUnescaped_break inline]
  cases first : firstUnescaped marks a with
  | some k =>
    obtain ⟨c, -, here, -⟩ := exists_of_firstUnescaped first
    have inside := (List.getElem?_eq_some_iff.1 here).1
    simp only [Option.some_or, List.getElem?_append_left inside]
    by_cases closing : a[k]? = some q
    · simp only [if_pos closing, Option.bind_some, if_pos inside]
    · simp only [if_neg closing, Option.bind_none]
  | none =>
    cases firstUnescaped marks b with
    | none =>
      simp
      omega
    | some k =>
      simp only [Option.none_or, Option.map_some, getElem?_break_right, Option.bind_some, lt_irrefl,
        if_false]
      by_cases closing : b[k]? = some q <;> simp [closing]

/-- A scan for a mark stops at a position exactly if that is where it has to stop. -/
theorem scanWith_upTo_eq_some_iff (h : StopsAt stop marks) :
    scanWith (Scan.upTo stop q) ⟨t, 0⟩ = .ok (some ⟨t, k⟩) ↔ markedStop marks q t = some k := by
  rw [scanWith_upTo_zero h, Except.ok.injEq, Option.map_eq_some_iff]
  simp only [mk.injEq, true_and, Int.natCast_inj, exists_eq_right]

theorem scanWith_upTo_eq_none_iff (h : StopsAt stop marks) :
    scanWith (Scan.upTo stop q) ⟨t, 0⟩ = .ok none ↔ markedStop marks q t = none := by
  rw [scanWith_upTo_zero h, Except.ok.injEq, Option.map_eq_none_iff]

theorem resumes_upTo (h : StopsAt stop marks) (inline : '\n' ∉ marks) (q : Char) :
    Resumes (scanWith (Scan.upTo stop q)) where
  empty := (scanWith_upTo_eq_some_iff h).2 rfl
  cases a := by
    cases stopped : markedStop marks q a with
    | none => exact .inl ((scanWith_upTo_eq_none_iff h).2 stopped)
    | some k =>
      exact .inr ⟨k, markedStop_le stopped, (scanWith_upTo_eq_some_iff h).2 stopped⟩
  fails a b fails := by
    rw [scanWith_upTo_eq_none_iff h] at fails ⊢
    rw [markedStop_break inline, fails, Option.bind_none]
  stops a b k inside stops := by
    rw [scanWith_upTo_eq_some_iff h] at stops ⊢
    rw [markedStop_break inline, stops, Option.bind_some, if_pos inside]
  goes_on a b reaches := by
    rw [scanWith_upTo_eq_some_iff h] at reaches
    rw [scanWith_upTo_zero h, scanWith_upTo_zero h, markedStop_break inline, reaches,
      Option.bind_some, if_neg (lt_irrefl _)]
    cases markedStop marks q b <;> simp [Except.map]

/-! ### Lines one at a time -/

/-- What scanning lines one at a time comes to, unless it fails. -/
inductive Gathered
  /-- The scan has stopped within a line: the raw text before that, the number of earlier lines, and
  the position in the line. -/
  | stopped (raw : Text) (line : Nat) (pos : Int)
  /-- All lines are used up: the raw text of them. -/
  | unfinished (raw : Text)
  deriving DecidableEq, Repr

/-- Scans lines one at a time, after the raw text of some earlier lines. What is taken of each line
is added to the raw text, with a mark after a line that the scan has not finished in. -/
def scanLines (scan : Cursor → Except Fault (Option Cursor)) (raw : Text) (earlier : Nat) :
    List Text → Except Fault (Option Gathered)
  | [] => .ok (some (.unfinished raw))
  | l :: ls => do
    match ← scan ⟨l, 0⟩ with
    | none => return none
    | some stop =>
      let raw := raw ++ (⟨l, 0⟩ : Cursor).sliceTo stop.pos
      if stop.atEnd then scanLines scan (raw ++ [continuationMark]) (earlier + 1) ls
      else return some (.stopped raw earlier stop.pos)

theorem sliceTo_zero (l : Text) (k : Nat) : (⟨l, 0⟩ : Cursor).sliceTo k = l.take k := by
  have nonneg : ¬ (k : Int) < 0 := by omega
  simp [sliceTo, bound, nonneg]

section Lines

variable {l : Text} {ls : List Text}

theorem scanLines_of_fails (fails : scan ⟨l, 0⟩ = .ok none) :
    scanLines scan raw n (l :: ls) = .ok none := by
  rw [scanLines, fails]
  rfl

theorem scanLines_of_stops (inside : k < l.length) (stops : scan ⟨l, 0⟩ = .ok (some ⟨l, k⟩)) :
    scanLines scan raw n (l :: ls) = .ok (some (.stopped (raw ++ l.take k) n k)) := by
  have goes_on : (⟨l, k⟩ : Cursor).atEnd = false := by simpa [atEnd] using inside
  rw [scanLines, stops]
  show (if (⟨l, k⟩ : Cursor).atEnd then _ else _) = _
  rw [goes_on, sliceTo_zero]
  rfl

theorem scanLines_of_reaches (reaches : scan ⟨l, 0⟩ = .ok (some ⟨l, l.length⟩)) :
    scanLines scan raw n (l :: ls) =
      scanLines scan (raw ++ l ++ [continuationMark]) (n + 1) ls := by
  have ends : (⟨l, l.length⟩ : Cursor).atEnd = true := by simp [atEnd]
  rw [scanLines, reaches]
  show (if (⟨l, l.length⟩ : Cursor).atEnd then _ else _) = _
  rw [ends, sliceTo_zero, List.take_length]
  rfl

theorem exists_joinLines_cons (l : Text) (ls : List Text) : ∃ r, joinLines (l :: ls) = l ++ r := by
  by_cases last : ls = []
  · exact ⟨[], by rw [last, joinLines_singleton, List.append_nil]⟩
  · exact ⟨_, joinLines_cons l last⟩

/-- What fails or stops in the first line does so whatever follows. -/
theorem Resumes.fails_joined (h : Resumes scan) (ls : List Text) (fails : scan ⟨l, 0⟩ = .ok none) :
    scan ⟨joinLines (l :: ls), 0⟩ = .ok none := by
  by_cases last : ls = []
  · rwa [last, joinLines_singleton]
  · rw [joinLines_cons l last]
    exact h.fails l _ fails

theorem Resumes.stops_joined (h : Resumes scan) (ls : List Text) (inside : k < l.length)
    (stops : scan ⟨l, 0⟩ = .ok (some ⟨l, k⟩)) :
    scan ⟨joinLines (l :: ls), 0⟩ = .ok (some ⟨joinLines (l :: ls), k⟩) := by
  by_cases last : ls = []
  · rwa [last, joinLines_singleton]
  · rw [joinLines_cons l last]
    exact h.stops l _ k inside stops

end Lines

/-- What scanning lines one at a time has come to, against one scan of all lines: both fail, both
stop at the same place with the same raw text before it, or both reach the end, and then the raw
text is the joined one and a mark behind the last line (`terminate_eq_joinLines`). -/
inductive Agree (ls : List Text) (raw : Text) (n : Nat) :
    Except Fault (Option Gathered) → Except Fault (Option Cursor) → Prop
  | fails : Agree ls raw n (.ok none) (.ok none)
  | stops (line k place : Nat) (eq : place = (terminate (ls.take line)).length + k)
      (inside : place < (joinLines ls).length) :
      Agree ls raw n (.ok (some (.stopped (raw ++ (joinLines ls).take place) (n + line) k)))
        (.ok (some ⟨joinLines ls, place⟩))
  | reaches :
      Agree ls raw n (.ok (some (.unfinished (raw ++ terminate ls))))
        (.ok (some ⟨joinLines ls, (joinLines ls).length⟩))

variable {l : Text} {ls : List Text} {gathered : Except Fault (Option Gathered)}
  {whole : Except Fault (Option Cursor)}

/-- One line in front, in which the scan has not finished, moves the place and nothing else. -/
theorem Agree.cons (last : ls ≠ [])
    (h : Agree ls (raw ++ l ++ [continuationMark]) (n + 1) gathered whole) :
    Agree (l :: ls) raw n gathered
      (whole.map fun stop => stop.map fun c =>
        ⟨joinLines (l :: ls), c.pos + (l.length + 1)⟩) := by
  have length : (joinLines (l :: ls)).length = (joinLines ls).length + (l.length + 1) := by
    rw [joinLines_cons l last, List.length_append, List.length_cons]
    omega
  cases h with
  | fails => exact .fails
  | stops line k place eq inside =>
    have taken : (joinLines (l :: ls)).take (place + (l.length + 1)) =
        l ++ '\n' :: (joinLines ls).take place := by
      rw [joinLines_cons l last, take_break_right]
    have moved : place + (l.length + 1) = (terminate ((l :: ls).take (line + 1))).length + k := by
      simp only [eq, List.take_succ_cons, terminate_cons, List.length_append, List.length_cons]
      omega
    have stops : Agree (l :: ls) raw n _ _ :=
      .stops (line + 1) k (place + (l.length + 1)) moved (by omega)
    rw [taken] at stops
    have count : n + 1 + line = n + (line + 1) := by omega
    rw [count]
    simpa [Except.map, continuationMark] using stops
  | reaches =>
    have all : Agree (l :: ls) raw n _ _ := .reaches
    rw [length] at all
    simpa [Except.map, continuationMark] using all

/-- **Line by line.** Lines scanned one at a time come to what their joined text comes to. -/
theorem Resumes.scanLines_agree (h : Resumes scan) (ls : List Text) (raw : Text) (n : Nat) :
    Agree ls raw n (scanLines scan raw n ls) (scan ⟨joinLines ls, 0⟩) := by
  induction ls generalizing raw n with
  | nil =>
    have nothing : Agree [] raw n _ _ := .reaches
    rw [terminate_nil, List.append_nil] at nothing
    exact h.empty ▸ nothing
  | cons l ls ih =>
    -- The first line decides, unless the scan reaches its end.
    rcases h.cases l with fails | ⟨k, le, stops⟩
    · rw [scanLines_of_fails fails, h.fails_joined ls fails]
      exact .fails
    rcases le.lt_or_eq with inside | rfl
    · rw [scanLines_of_stops inside stops, h.stops_joined ls inside stops]
      obtain ⟨r, joined⟩ := exists_joinLines_cons l ls
      have taken : (joinLines (l :: ls)).take k = l.take k := by
        rw [joined, List.take_append_of_le_length le]
      have short : k < (joinLines (l :: ls)).length := by
        rw [joined, List.length_append]
        omega
      rw [← taken]
      exact .stops 0 k k (by simp) short
    · rw [scanLines_of_reaches stops]
      by_cases last : ls = []
      · subst last
        have all : Agree [l] raw n _ _ := .reaches
        rw [joinLines_singleton] at all ⊢
        rw [stops]
        simpa [scanLines, continuationMark] using all
      · rw [joinLines_cons l last, h.goes_on l (joinLines ls) stops, ← joinLines_cons l last]
        exact (ih (raw ++ l ++ [continuationMark]) (n + 1)).cons last

/-! ### Labels and titles -/

theorem resumes_scanLabel : Resumes scanLabel := by
  have same : Scan.label = Scan.upTo Scan.isBracket ']' := funext Scan.label_eq_upTo
  rw [scanLabel, same]
  exact resumes_upTo Scan.stopsAt_isBracket (by decide) ']'

theorem resumes_scanTitle {o : Char} (h : titleCloser? o = some q) : Resumes (scanTitle [q]) := by
  have same : Scan.title [q] = Scan.upTo (Scan.endsTitle [q]) q := funext (Scan.title_eq_upTo q)
  have stops := Scan.stopsAt_endsTitle (ne_backslash_of_titleCloser h)
  have inline : '\n' ∉ Scan.titleMarks q := by
    have goes_on := stops.plain '\n'
    rw [Scan.endsTitle_break h] at goes_on
    simpa using goes_on.symm
  rw [scanTitle, same]
  exact resumes_upTo stops inline q

/-- **Labels and titles line by line.** A scan of the body of a label or a title that fails or stops
before a line feed does so whatever follows the line feed, and one that reaches it goes on as at a
beginning. So lines scanned one at a time, with a mark after each in which the scan has not
finished, come to what one scan of the joined lines comes to: it fails, it stops at the same place
with the same raw text before it, or it uses up all lines and their text is the raw text. -/
theorem scans_line_by_line :
    (Resumes scanLabel ∧
        ∀ lines, Agree lines [] 0 (scanLines scanLabel [] 0 lines)
          (scanLabel ⟨joinLines lines, 0⟩)) ∧
      ∀ o q, titleCloser? o = some q →
        Resumes (scanTitle [q]) ∧
          ∀ lines, Agree lines [] 0 (scanLines (scanTitle [q]) [] 0 lines)
            (scanTitle [q] ⟨joinLines lines, 0⟩) := by
  refine ⟨⟨resumes_scanLabel, fun lines => resumes_scanLabel.scanLines_agree lines [] 0⟩, ?_⟩
  intro o q closes
  have resumes := resumes_scanTitle closes
  exact ⟨resumes, fun lines => resumes.scanLines_agree lines [] 0⟩

/-- Lines of which the first ends in a backslash, before a bracket and a parenthesis. -/
def brokenLines : List Text := ["a\\".toList, "] (".toList]

theorem scans_line_by_line_brokenLines :
    scanLines scanLabel [] 0 brokenLines = .ok (some (.stopped "a\\\n".toList 1 0)) ∧
      scanLabel ⟨joinLines brokenLines, 0⟩ = .ok (some ⟨joinLines brokenLines, 3⟩) ∧
      titleCloser? '(' = some ')' ∧
      scanLines (scanTitle [')']) [] 0 brokenLines = .ok none ∧
      scanTitle [')'] ⟨joinLines brokenLines, 0⟩ = .ok none ∧
      Agree brokenLines [] 0 (scanLines scanLabel [] 0 brokenLines)
        (scanLabel ⟨joinLines brokenLines, 0⟩) ∧
      Agree brokenLines [] 0 (scanLines (scanTitle [')']) [] 0 brokenLines)
        (scanTitle [')'] ⟨joinLines brokenLines, 0⟩) := by
  obtain ⟨label, title⟩ := scans_line_by_line
  exact ⟨by decide, by decide, rfl, by decide, by decide, label.2 brokenLines,
    (title '(' ')' rfl).2 brokenLines⟩

/-! ### What a parser gathers -/

/-- A scan that reaches the end of a line takes the whole line. -/
theorem takes_all_of_reaches {split : Text → Option (Text × Text)} {l : Text}
    (loses_nothing : ∀ {a b}, split l = some (a, b) → a ++ b = l)
    (h : scanWith split ⟨l, 0⟩ = .ok (some ⟨l, l.length⟩)) : split l = some (l, []) := by
  rw [← before_self, scanWith_before List.suffix_rfl loses_nothing] at h
  obtain ⟨⟨taken, rest⟩, scan, stop⟩ := Option.map_eq_some_iff.1 (Except.ok.inj h)
  have ends : rest = [] := by
    have place := congrArg pos stop
    simp only [before] at place
    exact List.length_eq_zero_iff.1 (by omega)
  subst ends
  have whole := loses_nothing scan
  rw [List.append_nil] at whole
  rw [scan, whole]

end Cursor

namespace Parser

open Cursor

/-- A stage that gathers the lines which a scan does not finish in gathers what scanning the lines
one at a time does. -/
theorem feedAll_of_unfinished {scan : Cursor → Except Fault (Option Cursor)}
    (resumes : Resumes scan) {f : Text → Stage} (goes_on : ∀ raw, f raw ≠ .paragraph)
    (extend : ∀ {p : Parser} {raw l : Text}, p.stage = f raw →
      scan ⟨l, 0⟩ = .ok (some ⟨l, l.length⟩) →
        p.step l = .ok (some (p.goto (f (raw ++ l ++ [continuationMark])), [])))
    {p : Parser} {raw all : Text} {n : Nat} {lines : List Text} (stage : p.stage = f raw)
    (full : [] ∉ lines)
    (unfinished : scanLines scan raw n lines = .ok (some (.unfinished all))) :
    ∃ q, p.feedAll lines = .ok q ∧ q.stage = f all := by
  induction lines generalizing p raw n with
  | nil =>
    obtain rfl : raw = all := by simpa [scanLines] using unfinished
    exact ⟨p, rfl, stage⟩
  | cons l ls ih =>
    rw [List.mem_cons, not_or] at full
    rcases resumes.cases l with fails | ⟨k, le, stops⟩
    · rw [scanLines_of_fails fails] at unfinished
      cases unfinished
    rcases le.lt_or_eq with inside | rfl
    · rw [scanLines_of_stops inside stops] at unfinished
      cases unfinished
    · rw [scanLines_of_reaches stops] at unfinished
      have kept : (p.keep l).stage = f raw := stage
      have fed : p.feed l = ⟨(p.keep l).goto (f (raw ++ l ++ [continuationMark])), none⟩ := by
        rw [feed, if_neg (stage ▸ goes_on raw),
          read_of_match (Ne.symm full.1) (extend kept stops), read_nil]
      rw [feedAll, fed]
      exact ih rfl full.2 unfinished

/-- A parser within a label or a title gathers the raw text of the lines in which the body does not
end. -/
theorem gathers_unfinished {p : Parser} {raw all : Text} {n : Nat} {lines : List Text}
    (full : [] ∉ lines) :
    (p.stage = .label raw →
        scanLines scanLabel raw n lines = .ok (some (.unfinished all)) →
        ∃ q, p.feedAll lines = .ok q ∧ q.stage = .label all) ∧
      ∀ o label destination closing, titleCloser? o = some closing →
        p.stage = .title label destination closing raw →
        scanLines (scanTitle [closing]) raw n lines = .ok (some (.unfinished all)) →
        ∃ q, p.feedAll lines = .ok q ∧ q.stage = .title label destination closing all := by
  constructor
  · intro stage unfinished
    refine feedAll_of_unfinished resumes_scanLabel (fun _ => Stage.noConfusion) ?_ stage full
      unfinished
    intro p raw l stage reaches
    rw [step, stage]
    simp only [readLabel, takes_all_of_reaches Scan.label_append reaches]
  · intro o label destination closing closes stage unfinished
    refine feedAll_of_unfinished (resumes_scanTitle closes) (fun _ => Stage.noConfusion) ?_ stage
      full unfinished
    intro p raw l stage reaches
    rw [step, stage]
    simp only [readTitle, takes_all_of_reaches Scan.title_append reaches]

end Parser

end LinkDefinitions
