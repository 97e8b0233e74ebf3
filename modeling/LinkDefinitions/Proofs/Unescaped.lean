import LinkDefinitions.Proofs.Cursor
import LinkDefinitions.Proofs.Escapes

/-!
# Escapes told by counting backslashes

The scans find out what is escaped by going through a text from left to right. A character is
escaped exactly if it is punctuation and an odd number of backslashes stand in a row right before it
(`mem_escapes_iff_escapedAt`), so where a scan stops can be told without going through the text. The
body of a label, the body of a title and a destination in angle brackets end at the first unescaped
character among those that may not stand in them (`StopsAt.splitBefore_eq`).

In terms of cursors, the escapes are those of the text ahead of the cursor (`scans_stop_at_first`).
-/

namespace LinkDefinitions

variable {a b marks t : Text} {stop : Glyph → Bool} {c q : Char} {j k : Nat}

/-! ### Counting backslashes -/

/-- The number of backslashes in a row that end right before a position. -/
def backslashesBefore (t : Text) (k : Nat) : Nat := ((t.take k).rtakeWhile (· == '\\')).length

/-- Whether the character at a position is punctuation with an odd number of backslashes in a row
right before it. -/
def escapedAt (t : Text) (k : Nat) : Bool :=
  t[k]?.any isPunctuation && backslashesBefore t k % 2 == 1

theorem drop_of_getElem? (h : t[k]? = some c) : t.drop k = c :: t.drop (k + 1) := by
  obtain ⟨inside, rfl⟩ := List.getElem?_eq_some_iff.1 h
  exact List.drop_eq_getElem_cons inside

theorem take_of_getElem? (h : t[k]? = some c) : t.take (k + 1) = t.take k ++ [c] := by
  rw [List.take_add_one, h]
  rfl

theorem backslashesBefore_succ (h : t[k]? = some c) :
    backslashesBefore t (k + 1) = if c = '\\' then backslashesBefore t k + 1 else 0 := by
  rw [backslashesBefore, take_of_getElem? h, List.rtakeWhile_concat]
  by_cases backslash : c = '\\'
  · simp [backslash, backslashesBefore]
  · simp [backslash]

theorem zero_not_mem_escapes : 0 ∉ Scan.escapes t :=
  fun mem => absurd (Scan.pos_of_mem_escapes mem).1 (lt_irrefl 0)

/-- A position is escaped if an unescaped backslash stands before it, and punctuation at it. -/
theorem succ_mem_escapes_iff :
    k + 1 ∈ Scan.escapes t ↔
      t[k]? = some '\\' ∧ k ∉ Scan.escapes t ∧
        ∃ c, t[k + 1]? = some c ∧ isPunctuation c = true := by
  rw [Scan.mem_escapes_iff]
  constructor
  · rintro ⟨a, c, b, rfl, length, eq⟩
    obtain rfl : k = a.length := Nat.succ_inj.1 length
    have mark := isPunctuation_of_glyphs_eq eq
    rw [← glyphs_escaped_cons mark] at eq
    exact ⟨by simp, glyphs_append_iff.1 eq, c, by simp, mark⟩
  · rintro ⟨backslash, unescaped, c, next, mark⟩
    have inside : k < t.length := (List.getElem?_eq_some_iff.1 backslash).1
    have behind : t.drop k = '\\' :: c :: t.drop (k + 1 + 1) := by
      rw [drop_of_getElem? backslash, drop_of_getElem? next]
    have whole : t.take k ++ '\\' :: c :: t.drop (k + 1 + 1) = t := by
      rw [← behind, List.take_append_drop]
    have length : (t.take k).length = k := List.length_take_of_le inside.le
    refine ⟨t.take k, c, t.drop (k + 1 + 1), whole.symm, by rw [length], ?_⟩
    rw [← glyphs_escaped_cons mark]
    nth_rewrite 1 [← whole]
    refine glyphs_append_iff.2 ?_
    rwa [whole, length]

/-- The escaped positions are told by counting backslashes. -/
theorem mem_escapes_iff_escapedAt : k ∈ Scan.escapes t ↔ escapedAt t k = true := by
  induction k with
  | zero => simp [zero_not_mem_escapes, escapedAt, backslashesBefore]
  | succ k ih =>
    rw [succ_mem_escapes_iff, ih]
    cases before : t[k]? with
    | none =>
      have outside : t[k + 1]? = none := by
        rw [List.getElem?_eq_none_iff] at before ⊢
        omega
      simp [escapedAt, outside]
    | some c =>
      by_cases backslash : c = '\\'
      · -- A backslash is punctuation itself, so it is escaped if the number before it is odd.
        subst backslash
        have here : escapedAt t k = true ↔ backslashesBefore t k % 2 = 1 := by
          have mark : isPunctuation '\\' = true := by decide
          simp [escapedAt, before, mark]
        have parity : ¬ backslashesBefore t k % 2 = 1 ↔ (backslashesBefore t k + 1) % 2 = 1 := by
          omega
        rw [here, parity, escapedAt, backslashesBefore_succ before, if_pos rfl]
        cases t[k + 1]? <;> simp [and_comm]
      · simp [escapedAt, backslashesBefore_succ before, backslash]

/-! ### The first unescaped character -/

/-- Whether one of the given characters stands unescaped at a position. -/
def unescapedAt (marks t : Text) (k : Nat) : Bool := t[k]?.any marks.contains && !escapedAt t k

/-- The first position at which one of the given characters stands unescaped. -/
def firstUnescaped (marks t : Text) : Option Nat :=
  (List.range t.length).find? (unescapedAt marks t)

theorem unescapedAt_iff :
    unescapedAt marks t k = true ↔ ∃ c ∈ marks, t[k]? = some c ∧ k ∉ Scan.escapes t := by
  rw [unescapedAt, mem_escapes_iff_escapedAt]
  cases t[k]? <;> simp

theorem firstUnescaped_eq_some_iff :
    firstUnescaped marks t = some k ↔
      unescapedAt marks t k = true ∧ ∀ j < k, unescapedAt marks t j = false := by
  have inside : unescapedAt marks t k = true → k < t.length := by
    rw [unescapedAt_iff]
    rintro ⟨c, -, here, -⟩
    exact (List.getElem?_eq_some_iff.1 here).1
  rw [firstUnescaped, List.find?_range_eq_some, List.mem_range]
  simp only [Bool.not_eq_true']
  exact ⟨fun h => ⟨h.1, h.2.2⟩, fun h => ⟨h.1, inside h.1, h.2⟩⟩

theorem exists_of_firstUnescaped (h : firstUnescaped marks t = some k) :
    ∃ c ∈ marks, t[k]? = some c ∧ k ∉ Scan.escapes t :=
  unescapedAt_iff.1 (firstUnescaped_eq_some_iff.1 h).1

/-- A split stops at the unescaped characters among some, and a backslash is not one of them. -/
structure StopsAt (stop : Glyph → Bool) (marks : Text) : Prop where
  plain : ∀ c, stop (.plain c) = marks.contains c
  escaped : ∀ c, stop (.escaped c) = false
  backslash : '\\' ∉ marks

/-- A glyph of a text at which a split stops stands unescaped at a position. -/
theorem StopsAt.exists_unescapedAt (h : StopsAt stop marks) {g : Glyph} (mem : g ∈ glyphs t)
    (stops : stop g = true) : ∃ k < t.length, unescapedAt marks t k = true := by
  cases g with
  | escaped c => exact absurd stops (by simp [h.escaped c])
  | plain c =>
    obtain ⟨before, after, eq⟩ := List.append_of_mem mem
    obtain ⟨first, second⟩ := glyphs_source_of_append eq
    have whole : source before ++ c :: source after = t := by
      rw [← source_glyphs t, eq, source_append, source_cons]
      rfl
    have marked : c ∈ marks := by simpa [h.plain c] using stops
    subst whole
    refine ⟨(source before).length, by simp, unescapedAt_iff.2 ⟨c, marked, by simp, ?_⟩⟩
    refine glyphs_append_iff.1 ?_
    have rest : c :: source after = source (.plain c :: after) := rfl
    rw [eq, first, rest, second]

theorem escapedAt_take (h : j < k) : escapedAt (t.take k) j = escapedAt t j := by
  have whole : (t.take k).take j = t.take j := by rw [List.take_take, Nat.min_eq_left h.le]
  rw [escapedAt, escapedAt, backslashesBefore, backslashesBefore, whole, List.getElem?_take,
    if_pos h]

theorem StopsAt.clear_take (h : StopsAt stop marks) (no : ∀ j < k, unescapedAt marks t j = false) :
    Clear stop (t.take k) := by
  refine fun g mem => Bool.eq_false_iff.2 fun stops => ?_
  obtain ⟨j, inside, yes⟩ := h.exists_unescapedAt mem stops
  have before : j < k := inside.trans_le (List.length_take_le k t)
  rw [unescapedAt, escapedAt_take before, List.getElem?_take, if_pos before] at yes
  exact Bool.eq_false_iff.1 (no j before) yes

/-- **The split** is before the first unescaped character at which it stops. -/
theorem StopsAt.splitBefore_eq (h : StopsAt stop marks) (t : Text) :
    splitBefore stop t =
      match firstUnescaped marks t with
      | none => (t, [])
      | some k => (t.take k, t.drop k) := by
  cases first : firstUnescaped marks t with
  | none =>
    rw [firstUnescaped, List.find?_range_eq_none] at first
    have clear := h.clear_take (k := t.length) (t := t) (by simpa using first)
    rw [List.take_length] at clear
    exact splitBefore_eq_self_iff.2 clear
  | some k =>
    have before := (firstUnescaped_eq_some_iff.1 first).2
    obtain ⟨c, marked, at_k, unescaped⟩ := exists_of_firstUnescaped first
    have inside : k < t.length := (List.getElem?_eq_some_iff.1 at_k).1
    have whole := List.take_append_drop k t
    have backslash : c ≠ '\\' := fun same => h.backslash (same ▸ marked)
    refine splitBefore_eq_iff.2 ⟨whole, ?_, h.clear_take before, ?_⟩
    · nth_rewrite 1 [← whole]
      refine glyphs_append_iff.2 ?_
      rwa [whole, List.length_take_of_le inside.le]
    · rw [drop_of_getElem? at_k, glyphs_cons backslash]
      simpa [h.plain c] using marked

namespace Scan

/-! ### Where the scans stop -/

/-- The characters at which a title ends, well or badly, if the given character closes it. -/
def titleMarks (closer : Char) : Text := if closer = ')' then ['(', ')'] else [closer]

theorem stopsAt_isBracket : StopsAt isBracket ['[', ']'] where
  plain c := by
    rw [Bool.eq_iff_iff]
    simp [isBracket]
  escaped _ := rfl
  backslash := by decide

theorem stopsAt_endsTitle (backslash : q ≠ '\\') : StopsAt (endsTitle [q]) (titleMarks q) where
  plain c := by
    by_cases round : q = ')'
    · by_cases opening : c = '(' <;> by_cases closing : c = ')' <;>
        simp [endsTitle, titleMarks, round, opening, closing]
    · by_cases closing : c = q <;> simp [endsTitle, titleMarks, round, closing, backslash]
  escaped _ := rfl
  backslash := by
    unfold titleMarks
    split
    · decide
    · simpa using backslash.symm

theorem stopsAt_endsAngled : StopsAt endsAngled ['\n', '<', '>'] where
  plain c := by
    rw [Bool.eq_iff_iff]
    simp [endsAngled, or_assoc]
  escaped _ := rfl
  backslash := by decide

theorem upTo_append (h : StopsAt stop marks) (scan : upTo stop q t = some (a, b)) : a ++ b = t := by
  have backslash : stop (.plain '\\') = false := by simpa [h.plain] using h.backslash
  exact ((upTo_eq_some_iff h.escaped backslash).1 scan).1

/-- A body goes up to the first unescaped character at which it ends. -/
theorem upTo_eq (h : StopsAt stop marks) (q : Char) (t : Text) :
    upTo stop q t =
      match firstUnescaped marks t with
      | none => some (t, [])
      | some k => if t[k]? = some q then some (t.take k, t.drop k) else none := by
  rw [upTo, h.splitBefore_eq]
  cases first : firstUnescaped marks t with
  | none => rfl
  | some k =>
    obtain ⟨c, -, here, -⟩ := exists_of_firstUnescaped first
    simp [drop_of_getElem? here, here]

theorem angled_eq (t : Text) :
    angled t =
      match firstUnescaped ['\n', '<', '>'] t with
      | none => none
      | some k =>
        if t[k]? = some '>' then some (t.take k ++ ['>'], t.drop (k + 1)) else none := by
  rw [angled, stopsAt_endsAngled.splitBefore_eq]
  cases first : firstUnescaped ['\n', '<', '>'] t with
  | none => rfl
  | some k =>
    obtain ⟨c, -, here, -⟩ := exists_of_firstUnescaped first
    by_cases closing : c = '>'
    · simp [drop_of_getElem? here, here, closing]
    · simp [drop_of_getElem? here, here, closing]

end Scan

/-- A backslash closes no title. -/
theorem ne_backslash_of_titleCloser {o : Char} (h : titleCloser? o = some q) : q ≠ '\\' := by
  rintro rfl
  obtain ⟨before, after, split, -⟩ := List.lookup_eq_some_iff.1 h
  have all : titleDelimiters.all (fun pair => pair.2 != '\\') = true := by decide
  exact absurd (List.all_eq_true.1 all (o, '\\') (by simp [split])) (by simp)

namespace Cursor

variable {source : Text} {p : Nat}

theorem before_drop (inside : p ≤ source.length) :
    before source (source.drop p) = ⟨source, p⟩ := by
  simp only [before, List.length_drop, mk.injEq, true_and]
  omega

/-- A scan from a position leads to the position before what it leaves of the rest of the line. -/
theorem scanWith_at {scan : Text → Option (Text × Text)} (inside : p ≤ source.length)
    (loses_nothing : ∀ {a b}, scan (source.drop p) = some (a, b) → a ++ b = source.drop p) :
    scanWith scan ⟨source, p⟩ =
      .ok ((scan (source.drop p)).map fun (_, rest) => before source rest) := by
  rw [← before_drop inside]
  exact scanWith_before (List.drop_suffix p source) loses_nothing

theorem before_drop_drop (inside : p ≤ source.length) (h : k ≤ (source.drop p).length) :
    before source ((source.drop p).drop k) = ⟨source, p + k⟩ := by
  rw [List.length_drop] at h
  rw [List.drop_drop, before_drop (by omega), Int.natCast_add]

/-- A body that is looked for from a position goes up to the first unescaped character at which it
ends. -/
theorem scanWith_upTo (h : StopsAt stop marks) (q : Char) (inside : p ≤ source.length) :
    scanWith (Scan.upTo stop q) ⟨source, p⟩ =
      .ok (match firstUnescaped marks (source.drop p) with
        | none => some ⟨source, source.length⟩
        | some k => if source[p + k]? = some q then some ⟨source, p + k⟩ else none) := by
  rw [scanWith_at inside (Scan.upTo_append h), Scan.upTo_eq h]
  cases first : firstUnescaped marks (source.drop p) with
  | none => simp [before]
  | some k =>
    obtain ⟨c, -, here, -⟩ := exists_of_firstUnescaped first
    have bound := (List.getElem?_eq_some_iff.1 here).1
    simp only [← List.getElem?_drop]
    by_cases closing : (source.drop p)[k]? = some q
    · simp only [if_pos closing, Option.map_some, before_drop_drop inside bound.le]
    · simp only [if_neg closing, Option.map_none]

/-- A destination in angle brackets goes up to the first unescaped bracket, which has to be a
closing one. -/
theorem rawDestination_angled (h : source[p]? = some '<') :
    rawDestination ⟨source, p⟩ =
      .ok (match firstUnescaped ['\n', '<', '>'] (source.drop (p + 1)) with
        | none => none
        | some k =>
          if source[p + 1 + k]? = some '>' then
            some ((source.drop (p + 1)).take k, ⟨source, p + 1 + k + 1⟩)
          else none) := by
  have inside : p < source.length := (List.getElem?_eq_some_iff.1 h).1
  rw [← before_drop inside.le, rawDestination_before (List.drop_suffix p source),
    drop_of_getElem? h, Scan.rawDestination, Scan.destination, Scan.angled_eq]
  cases first : firstUnescaped ['\n', '<', '>'] (source.drop (p + 1)) with
  | none => rfl
  | some k =>
    obtain ⟨c, -, here, -⟩ := exists_of_firstUnescaped first
    simp only [← List.getElem?_drop]
    by_cases closing : (source.drop (p + 1))[k]? = some '>'
    · have bound := (List.getElem?_eq_some_iff.1 here).1
      have after :
          before source ((source.drop (p + 1)).drop (k + 1)) = ⟨source, p + 1 + k + 1⟩ := by
        rw [before_drop_drop inside bound, mk.injEq]
        exact ⟨rfl, by omega⟩
      simp only [if_pos closing, Scan.taking, Option.map_some, Scan.stripAngles,
        List.dropLast_concat, after]
    · simp only [if_neg closing]
      rfl

/-- **The first unescaped mark** decides. The text ahead of a cursor is a label body up to the first
unescaped square bracket, which has to be a closing one, and a title body up to the first unescaped
mark that closes it, before which no unescaped opening parenthesis may stand if a closing one is
looked for. Both bodies go to the end of the line if there is no such character. Behind an angle
bracket it is a destination up to the first unescaped angle bracket or line feed, which has to be a
closing angle bracket. -/
theorem scans_stop_at_first (source : Text) (p : Nat) (inside : p ≤ source.length) :
    scanLabel ⟨source, p⟩ =
        .ok (match firstUnescaped ['[', ']'] (source.drop p) with
          | none => some ⟨source, source.length⟩
          | some k => if source[p + k]? = some ']' then some ⟨source, p + k⟩ else none) ∧
      (∀ o q, titleCloser? o = some q →
        scanTitle [q] ⟨source, p⟩ =
          .ok (match firstUnescaped (Scan.titleMarks q) (source.drop p) with
            | none => some ⟨source, source.length⟩
            | some k => if source[p + k]? = some q then some ⟨source, p + k⟩ else none)) ∧
      (source[p]? = some '<' →
        rawDestination ⟨source, p⟩ =
          .ok (match firstUnescaped ['\n', '<', '>'] (source.drop (p + 1)) with
            | none => none
            | some k =>
              if source[p + 1 + k]? = some '>' then
                some ((source.drop (p + 1)).take k, ⟨source, p + 1 + k + 1⟩)
              else none)) := by
  refine ⟨?_, fun o q closes => ?_, rawDestination_angled⟩
  · have same : Scan.label = Scan.upTo Scan.isBracket ']' := funext Scan.label_eq_upTo
    rw [scanLabel, same]
    exact scanWith_upTo Scan.stopsAt_isBracket ']' inside
  · have same : Scan.title [q] = Scan.upTo (Scan.endsTitle [q]) q := funext (Scan.title_eq_upTo q)
    rw [scanTitle, same]
    exact scanWith_upTo (Scan.stopsAt_endsTitle (ne_backslash_of_titleCloser closes)) q inside

/-- A line with escaped and unescaped marks. -/
def markedLine : Text := "[<a\\>b\\\\> c\\] (d] )".toList

theorem scans_stop_at_first_markedLine :
    scanLabel ⟨markedLine, 1⟩ = .ok (some ⟨markedLine, 16⟩) ∧
      scanTitle [')'] ⟨markedLine, 1⟩ = .ok none ∧
      scanTitle ['"'] ⟨markedLine, 1⟩ = .ok (some ⟨markedLine, 19⟩) ∧
      rawDestination ⟨markedLine, 1⟩ = .ok (some ("a\\>b\\\\".toList, ⟨markedLine, 9⟩)) := by
  obtain ⟨label, title, angled⟩ := scans_stop_at_first markedLine 1 (by decide)
  refine ⟨label.trans ?_, (title '(' ')' rfl).trans ?_, (title '"' '"' rfl).trans ?_,
    (angled rfl).trans ?_⟩ <;> decide

end Cursor

end LinkDefinitions
