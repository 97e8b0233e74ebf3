import LinkDefinitions.Proofs.Unescaped

/-!
# Bare destinations

How far a bare destination goes, and whether it is one, can be told from the unescaped parentheses
before each position: it goes up to the first space or control character, or up to the first
unescaped closing parenthesis that closes nothing (`bareEnd`), and it is one if it is not empty,
closes all parentheses and never nests them too deep (`scanDestination_bare`).

The invariant of the scan is in `verdict_bareGlyphs`: the parentheses it holds open at an unescaped
position are those that are open there, and what it says of the rest is right.
-/

namespace LinkDefinitions

namespace Scan

variable {t : Text} {c : Char} {d k : Nat} {gs : List Glyph}

/-- The number of unescaped opening parentheses before a position, less that of closing ones. -/
def parenDepth (t : Text) (k : Nat) : Int :=
  (List.range k).countP (unescapedAt ['('] t) - (List.range k).countP (unescapedAt [')'] t)

/-- Whether a bare destination ends before the character at a position: it is a space, a control
character, or an unescaped closing parenthesis that closes nothing. -/
def endsBareAt (t : Text) (k : Nat) : Bool :=
  t[k]?.any (fun c => c == ' ' || isControl c) || (unescapedAt [')'] t k && parenDepth t k == 0)

/-- The first position at which a bare destination ends, or the end of the text. -/
def bareEnd (t : Text) : Nat := ((List.range t.length).find? (endsBareAt t)).getD t.length

/-! ### The end -/

theorem bareEnd_cases (t : Text) :
    (bareEnd t = t.length ∨ bareEnd t < t.length ∧ endsBareAt t (bareEnd t) = true) ∧
      ∀ j < bareEnd t, endsBareAt t j = false := by
  cases found : (List.range t.length).find? (endsBareAt t) with
  | none =>
    have here : bareEnd t = t.length := by rw [bareEnd, found, Option.getD_none]
    rw [List.find?_range_eq_none] at found
    rw [here]
    exact ⟨.inl rfl, by simpa using found⟩
  | some e =>
    have here : bareEnd t = e := by rw [bareEnd, found, Option.getD_some]
    rw [List.find?_range_eq_some, List.mem_range] at found
    rw [here]
    exact ⟨.inr ⟨found.2.1, found.1⟩, by simpa using found.2.2⟩

theorem bareEnd_le (t : Text) : bareEnd t ≤ t.length := by
  rcases (bareEnd_cases t).1 with last | ⟨inside, -⟩
  · exact last.le
  · exact inside.le

theorem lt_bareEnd (before : k ≤ bareEnd t) (here : t[k]? = some c) (h : endsBareAt t k = false) :
    k < bareEnd t := by
  have inside := (List.getElem?_eq_some_iff.1 here).1
  refine lt_of_le_of_ne before ?_
  rintro rfl
  rcases (bareEnd_cases t).1 with last | ⟨-, ends⟩
  · omega
  · simp [h] at ends

theorem eq_bareEnd (before : k ≤ bareEnd t) (h : endsBareAt t k = true) : k = bareEnd t := by
  by_contra other
  have := (bareEnd_cases t).2 k (lt_of_le_of_ne before other)
  simp [h] at this

/-! ### One position -/

theorem unescapedAt_eq (here : t[k]? = some c) (unescaped : k ∉ escapes t) (q : Char) :
    unescapedAt [q] t k = decide (c = q) := by
  rw [mem_escapes_iff_escapedAt] at unescaped
  simp [unescapedAt, here, unescaped]

theorem unescapedAt_eq_false (escaped : k ∈ escapes t) (q : Char) :
    unescapedAt [q] t k = false := by
  rw [mem_escapes_iff_escapedAt] at escaped
  simp [unescapedAt, escaped]

theorem parenDepth_zero (t : Text) : parenDepth t 0 = 0 := rfl

theorem parenDepth_succ (t : Text) (k : Nat) :
    parenDepth t (k + 1) = parenDepth t k + (if unescapedAt ['('] t k then 1 else 0) -
      (if unescapedAt [')'] t k then 1 else 0) := by
  simp only [parenDepth, List.range_succ, List.countP_append, List.countP_singleton]
  split <;> split <;> omega

theorem parenDepth_succ_of_mem (escaped : k ∈ escapes t) :
    parenDepth t (k + 1) = parenDepth t k := by
  simp [parenDepth_succ, unescapedAt_eq_false escaped]

theorem parenDepth_succ_of_not_mem (here : t[k]? = some c) (unescaped : k ∉ escapes t) :
    parenDepth t (k + 1) =
      parenDepth t k + (if c = '(' then 1 else 0) - (if c = ')' then 1 else 0) := by
  simp [parenDepth_succ, unescapedAt_eq here unescaped]

theorem endsBareAt_iff (here : t[k]? = some c) (unescaped : k ∉ escapes t) :
    endsBareAt t k = true ↔ (c = ' ' ∨ isControl c = true) ∨ c = ')' ∧ parenDepth t k = 0 := by
  simp [endsBareAt, here, unescapedAt_eq here unescaped]

/-- Punctuation behind its backslash ends nothing. -/
theorem endsBareAt_eq_false (escaped : k ∈ escapes t) : endsBareAt t k = false := by
  obtain ⟨a, c, b, rfl, rfl, eq⟩ := mem_escapes_iff.1 escaped
  have mark := isPunctuation_of_glyphs_eq eq
  have all : punctuation.all (fun c => c ≠ ' ' ∧ ¬ isControl c) = true := by decide
  have solid := List.all_eq_true.1 all c ((mem_punctuation_iff c).2 mark)
  simpa [endsBareAt, unescapedAt_eq_false escaped] using solid

/-! ### One glyph -/

theorem glyphs_drop_eq_nil_iff : glyphs (t.drop k) = [] ↔ t.length ≤ k := by
  rw [glyphs_eq_nil_iff, List.drop_eq_nil_iff]

/-- A character that stands for itself at an unescaped position. -/
theorem of_glyphs_drop_plain (eq : glyphs (t.drop k) = .plain c :: gs) :
    t[k]? = some c ∧ gs = glyphs (t.drop (k + 1)) ∧ k + 1 ∉ escapes t := by
  have cut : glyphs (t.drop k) = [.plain c] ++ gs := eq
  have rest := (glyphs_source_of_append cut).2
  have whole : t.drop k = c :: source gs := by
    rw [← source_glyphs (t.drop k), eq]
    rfl
  have here : t[k]? = some c := by rw [← List.head?_drop, whole, List.head?_cons]
  have behind : t.drop (k + 1) = source gs := by
    rw [drop_of_getElem? here] at whole
    exact List.tail_eq_of_cons_eq whole
  refine ⟨here, by rw [behind, rest], fun escaped => ?_⟩
  obtain ⟨backslash, -, e, next, mark⟩ := succ_mem_escapes_iff.1 escaped
  obtain rfl : c = '\\' := Option.some.inj (here.symm.trans backslash)
  rw [drop_of_getElem? here, drop_of_getElem? next, glyphs_escaped_cons mark] at eq
  cases eq

/-- An escape at an unescaped position. -/
theorem of_glyphs_drop_escaped (eq : glyphs (t.drop k) = .escaped c :: gs)
    (unescaped : k ∉ escapes t) :
    t[k]? = some '\\' ∧ t[k + 1]? = some c ∧ gs = glyphs (t.drop (k + 2)) ∧
      k + 1 ∈ escapes t ∧ k + 2 ∉ escapes t := by
  have cut : glyphs (t.drop k) = [.escaped c] ++ gs := eq
  have rest := (glyphs_source_of_append cut).2
  have mark : isPunctuation c = true := isPunctuation_of_escaped_mem (t := t.drop k) (by simp [eq])
  have whole : t.drop k = '\\' :: c :: source gs := by
    rw [← source_glyphs (t.drop k), eq]
    rfl
  have here : t[k]? = some '\\' := by rw [← List.head?_drop, whole, List.head?_cons]
  have behind : t.drop (k + 1) = c :: source gs := by
    rw [drop_of_getElem? here] at whole
    exact List.tail_eq_of_cons_eq whole
  have next : t[k + 1]? = some c := by rw [← List.head?_drop, behind, List.head?_cons]
  have last : t.drop (k + 2) = source gs := by
    rw [drop_of_getElem? next] at behind
    exact List.tail_eq_of_cons_eq behind
  have escaped : k + 1 ∈ escapes t := succ_mem_escapes_iff.2 ⟨here, unescaped, c, next, mark⟩
  refine ⟨here, next, by rw [last, rest], escaped, fun again => ?_⟩
  exact (succ_mem_escapes_iff.1 again).2.1 escaped

/-! ### The scan -/

/-- Behind a position all parentheses are closed at the end, and never too many are open. -/
def ClosesFrom (t : Text) (k : Nat) : Prop :=
  parenDepth t (bareEnd t) = 0 ∧ ∀ j, k < j → j ≤ bareEnd t → parenDepth t j ≤ maxParenDepth

/-- What a scan from a position may give: what is left at the end, or nothing if the parentheses are
not as they must be. -/
def Verdict (t : Text) (k : Nat) : Option (List Glyph × List Glyph) → Prop
  | some (_, left) => ClosesFrom t k ∧ source left = t.drop (bareEnd t)
  | none => ¬ ClosesFrom t k

/-- A position at which not too many parentheses are open may be passed. -/
theorem closesFrom_succ_iff (shallow : k + 1 ≤ bareEnd t → parenDepth t (k + 1) ≤ maxParenDepth) :
    ClosesFrom t (k + 1) ↔ ClosesFrom t k := by
  refine and_congr_right fun _ => ⟨fun later j behind before => ?_, fun all j behind => ?_⟩
  · rcases Nat.lt_or_eq_of_le (Nat.succ_le_of_lt behind) with further | rfl
    · exact later j further before
    · exact shallow before
  · exact all j (by omega)

theorem Verdict.taking {scan : Option (List Glyph × List Glyph)} {j : Nat} (h : Verdict t j scan)
    (same : ClosesFrom t j ↔ ClosesFrom t k) (g : Glyph) : Verdict t k (taking g scan) := by
  cases scan with
  | none => exact fun closes => h (same.2 closes)
  | some parts => exact ⟨same.1 h.1, h.2⟩

/-- At the end only the depth there matters. -/
theorem closesFrom_bareEnd_iff : ClosesFrom t (bareEnd t) ↔ parenDepth t (bareEnd t) = 0 :=
  and_iff_left fun _ behind before => absurd before (Nat.not_le.2 behind)

theorem verdict_of_closed (last : k = bareEnd t) (closed : parenDepth t k = 0)
    (taken : List Glyph) : Verdict t k (some (taken, glyphs (t.drop k))) := by
  subst last
  exact ⟨closesFrom_bareEnd_iff.2 closed, source_glyphs _⟩

theorem verdict_of_open (last : k = bareEnd t) (opened : parenDepth t k ≠ 0) :
    Verdict t k none := by
  subst last
  exact fun closes => opened (closesFrom_bareEnd_iff.1 closes)

/-- The end is behind a character at which it is not. -/
theorem lt_bareEnd_of_plain (before : k ≤ bareEnd t) (here : t[k]? = some c)
    (unescaped : k ∉ escapes t)
    (goes_on : ¬ ((c = ' ' ∨ isControl c = true) ∨ c = ')' ∧ parenDepth t k = 0)) :
    k < bareEnd t :=
  lt_bareEnd before here (Bool.eq_false_iff.2 fun ends =>
    goes_on ((endsBareAt_iff here unescaped).1 ends))

/-- The scan goes on behind a character at which it does not end. -/
theorem verdict_of_plain {scan : Option (List Glyph × List Glyph)} (before : k ≤ bareEnd t)
    (here : t[k]? = some c) (unescaped : k ∉ escapes t)
    (goes_on : ¬ ((c = ' ' ∨ isControl c = true) ∨ c = ')' ∧ parenDepth t k = 0))
    (shallow : parenDepth t (k + 1) ≤ maxParenDepth)
    (h : k + 1 ≤ bareEnd t → Verdict t (k + 1) scan) : Verdict t k (taking (.plain c) scan) := by
  have further := lt_bareEnd_of_plain before here unescaped goes_on
  exact (h further).taking (closesFrom_succ_iff fun _ => shallow) _

/-- The scan is right about the rest of the text from each unescaped position on, given the number
of parentheses that are open there. -/
theorem verdict_bareGlyphs (unescaped : k ∉ escapes t) (before : k ≤ bareEnd t)
    (depth : parenDepth t k = d) (shallow : d ≤ maxParenDepth) :
    Verdict t k (bareGlyphs d (glyphs (t.drop k))) := by
  generalize eq : glyphs (t.drop k) = gs
  fun_induction bareGlyphs d gs generalizing k with
  | case1 =>
    have outside := glyphs_drop_eq_nil_iff.1 eq
    have inside := bareEnd_le t
    rw [← eq]
    exact verdict_of_closed (by omega) depth []
  | case2 d nonzero =>
    have outside := glyphs_drop_eq_nil_iff.1 eq
    have inside := bareEnd_le t
    exact verdict_of_open (by omega) (by omega)
  | case3 d c gs ih =>
    obtain ⟨here, next, rfl, escaped, behind⟩ := of_glyphs_drop_escaped eq unescaped
    have first := lt_bareEnd_of_plain before here unescaped (by simp [isControl])
    have second : k + 1 < bareEnd t := lt_bareEnd first next (endsBareAt_eq_false escaped)
    have depth' : parenDepth t (k + 1) = d := by
      simp [parenDepth_succ_of_not_mem here unescaped, depth]
    have depth'' : parenDepth t (k + 2) = d := by rw [parenDepth_succ_of_mem escaped, depth']
    refine (ih behind second depth'' shallow rfl).taking ?_ _
    rw [closesFrom_succ_iff (fun _ => by rw [depth'']; exact_mod_cast shallow),
      closesFrom_succ_iff (fun _ => by rw [depth']; exact_mod_cast shallow)]
  | case4 c gs stops =>
    obtain ⟨here, -, -⟩ := of_glyphs_drop_plain eq
    have last := eq_bareEnd before ((endsBareAt_iff here unescaped).2 (.inl stops))
    rw [← eq]
    exact verdict_of_closed last depth []
  | case5 d c gs stops nonzero =>
    obtain ⟨here, -, -⟩ := of_glyphs_drop_plain eq
    have last := eq_bareEnd before ((endsBareAt_iff here unescaped).2 (.inl stops))
    exact verdict_of_open last (by omega)
  | case6 gs goes_on =>
    obtain ⟨here, -, -⟩ := of_glyphs_drop_plain eq
    have further := lt_bareEnd_of_plain before here unescaped (by simp [isControl])
    have deep : parenDepth t (k + 1) = maxParenDepth + 1 := by
      simp [parenDepth_succ_of_not_mem here unescaped, depth]
    intro closes
    have := closes.2 (k + 1) (Nat.lt_succ_self k) further
    omega
  | case7 d gs shallower goes_on ih =>
    obtain ⟨here, rfl, behind⟩ := of_glyphs_drop_plain eq
    have deeper : parenDepth t (k + 1) = (d + 1 : Nat) := by
      simp [parenDepth_succ_of_not_mem here unescaped, depth]
    refine verdict_of_plain before here unescaped (by simp [isControl]) (by omega) fun further => ?_
    exact ih behind further deeper (by omega) rfl
  | case8 gs _ _ =>
    obtain ⟨here, -, -⟩ := of_glyphs_drop_plain eq
    have last := eq_bareEnd before ((endsBareAt_iff here unescaped).2 (.inr ⟨rfl, depth⟩))
    rw [← eq]
    exact verdict_of_closed last depth []
  | case9 d gs nonzero goes_on _ ih =>
    obtain ⟨here, rfl, behind⟩ := of_glyphs_drop_plain eq
    have less : parenDepth t (k + 1) = (d - 1 : Nat) := by
      simp [parenDepth_succ_of_not_mem here unescaped, depth]
      omega
    refine verdict_of_plain before here unescaped ?_ (by omega) fun further => ?_
    · simp [isControl, depth, nonzero]
    · exact ih behind further less (by omega) rfl
  | case10 d c gs goes_on no_opening no_closing ih =>
    obtain ⟨here, rfl, behind⟩ := of_glyphs_drop_plain eq
    have same : parenDepth t (k + 1) = d := by
      simp [parenDepth_succ_of_not_mem here unescaped, depth, no_opening, no_closing]
    refine verdict_of_plain before here unescaped ?_ (by omega) fun further => ?_
    · simp [goes_on, no_closing]
    · exact ih behind further same shallow rfl

/-- A bare destination is what stands before its end, if that is not empty and its parentheses are
as they must be. -/
theorem bare_cases (t : Text) :
    (bareEnd t = 0 ∨ ¬ ClosesFrom t 0) ∧ bare t = none ∨
      ¬ (bareEnd t = 0 ∨ ¬ ClosesFrom t 0) ∧
        bare t = some (t.take (bareEnd t), t.drop (bareEnd t)) := by
  have verdict := verdict_bareGlyphs (t := t) zero_not_mem_escapes (Nat.zero_le _)
    (parenDepth_zero t) (Nat.zero_le _)
  rw [List.drop_zero] at verdict
  unfold bare
  cases eq : bareGlyphs 0 (glyphs t) with
  | none =>
    rw [eq] at verdict
    exact .inl ⟨.inr verdict, rfl⟩
  | some parts =>
    obtain ⟨taken, left⟩ := parts
    rw [eq] at verdict
    obtain ⟨closes, behind⟩ := verdict
    have whole : source taken ++ source left = t := by
      rw [← source_append, bareGlyphs_append eq, source_glyphs]
    have value : source taken = t.take (bareEnd t) := by
      have same : source taken ++ t.drop (bareEnd t) = t.take (bareEnd t) ++ t.drop (bareEnd t) := by
        rw [List.take_append_drop, ← behind, whole]
      exact List.append_cancel_right same
    have length : (source taken).length = bareEnd t := by
      rw [value, List.length_take_of_le (bareEnd_le t)]
    cases taken with
    | nil => exact .inl ⟨.inl length.symm, rfl⟩
    | cons g gs =>
      have nonempty : bareEnd t ≠ 0 := by
        rw [← length]
        cases g <;> simp [Glyph.source]
      exact .inr ⟨fun refused => refused.elim nonempty fun opens => opens closes,
        by simp only [value, behind]⟩

theorem not_closesFrom_zero_iff :
    ¬ ClosesFrom t 0 ↔
      parenDepth t (bareEnd t) ≠ 0 ∨ ∃ k ≤ bareEnd t, 0 < k ∧ 32 < parenDepth t k := by
  have limit : (maxParenDepth : Int) = 32 := rfl
  simp only [ClosesFrom, limit, not_and_or, not_forall, exists_prop]
  exact or_congr_right (exists_congr fun k => by omega)

end Scan

namespace Cursor

open Scan (bareEnd parenDepth)

/-- **A bare destination, exactly.** Ahead of a cursor that does not stand before an angle bracket,
the end of a bare destination is told by the unescaped parentheses. There is no destination if that
end is at the cursor, if a parenthesis is still open there, or if more than 32 were open on the way.
Otherwise the destination is what stands before the end, and nothing is taken off it. -/
theorem scanDestination_bare (source : Text) (p : Nat) (inside : p ≤ source.length)
    (bare : source[p]? ≠ some '<') :
    let t := source.drop p
    let e := bareEnd t
    let refused := e = 0 ∨ parenDepth t e ≠ 0 ∨ ∃ k ≤ e, 0 < k ∧ 32 < parenDepth t k
    (scanDestination ⟨source, p⟩ = .ok none ↔ refused) ∧
      (refused → rawDestination ⟨source, p⟩ = .ok none) ∧
      (¬ refused →
        scanDestination ⟨source, p⟩ = .ok (some ⟨source, p + e⟩) ∧
          rawDestination ⟨source, p⟩ = .ok (some (t.take e, ⟨source, p + e⟩))) := by
  intro t e refused
  have bracket : t.head? ≠ some '<' := by rwa [List.head?_drop]
  have scan : scanDestination ⟨source, p⟩ =
      .ok ((Scan.bare t).map fun parts => before source parts.2) := by
    rw [scanDestination, scanWith_at inside Scan.destination_append,
      Scan.destination_eq_bare bracket]
  have raw : rawDestination ⟨source, p⟩ =
      .ok ((Scan.bare t).map fun parts =>
        (Scan.stripAngles parts.1, before source parts.2)) := by
    rw [← before_drop inside, rawDestination_before (List.drop_suffix p source),
      Scan.rawDestination, Scan.destination_eq_bare bracket, Option.map_map]
    rfl
  rcases Scan.bare_cases t with ⟨fails, nothing⟩ | ⟨holds, found⟩
  · rw [Scan.not_closesFrom_zero_iff] at fails
    rw [scan, raw, nothing]
    exact ⟨iff_of_true rfl fails, fun _ => rfl, fun accepted => absurd fails accepted⟩
  · rw [Scan.not_closesFrom_zero_iff] at holds
    have after : before source (t.drop e) = ⟨source, p + e⟩ :=
      before_drop_drop inside (Scan.bareEnd_le t)
    have value : Scan.stripAngles (t.take e) = t.take e := by
      refine Scan.stripAngles_eq_self ?_
      rw [List.head?_take]
      split
      · simp
      · exact bracket
    rw [scan, raw, found]
    refine ⟨iff_of_false (by simp) holds, fun fails => absurd fails holds, fun _ => ⟨?_, ?_⟩⟩
    · rw [← after]
      rfl
    · show Except.ok (some (Scan.stripAngles (t.take e), before source (t.drop e))) = _
      rw [value, after]

/-- A line with a destination that holds escaped and nested parentheses. -/
def nestedLine : Text := "[a]: /u\\((x)y) z".toList

theorem scanDestination_bare_nestedLine :
    scanDestination ⟨nestedLine, 5⟩ = .ok (some ⟨nestedLine, 13⟩) ∧
      rawDestination ⟨nestedLine, 5⟩ = .ok (some ("/u\\((x)y".toList, ⟨nestedLine, 13⟩)) := by
  refine (scanDestination_bare nestedLine 5 (by decide) (by decide)).2.2 ?_
  decide

end Cursor

end LinkDefinitions
