import LinkDefinitions.Text.Glyph
import Mathlib.Data.List.TakeWhile
import Mathlib.Tactic.Tauto

/-!
# Cutting a text between its glyphs

The glyphs of two texts written one after the other are the glyphs of the first and then those of
the second, unless an escape reaches across the cut: a lone backslash at the end of the first and
punctuation at the beginning of the second. `glyphs_append` says so, `Settled` names the texts
after which nothing can go wrong, and `splitBefore_eq_iff` describes a split by the glyphs of its
two parts.

`Encloses stop t c` says that `c` is the first place where `stop` holds in `t` followed by `c`; it
does not matter what comes after `c` (`Encloses.splitBefore`) nor where settled lines are cut
(`Settled.encloses_append_iff`).
-/

namespace LinkDefinitions

variable {stop : Glyph → Bool} {a b s t : Text} {c d : Char}

/-! ### Glyphs of a concatenation -/

theorem glyphs_nil : glyphs [] = [] := rfl

theorem glyphs_singleton (c : Char) : glyphs [c] = [.plain c] := rfl

theorem glyphs_eq_nil_iff : glyphs t = [] ↔ t = [] := by
  constructor
  · intro h
    rw [← source_glyphs t, h, source_nil]
  · rintro rfl
    rfl

/-- A character other than a backslash is a glyph wherever a glyph begins. -/
theorem glyphs_cons (h : c ≠ '\\') (t : Text) : glyphs (c :: t) = .plain c :: glyphs t := by
  cases t with
  | nil => rfl
  | cons d t => rw [glyphs, if_neg fun both => h both.1]

theorem glyphs_escaped_cons (h : isPunctuation c = true) (s : Text) :
    glyphs ('\\' :: c :: s) = .escaped c :: glyphs s := by
  rw [glyphs, if_pos ⟨rfl, h⟩]

/-- A backslash that escapes nothing is a glyph. -/
theorem glyphs_lone (lone : ∀ d ∈ t.head?, isPunctuation d = false) :
    glyphs ('\\' :: t) = .plain '\\' :: glyphs t := by
  cases t with
  | nil => rfl
  | cons d t =>
    have apart : ¬ ('\\' = '\\' ∧ isPunctuation d = true) := by simp [lone d rfl]
    rw [glyphs, if_neg apart]

/-- Induction on a text by its glyphs, where a backslash is alone or escapes what follows. -/
@[elab_as_elim]
theorem glyph_induction {motive : Text → Prop} (nil : motive [])
    (plain : ∀ c t, c ≠ '\\' → motive t → motive (c :: t))
    (lone : ∀ t, (∀ d ∈ t.head?, isPunctuation d = false) → motive t → motive ('\\' :: t))
    (escaped : ∀ d t, isPunctuation d = true → motive t → motive ('\\' :: d :: t)) (t : Text) :
    motive t := by
  fun_induction glyphs t with
  | case1 => exact nil
  | case2 c =>
    by_cases backslash : c = '\\'
    · subst backslash
      exact lone [] (by simp) nil
    · exact plain c [] backslash nil
  | case3 c d t escape ih =>
    obtain ⟨rfl, mark⟩ := escape
    exact escaped d t mark ih
  | case4 c d t apart ih =>
    by_cases backslash : c = '\\'
    · subst backslash
      refine lone (d :: t) ?_ ih
      intro e head
      obtain rfl := Option.some.inj head
      exact Bool.eq_false_iff.2 fun mark => apart ⟨rfl, mark⟩
    · exact plain c (d :: t) backslash ih

/-- A text without a backslash consists of single characters. -/
theorem glyphs_eq_map (h : '\\' ∉ t) : glyphs t = t.map .plain := by
  induction t with
  | nil => rfl
  | cons c t ih =>
    rw [List.mem_cons, not_or] at h
    rw [glyphs_cons (Ne.symm h.1), ih h.2, List.map_cons]

/-- Only punctuation is escaped. -/
theorem isPunctuation_of_escaped_mem (h : .escaped c ∈ glyphs t) : isPunctuation c = true := by
  fun_induction glyphs t <;> simp_all
  rcases h with rfl | h <;> simp_all

/-- A character that cannot be escaped stands for itself. -/
theorem plain_mem_glyphs (h : isPunctuation c = false) (mem : c ∈ t) : .plain c ∈ glyphs t := by
  rw [← source_glyphs t, source, List.mem_flatMap] at mem
  obtain ⟨g, mem, written⟩ := mem
  cases g with
  | plain d =>
    obtain rfl : c = d := by simpa [Glyph.source] using written
    exact mem
  | escaped d =>
    have punctuation : isPunctuation c = true := by
      rcases (by simpa [Glyph.source] using written : c = '\\' ∨ c = d) with rfl | rfl
      · decide
      · exact isPunctuation_of_escaped_mem mem
    simp_all

/-- No escape reaches from the first text into the second. -/
theorem glyphs_append
    (h : ∀ d ∈ b.head?, (glyphs a).getLast? = some (.plain '\\') → isPunctuation d = false) :
    glyphs (a ++ b) = glyphs a ++ glyphs b := by
  fun_induction glyphs a with
  | case1 => rfl
  | case2 c =>
    cases b with
    | nil => rfl
    | cons d t =>
      have apart : ¬ (c = '\\' ∧ isPunctuation d) := by
        rintro ⟨rfl, punctuation⟩
        have := h d rfl rfl
        simp_all
      simp [glyphs, apart]
  | case3 c d t escape ih =>
    rw [List.cons_append, List.cons_append, glyphs, if_pos escape, ih, List.cons_append]
    intro e head last
    refine h e head ?_
    rw [List.getLast?_cons, last]
    rfl
  | case4 c d t apart ih =>
    have ih := ih fun e head last => h e head (by rw [List.getLast?_cons, last]; rfl)
    rw [List.cons_append, List.cons_append, glyphs, if_neg apart, ← List.cons_append, ih,
      List.cons_append]

/-- A character that takes no part in an escape cuts a text. -/
theorem glyphs_append_cons (h : c ≠ '\\') (punctuation : isPunctuation c = false) (a s : Text) :
    glyphs (a ++ c :: s) = glyphs a ++ .plain c :: glyphs s := by
  rw [← glyphs_cons h]
  refine glyphs_append fun d head _ => ?_
  obtain rfl : c = d := Option.some.inj head
  exact punctuation

/-- Whether a character stands for itself after a text depends on nothing behind it. -/
theorem glyphs_append_cons_iff (backslash : c ≠ '\\') (s : Text) :
    glyphs (a ++ c :: s) = glyphs a ++ .plain c :: glyphs s ↔
      glyphs (a ++ [c]) = glyphs a ++ [.plain c] := by
  fun_induction glyphs a with
  | case1 => simp [glyphs_cons backslash, glyphs_nil]
  | case2 e =>
    by_cases escape : e = '\\' ∧ isPunctuation c
    · simp [glyphs, escape]
    · simp [glyphs, escape, glyphs_cons backslash]
  | case3 e d t escape ih => simpa [glyphs, escape] using ih
  | case4 e d t apart ih => simpa [glyphs, apart] using ih

/-- Both parts of a list of glyphs that a text has are the glyphs of what they are written with. -/
theorem glyphs_source_of_append {gs hs : List Glyph} (h : glyphs t = gs ++ hs) :
    glyphs (source gs) = gs ∧ glyphs (source hs) = hs := by
  fun_induction glyphs t generalizing gs with
  | case1 =>
    obtain ⟨rfl, rfl⟩ := List.append_eq_nil_iff.1 h.symm
    exact ⟨rfl, rfl⟩
  | case2 c =>
    cases gs with
    | nil => exact ⟨rfl, by rw [← List.nil_append hs, ← h]; rfl⟩
    | cons g gs =>
      obtain ⟨rfl, nil⟩ := List.cons.inj h
      obtain ⟨rfl, rfl⟩ := List.append_eq_nil_iff.1 nil.symm
      exact ⟨rfl, rfl⟩
  | case3 c d t escape ih =>
    cases gs with
    | nil =>
      refine ⟨rfl, ?_⟩
      rw [← List.nil_append hs, ← h]
      simp [Glyph.source, glyphs, escape.2]
    | cons g gs =>
      obtain ⟨rfl, rest⟩ := List.cons.inj h
      obtain ⟨first, second⟩ := ih rest
      refine ⟨?_, second⟩
      simp [Glyph.source, glyphs, escape.2, first]
  | case4 c d t apart ih =>
    cases gs with
    | nil =>
      refine ⟨rfl, ?_⟩
      rw [← List.nil_append hs, ← h]
      simp [Glyph.source, glyphs, apart]
    | cons g gs =>
      obtain ⟨rfl, rest⟩ := List.cons.inj h
      obtain ⟨first, second⟩ := ih rest
      refine ⟨?_, second⟩
      have whole : source gs ++ source hs = d :: t := by
        rw [← source_append, ← source_glyphs (d :: t), rest]
        rfl
      cases eq : source gs with
      | nil =>
        rw [eq] at first
        simp [Glyph.source, ← first, glyphs]
      | cons e u =>
        rw [eq, List.cons_append] at whole
        obtain ⟨rfl, -⟩ := List.cons.inj whole
        rw [eq] at first
        simp [Glyph.source, eq, glyphs, apart, first]

/-- A text after whose end no escape goes on. -/
def Settled (t : Text) : Prop := ∀ s, glyphs (t ++ s) = glyphs t ++ glyphs s

theorem settled_nil : Settled [] := fun _ => rfl

theorem Settled.append (ha : Settled a) (hb : Settled b) : Settled (a ++ b) := by
  intro s
  rw [List.append_assoc, ha, hb, ha, List.append_assoc]

/-- Where no backslash is, no escape begins. -/
theorem settled_of_not_mem (h : '\\' ∉ t) : Settled t := by
  intro s
  induction t with
  | nil => rfl
  | cons c t ih =>
    rw [List.mem_cons, not_or] at h
    rw [List.cons_append, glyphs_cons (Ne.symm h.1), glyphs_cons (Ne.symm h.1), ih h.2,
      List.cons_append]

/-- A line that is over is settled. -/
theorem settled_append_singleton (h : c ≠ '\\') (punctuation : isPunctuation c = false) (t : Text) :
    Settled (t ++ [c]) := by
  intro s
  rw [List.append_assoc, List.singleton_append, glyphs_append_cons h punctuation,
    glyphs_append_cons h punctuation, glyphs_nil, List.append_assoc]
  rfl

/-! ### Splits -/

theorem splitBefore_pass {g : Glyph} (eq : glyphs s = g :: glyphs t) (goes_on : stop g = false) :
    splitBefore stop s = (g.source ++ (splitBefore stop t).1, (splitBefore stop t).2) := by
  simp [splitBefore, eq, goes_on]

theorem splitBefore_stop {g : Glyph} {gs : List Glyph} (eq : glyphs t = g :: gs)
    (stops : stop g = true) : splitBefore stop t = ([], t) := by
  have whole := source_glyphs t
  rw [eq] at whole
  simpa [splitBefore, eq, stops] using whole

/-- No glyph of the text is one at which `stop` holds. -/
def Clear (stop : Glyph → Bool) (t : Text) : Prop := ∀ g ∈ glyphs t, stop g = false

theorem clear_nil : Clear stop [] := fun _ mem => nomatch mem

theorem Settled.clear_append_iff (h : Settled a) :
    Clear stop (a ++ b) ↔ Clear stop a ∧ Clear stop b := by
  unfold Clear
  rw [h b]
  simp only [List.mem_append, or_imp, forall_and]

/-- A split is described by the glyphs of its parts: they make up those of the text, `stop` holds at
none of the first part, and it holds at the beginning of the second. -/
theorem splitBefore_eq_iff :
    splitBefore stop t = (a, b) ↔
      a ++ b = t ∧ glyphs t = glyphs a ++ glyphs b ∧ Clear stop a ∧
        ∀ g ∈ (glyphs b).head?, stop g = true := by
  constructor
  · intro h
    have whole := List.takeWhile_append_dropWhile (p := fun g => !stop g) (l := glyphs t)
    obtain ⟨first, second⟩ := glyphs_source_of_append whole.symm
    obtain ⟨rfl, rfl⟩ := Prod.mk.inj h
    refine ⟨splitBefore_append stop t, by rw [first, second, whole], ?_, ?_⟩
    · intro g mem
      rw [first] at mem
      simpa using List.mem_takeWhile_imp mem
    · intro g head
      rw [second] at head
      have := List.head?_dropWhile_not (fun g => !stop g) (glyphs t)
      rw [Option.mem_def.1 head] at this
      simpa using this
  · rintro ⟨rfl, cut, clear, head⟩
    have taken : (glyphs (a ++ b)).takeWhile (fun g => !stop g) = glyphs a := by
      rw [cut, List.takeWhile_append_of_pos (by simpa [Clear] using clear)]
      cases eq : glyphs b with
      | nil => simp
      | cons g gs => simp [head g (by simp [eq])]
    have left : (glyphs (a ++ b)).dropWhile (fun g => !stop g) = glyphs b := by
      rw [cut, List.dropWhile_append_of_pos (by simpa [Clear] using clear)]
      cases eq : glyphs b with
      | nil => simp
      | cons g gs => simp [head g (by simp [eq])]
    rw [splitBefore, taken, left, source_glyphs, source_glyphs]

/-- Nothing is left exactly if `stop` holds nowhere. -/
theorem splitBefore_eq_self_iff : splitBefore stop t = (t, []) ↔ Clear stop t := by
  rw [splitBefore_eq_iff]
  simp [glyphs_nil]

/-! ### Enclosed texts -/

/-- The text runs up to the character `c` after it, where `stop` holds for the first time. -/
def Encloses (stop : Glyph → Bool) (t : Text) (c : Char) : Prop :=
  splitBefore stop (t ++ [c]) = (t, [c])

theorem encloses_iff :
    Encloses stop t c ↔
      glyphs (t ++ [c]) = glyphs t ++ [.plain c] ∧ Clear stop t ∧ stop (.plain c) = true := by
  unfold Encloses
  rw [splitBefore_eq_iff, glyphs_singleton]
  simp

theorem Encloses.clear (h : Encloses stop t c) : Clear stop t := (encloses_iff.1 h).2.1

/-- No escape reaches from an enclosed text over the character that closes it. -/
theorem Encloses.cut (h : Encloses stop t c) (backslash : c ≠ '\\') (s : Text) :
    glyphs (t ++ c :: s) = glyphs t ++ glyphs (c :: s) := by
  rw [glyphs_cons backslash]
  exact (glyphs_append_cons_iff backslash s).2 (encloses_iff.1 h).1

/-- What follows the closing character does not matter. -/
theorem Encloses.splitBefore (h : Encloses stop t c) (backslash : c ≠ '\\') (s : Text) :
    splitBefore stop (t ++ c :: s) = (t, c :: s) := by
  obtain ⟨-, clear, stops⟩ := encloses_iff.1 h
  refine splitBefore_eq_iff.2 ⟨rfl, h.cut backslash s, clear, ?_⟩
  simpa [glyphs_cons backslash] using stops

/-- A split whose second part begins with a character other than a backslash is one that this
character closes. -/
theorem encloses_of_splitBefore (backslash : c ≠ '\\') (h : splitBefore stop t = (a, c :: s)) :
    Encloses stop a c := by
  obtain ⟨rfl, cut, clear, stops⟩ := splitBefore_eq_iff.1 h
  rw [glyphs_cons backslash] at cut stops
  exact encloses_iff.2
    ⟨(glyphs_append_cons_iff backslash s).1 cut, clear, by simpa using stops⟩

/-- After a settled text only the rest decides. -/
theorem Settled.encloses_append_iff (h : Settled a) :
    Encloses stop (a ++ b) c ↔ Clear stop a ∧ Encloses stop b c := by
  rw [encloses_iff, encloses_iff, h.clear_append_iff, List.append_assoc, h, h, List.append_assoc,
    List.append_cancel_left_eq]
  tauto

end LinkDefinitions
