import LinkDefinitions.Proofs.Blank
import LinkDefinitions.Proofs.Glyph
import LinkDefinitions.Scan

/-!
# What the scans take

The body of a label and the body of a title are taken in the same way (`Scan.upTo`): up to the mark
that closes them, or to the end of the line. `label_eq_some_iff` and `title_eq_some_iff` say what is
taken in terms of `Encloses` and `Clear`, which do not speak of what follows.

A destination is the same wherever it stands: a scan that takes some text of a longer one takes all
of it when nothing follows (`rawDestination_self`), and it still does when a blank follows
(`rawDestination_append`).
-/

namespace LinkDefinitions

/-- The marks of a title are no blanks. -/
theorem solid_of_titleCloser {o c : Char} (h : titleCloser? o = some c) :
    isBlank o = false ∧ isBlank c = false := by
  obtain ⟨before, after, split, -⟩ := List.lookup_eq_some_iff.1 h
  have mem : (o, c) ∈ titleDelimiters := by
    rw [split]
    simp
  have all : ∀ pair ∈ titleDelimiters, isBlank pair.1 = false ∧ isBlank pair.2 = false := by decide
  exact all _ mem

namespace Scan

variable {stop : Glyph → Bool} {a b s t v w rest : Text} {c q : Char}

/-! ### Labels and titles -/

/-- A line feed ends no title. -/
theorem endsTitle_break {o : Char} (h : titleCloser? o = some q) :
    endsTitle [q] (.plain '\n') = false := by
  have other : q ≠ '\n' := ne_break_of_isBlank (solid_of_titleCloser h).2
  simp [endsTitle, Ne.symm other]

/-- The character before which a text is split, if only single characters stop the split. -/
theorem stop_of_splitBefore (single : ∀ d, stop (.escaped d) = false)
    (h : splitBefore stop t = (a, c :: s)) : stop (.plain c) = true := by
  obtain ⟨-, -, -, head⟩ := splitBefore_eq_iff.1 h
  have first : (glyphs (c :: s)).head? = some (.plain c) ∨
      ∃ d, (glyphs (c :: s)).head? = some (.escaped d) := by
    cases s with
    | nil => exact .inl rfl
    | cons d u =>
      rw [glyphs]
      split
      · exact .inr ⟨d, rfl⟩
      · exact .inl rfl
  rcases first with plain | ⟨d, escaped⟩
  · exact head _ plain
  · have := head _ escaped
    rw [single d] at this
    contradiction

/-- Takes the text before the first glyph at which `stop` holds, which has to be the mark `q`. -/
def upTo (stop : Glyph → Bool) (q : Char) (t : Text) : Option (Text × Text) :=
  match splitBefore stop t with
  | (body, []) => some (body, [])
  | (body, c :: rest) => if c = q then some (body, c :: rest) else none

theorem upTo_eq_some_iff (single : ∀ d, stop (.escaped d) = false)
    (backslash : stop (.plain '\\') = false) :
    upTo stop q t = some (a, b) ↔
      a ++ b = t ∧ (b = [] ∧ Clear stop a ∨ ∃ s, b = q :: s ∧ Encloses stop a q) := by
  have ordinary (c : Char) (stops : stop (.plain c) = true) : c ≠ '\\' := by
    rintro rfl
    simp_all
  constructor
  · intro h
    have whole := splitBefore_append stop t
    unfold upTo at h
    split at h
    · next body eq =>
      obtain ⟨rfl, rfl⟩ := Prod.mk.inj (Option.some.inj h)
      obtain rfl : body = t := by simpa [eq] using whole
      exact ⟨List.append_nil _, .inl ⟨rfl, splitBefore_eq_self_iff.1 eq⟩⟩
    · next body c rest eq =>
      split at h
      · next mark =>
        subst mark
        obtain ⟨rfl, rfl⟩ := Prod.mk.inj (Option.some.inj h)
        have encloses := encloses_of_splitBefore (ordinary c (stop_of_splitBefore single eq)) eq
        exact ⟨by simpa [eq] using whole, .inr ⟨rest, rfl, encloses⟩⟩
      · contradiction
  · rintro ⟨rfl, ⟨rfl, clear⟩ | ⟨s, rfl, encloses⟩⟩
    · rw [List.append_nil, upTo, splitBefore_eq_self_iff.2 clear]
    · rw [upTo, encloses.splitBefore (ordinary q (encloses_iff.1 encloses).2.2) s]
      exact if_pos rfl

theorem label_eq_upTo (t : Text) : label t = upTo isBracket ']' t := by
  unfold label upTo
  generalize eq : splitBefore isBracket t = parts
  obtain ⟨body, _ | ⟨c, rest⟩⟩ := parts
  · rfl
  · have bracket : c = '[' ∨ c = ']' := by
      simpa [isBracket] using stop_of_splitBefore (fun _ => rfl) eq
    rcases bracket with rfl | rfl <;> rfl

theorem title_eq_upTo (q : Char) (t : Text) : title [q] t = upTo (endsTitle [q]) q t := by
  unfold title upTo
  generalize eq : splitBefore (endsTitle [q]) t = parts
  obtain ⟨body, _ | ⟨c, rest⟩⟩ := parts
  · simp
  · have ends : c ≠ '\\' ∧ (c = q ∨ q = ')' ∧ c = '(') := by
      simpa [endsTitle] using stop_of_splitBefore (fun _ => rfl) eq
    rcases ends.2 with rfl | ⟨rfl, rfl⟩
    · have other : ¬ (c = ')' ∧ c = '(') := by
        rintro ⟨rfl, opening⟩
        exact absurd opening (by decide)
      simp [other]
    · simp

theorem label_eq_some_iff :
    label t = some (a, b) ↔
      a ++ b = t ∧ (b = [] ∧ Clear isBracket a ∨ ∃ s, b = ']' :: s ∧ Encloses isBracket a ']') := by
  rw [label_eq_upTo, upTo_eq_some_iff (fun _ => rfl) rfl]

theorem title_eq_some_iff :
    title [q] t = some (a, b) ↔
      a ++ b = t ∧ (b = [] ∧ Clear (endsTitle [q]) a ∨
        ∃ s, b = q :: s ∧ Encloses (endsTitle [q]) a q) := by
  rw [title_eq_upTo, upTo_eq_some_iff (fun _ => rfl) rfl]

/-! ### Destinations -/

theorem bareGlyphs_self {depth : Nat} {gs taken left : List Glyph}
    (h : bareGlyphs depth gs = some (taken, left)) : bareGlyphs depth taken = some (taken, []) := by
  fun_induction bareGlyphs depth gs generalizing taken left <;>
    grind [taking_eq_some_iff, bareGlyphs]

theorem bareGlyphs_append_blank {depth : Nat} {gs hs : List Glyph} (blank : isBlank c = true)
    (h : bareGlyphs depth gs = some (gs, [])) :
    bareGlyphs depth (gs ++ .plain c :: hs) = some (gs, .plain c :: hs) := by
  have stops := eq_space_or_isControl_of_isBlank blank
  fun_induction bareGlyphs depth gs <;>
    grind [taking_eq_some_iff, bareGlyphs]

/-- A bare destination is described by the glyphs of its parts, as a split is. -/
theorem bare_eq_some_iff :
    bare t = some (a, b) ↔
      a ≠ [] ∧ a ++ b = t ∧ bareGlyphs 0 (glyphs t) = some (glyphs a, glyphs b) := by
  constructor
  · intro h
    have whole := bare_append h
    unfold bare at h
    split at h
    · next g gs left eq =>
      obtain ⟨rfl, rfl⟩ := Prod.mk.inj (Option.some.inj h)
      obtain ⟨first, second⟩ := glyphs_source_of_append (bareGlyphs_append eq).symm
      refine ⟨?_, whole, by rw [first, second, eq]⟩
      rw [ne_eq, ← glyphs_eq_nil_iff, first]
      exact List.cons_ne_nil g gs
    · contradiction
  · rintro ⟨nonempty, -, eq⟩
    rw [bare, eq]
    cases gs : glyphs a with
    | nil => exact absurd (glyphs_eq_nil_iff.1 gs) nonempty
    | cons g gs' => simp only [← gs, source_glyphs]

theorem bare_self (h : bare t = some (w, rest)) : bare w = some (w, []) := by
  obtain ⟨nonempty, -, eq⟩ := bare_eq_some_iff.1 h
  exact bare_eq_some_iff.2
    ⟨nonempty, List.append_nil w, by rw [glyphs_nil]; exact bareGlyphs_self eq⟩

theorem bare_append_blank (blank : isBlank c = true) (h : bare w = some (w, [])) :
    bare (w ++ c :: s) = some (w, c :: s) := by
  obtain ⟨nonempty, -, eq⟩ := bare_eq_some_iff.1 h
  obtain ⟨backslash, punctuation⟩ := ordinary_of_isBlank blank
  rw [glyphs_nil] at eq
  refine bare_eq_some_iff.2 ⟨nonempty, rfl, ?_⟩
  rw [glyphs_append_cons backslash punctuation, glyphs_cons backslash]
  exact bareGlyphs_append_blank blank eq

theorem angled_eq_some_iff :
    angled t = some (a, b) ↔
      ∃ body, a = body ++ ['>'] ∧ t = a ++ b ∧ Encloses endsAngled body '>' := by
  constructor
  · intro h
    have whole := angled_append h
    unfold angled at h
    split at h
    · next body left eq =>
      obtain ⟨rfl, rfl⟩ := Prod.mk.inj (Option.some.inj h)
      exact ⟨body, rfl, whole.symm, encloses_of_splitBefore (by decide) eq⟩
    · contradiction
  · rintro ⟨body, rfl, rfl, encloses⟩
    rw [angled, List.append_assoc, List.singleton_append, encloses.splitBefore (by decide)]
    rfl

theorem destination_eq_bare (h : t.head? ≠ some '<') : destination t = bare t := by
  unfold destination
  split
  · rfl
  · exact absurd rfl h
  · rfl

theorem stripAngles_eq_self (h : t.head? ≠ some '<') : stripAngles t = t := by
  unfold stripAngles
  split
  · exact absurd rfl h
  · rfl

/-- The brackets decide which of the two forms a destination has. -/
theorem destination_eq_some_iff :
    destination t = some (a, b) ↔
      (∃ s a', t = '<' :: s ∧ a = '<' :: a' ∧ angled s = some (a', b)) ∨
        t.head? ≠ some '<' ∧ bare t = some (a, b) := by
  by_cases bracket : t.head? = some '<'
  · obtain ⟨s, rfl⟩ := List.head?_eq_some_iff.1 bracket
    simp [destination, taking_eq_some_iff]
  · have other : ∀ s, t ≠ '<' :: s := by
      rintro s rfl
      exact bracket rfl
    simp [destination_eq_bare bracket, bracket, other]

theorem destination_self (h : destination t = some (w, rest)) :
    destination w = some (w, []) := by
  rw [destination_eq_some_iff] at h ⊢
  rcases h with ⟨s, a, rfl, rfl, scan⟩ | ⟨bracket, scan⟩
  · obtain ⟨body, rfl, rfl, encloses⟩ := angled_eq_some_iff.1 scan
    refine .inl ⟨_, _, rfl, rfl, angled_eq_some_iff.2 ⟨body, rfl, ?_, encloses⟩⟩
    exact (List.append_nil _).symm
  · refine .inr ⟨?_, bare_self scan⟩
    obtain ⟨nonempty, rfl, -⟩ := bare_eq_some_iff.1 scan
    rwa [List.head?_append_of_ne_nil _ nonempty] at bracket

theorem destination_append_blank (blank : isBlank c = true) (h : destination w = some (w, [])) :
    destination (w ++ c :: s) = some (w, c :: s) := by
  rw [destination_eq_some_iff] at h ⊢
  rcases h with ⟨u, a, rfl, same, scan⟩ | ⟨bracket, scan⟩
  · obtain ⟨body, rfl, rfl, encloses⟩ := angled_eq_some_iff.1 scan
    refine .inl ⟨_, _, rfl, same, angled_eq_some_iff.2 ⟨body, rfl, ?_, encloses⟩⟩
    simp
  · refine .inr ⟨?_, bare_append_blank blank scan⟩
    have nonempty := (bare_eq_some_iff.1 scan).1
    rwa [List.head?_append_of_ne_nil _ nonempty]

/-- A text is a destination with the value `v`. -/
theorem rawDestination_whole_iff :
    rawDestination w = some (v, []) ↔ destination w = some (w, []) ∧ v = stripAngles w := by
  constructor
  · intro h
    obtain ⟨⟨a, left⟩, scan, eq⟩ := Option.map_eq_some_iff.1 h
    obtain ⟨rfl, rfl⟩ := Prod.mk.inj eq
    obtain rfl : a = w := by simpa using destination_append scan
    exact ⟨scan, rfl⟩
  · rintro ⟨scan, rfl⟩
    rw [rawDestination, scan]
    rfl

/-- A destination that is taken would be taken if nothing followed. -/
theorem rawDestination_self (h : rawDestination t = some (v, rest)) :
    ∃ w, w ++ rest = t ∧ rawDestination w = some (v, []) := by
  obtain ⟨⟨w, left⟩, scan, eq⟩ := Option.map_eq_some_iff.1 h
  obtain ⟨rfl, rfl⟩ := Prod.mk.inj eq
  exact ⟨w, destination_append scan, rawDestination_whole_iff.2 ⟨destination_self scan, rfl⟩⟩

/-- A destination is taken if nothing or a blank follows. -/
theorem rawDestination_append (h : rawDestination w = some (v, []))
    (blank : ∀ c ∈ rest.head?, isBlank c = true) :
    rawDestination (w ++ rest) = some (v, rest) := by
  cases rest with
  | nil => rwa [List.append_nil]
  | cons c s =>
    obtain ⟨scan, rfl⟩ := rawDestination_whole_iff.1 h
    rw [rawDestination, destination_append_blank (blank c rfl) scan]
    rfl

/-- A destination does not begin with a blank. -/
theorem solid_of_rawDestination (h : rawDestination t = some (v, rest)) : Solid t := by
  obtain ⟨⟨w, left⟩, scan, -⟩ := Option.map_eq_some_iff.1 h
  rcases destination_eq_some_iff.1 scan with ⟨s, a, rfl, -, -⟩ | ⟨-, scan⟩
  · exact solid_cons_iff.2 (by decide)
  · obtain ⟨nonempty, -, eq⟩ := bare_eq_some_iff.1 scan
    cases t with
    | nil => exact solid_nil
    | cons c s =>
      refine solid_cons_iff.2 (Bool.eq_false_iff.2 fun blank => nonempty ?_)
      have stops := eq_space_or_isControl_of_isBlank blank
      rw [glyphs_cons (ordinary_of_isBlank blank).1, bareGlyphs, if_pos stops, if_pos rfl] at eq
      exact glyphs_eq_nil_iff.1 (Prod.mk.inj (Option.some.inj eq)).1.symm

theorem not_control_of_mem_bareGlyphs {depth : Nat} {gs taken left : List Glyph}
    (h : bareGlyphs depth gs = some (taken, left)) (mem : .plain c ∈ taken) :
    isControl c = false := by
  fun_induction bareGlyphs depth gs generalizing taken left <;> grind [taking_eq_some_iff]

/-- A destination does not go over the end of a line. -/
theorem inline_of_rawDestination (h : rawDestination w = some (v, [])) : '\n' ∉ w := by
  intro mem
  rcases destination_eq_some_iff.1 (rawDestination_whole_iff.1 h).1 with
    ⟨s, a, rfl, -, scan⟩ | ⟨-, scan⟩
  · obtain ⟨body, rfl, rfl, encloses⟩ := angled_eq_some_iff.1 scan
    have inside : '\n' ∈ body := by simpa using mem
    have := encloses.clear _ (plain_mem_glyphs (by decide) inside)
    exact absurd this (by decide)
  · have eq := (bare_eq_some_iff.1 scan).2.2
    have := not_control_of_mem_bareGlyphs eq (plain_mem_glyphs (by decide) mem)
    exact absurd this (by decide)

end Scan

end LinkDefinitions
