import LinkDefinitions.Proofs.Glyph
import LinkDefinitions.Text.Lines

/-!
# A text and its lines

A text that goes over several lines is read a line at a time. `firstLine` and `laterLines` are the
pieces between its line feeds (`splitOn_eq`), and `terminate` puts lines together again, each with
a line feed after it.
-/

namespace LinkDefinitions

variable {stop : Glyph → Bool} {s t x : Text} {ls ms : List Text} {c : Char}

/-- The text up to its first line feed. -/
def firstLine (x : Text) : Text := x.takeWhile (· != '\n')

/-- The pieces between the line feeds of a text, but for the first one. -/
def laterLines (x : Text) : List Text := (x.splitOn '\n').tail

theorem splitOn_eq (x : Text) : x.splitOn '\n' = firstLine x :: laterLines x := by
  unfold laterLines firstLine
  induction x with
  | nil => simp
  | cons c x ih =>
    rw [List.splitOn_cons_eq_if_modifyHead]
    by_cases h : c = '\n'
    · simp [h]
    · rw [if_neg (by simpa using h), ih]
      simp [h]

@[simp] theorem firstLine_nil : firstLine [] = [] := rfl

@[simp] theorem laterLines_nil : laterLines [] = [] := rfl

@[simp] theorem firstLine_break (x : Text) : firstLine ('\n' :: x) = [] := rfl

@[simp] theorem laterLines_break (x : Text) :
    laterLines ('\n' :: x) = firstLine x :: laterLines x := by
  rw [← splitOn_eq, laterLines, List.splitOn_cons_eq_if_modifyHead]
  rfl

/-- A text within a line belongs to the first line of what it begins. -/
theorem firstLine_append (h : '\n' ∉ s) (x : Text) : firstLine (s ++ x) = s ++ firstLine x := by
  refine List.takeWhile_append_of_pos fun c mem => ?_
  have other : c ≠ '\n' := fun same => h (same ▸ mem)
  simpa using other

theorem laterLines_append (h : '\n' ∉ s) (x : Text) : laterLines (s ++ x) = laterLines x := by
  unfold laterLines
  induction s with
  | nil => rfl
  | cons c s ih =>
    simp only [List.mem_cons, not_or] at h
    obtain ⟨other, inline⟩ := h
    rw [List.cons_append, List.splitOn_cons_eq_if_modifyHead, if_neg (by simpa using Ne.symm other),
      ← ih inline]
    cases (s ++ x).splitOn '\n' <;> rfl

theorem firstLine_cons (h : c ≠ '\n') (x : Text) : firstLine (c :: x) = c :: firstLine x :=
  firstLine_append (s := [c]) (by simpa using Ne.symm h) x

theorem laterLines_cons (h : c ≠ '\n') (x : Text) : laterLines (c :: x) = laterLines x :=
  laterLines_append (s := [c]) (by simpa using Ne.symm h) x

/-- The lines of a final part are lines of the whole. -/
theorem laterLines_suffix_append (s x : Text) : laterLines x <:+ laterLines (s ++ x) := by
  induction s with
  | nil => exact List.suffix_rfl
  | cons c s ih =>
    by_cases h : c = '\n'
    · rw [h, List.cons_append, laterLines_break]
      exact ih.trans (List.suffix_cons _ _)
    · rwa [List.cons_append, laterLines_cons h]

/-- Lines written one after the other, each with a line feed after it. -/
def terminate (ls : List Text) : Text := ls.flatMap (· ++ ['\n'])

@[simp] theorem terminate_nil : terminate [] = [] := rfl

@[simp] theorem terminate_cons (l : Text) (ls : List Text) :
    terminate (l :: ls) = l ++ '\n' :: terminate ls := by
  simp [terminate]

@[simp] theorem terminate_append (ls ms : List Text) :
    terminate (ls ++ ms) = terminate ls ++ terminate ms := by
  simp [terminate]

theorem terminate_eq_joinLines (h : ls ≠ []) : terminate ls = joinLines ls ++ ['\n'] := by
  unfold joinLines
  induction ls with
  | nil => exact absurd rfl h
  | cons l ls ih =>
    cases ls with
    | nil => simp
    | cons m ls =>
      rw [terminate_cons, ih (List.cons_ne_nil m ls), List.intercalate_cons_cons]
      simp

theorem joinLines_append (ls : List Text) (h : ms ≠ []) :
    joinLines (ls ++ ms) = terminate ls ++ joinLines ms := by
  have whole := terminate_append ls ms
  rw [terminate_eq_joinLines (List.append_ne_nil_of_right_ne_nil ls h), terminate_eq_joinLines h,
    ← List.append_assoc] at whole
  exact List.append_cancel_right whole

theorem joinLines_singleton (l : Text) : joinLines [l] = l := by
  rw [joinLines, List.intercalate_singleton]

theorem joinLines_cons (l : Text) (h : ls ≠ []) :
    joinLines (l :: ls) = l ++ '\n' :: joinLines ls := by
  simpa using joinLines_append [l] h

theorem joinLines_concat (ls : List Text) (l : Text) : joinLines (ls ++ [l]) = terminate ls ++ l := by
  rw [joinLines_append ls (List.cons_ne_nil l []), joinLines_singleton]

/-- Lines that make up the same text with a line feed after each do so with one between each. -/
theorem joinLines_eq_of_terminate_eq (h : terminate ls = terminate ms) :
    joinLines ls = joinLines ms := by
  have nonempty (l : Text) (ls : List Text) : terminate (l :: ls) ≠ [] := by simp
  cases ls with
  | nil =>
    cases ms with
    | nil => rfl
    | cons m ms => exact absurd h.symm (nonempty m ms)
  | cons l ls =>
    cases ms with
    | nil => exact absurd h (nonempty l ls)
    | cons m ms =>
      rw [terminate_eq_joinLines (List.cons_ne_nil l ls),
        terminate_eq_joinLines (List.cons_ne_nil m ms)] at h
      exact List.append_cancel_right h

/-- A reading of texts that goes on after a line feed as at a beginning reads lines one by one. -/
theorem read_joinLines {α : Type} {read : Text → List α} {feed : α} (nil : read [] = [])
    (broken : ∀ s t, read (s ++ '\n' :: t) = read s ++ feed :: read t) (ls : List Text) :
    read (joinLines ls) = [feed].intercalate (ls.map read) := by
  unfold joinLines
  induction ls with
  | nil => exact nil
  | cons l ls ih =>
    cases ls with
    | nil => simp
    | cons m ls =>
      rw [List.intercalate_cons_cons, List.append_assoc, List.singleton_append, broken, ih,
        List.map_cons, List.map_cons, List.map_cons, List.intercalate_cons_cons,
        List.append_assoc, List.singleton_append]

/-- The lines that are not empty. -/
def filled (ls : List Text) : List Text := ls.filter (· ≠ [])

@[simp] theorem filled_nil : filled [] = [] := rfl

@[simp] theorem filled_append (ls ms : List Text) : filled (ls ++ ms) = filled ls ++ filled ms :=
  List.filter_append ..

theorem filled_singleton (h : s ≠ []) : filled [s] = [s] := by
  simp [filled, h]

@[simp] theorem filled_singleton_nil : filled [[]] = [] := rfl

theorem nil_not_mem_filled (ls : List Text) : [] ∉ filled ls := by
  simp [filled]

/-- A text is some whole lines and a last one without its line feed. -/
theorem exists_terminate_append (x : Text) :
    ∃ ls last, terminate ls ++ last = x ∧ (∀ l ∈ ls, '\n' ∉ l) ∧ '\n' ∉ last := by
  induction x with
  | nil => exact ⟨[], [], rfl, by simp, by simp⟩
  | cons c x ih =>
    obtain ⟨ls, last, rfl, inline, inline_last⟩ := ih
    by_cases h : c = '\n'
    · refine ⟨[] :: ls, last, by simp [h], ?_, inline_last⟩
      simpa using inline
    · cases ls with
      | nil =>
        refine ⟨[], c :: last, rfl, by simp, ?_⟩
        simpa [Ne.symm h] using inline_last
      | cons l ls =>
        refine ⟨(c :: l) :: ls, last, by simp, ?_, inline_last⟩
        simp only [List.mem_cons, forall_eq_or_imp] at inline ⊢
        exact ⟨by simpa [Ne.symm h] using inline.1, inline.2⟩

/-- Lines that are over are settled. -/
theorem settled_terminate (ls : List Text) : Settled (terminate ls) := by
  induction ls with
  | nil => exact settled_nil
  | cons l ls ih =>
    rw [terminate_cons, List.append_cons]
    exact (settled_append_singleton (by decide) (by decide) l).append ih

/-- What stands nowhere in lines that are over stands in none of them. -/
theorem clear_of_clear_terminate (h : Clear stop (terminate ls)) : ∀ l ∈ ls, Clear stop l := by
  induction ls with
  | nil => simp
  | cons l ls ih =>
    rw [terminate_cons] at h
    unfold Clear at h
    rw [glyphs_append_cons (by decide) (by decide)] at h
    rw [List.forall_mem_cons]
    exact ⟨fun g mem => h g (by simp [mem]), ih fun g mem => h g (by simp [mem])⟩

/-- A text with at most one line feed lies in one line or in two. -/
theorem inline_or_break (h : t.count '\n' ≤ 1) :
    '\n' ∉ t ∨ ∃ a b, a ++ '\n' :: b = t ∧ '\n' ∉ a ∧ '\n' ∉ b := by
  by_cases mem : '\n' ∈ t
  · obtain ⟨a, b, rfl⟩ := List.append_of_mem mem
    rw [List.count_append, List.count_cons_self] at h
    refine .inr ⟨a, b, rfl, ?_, ?_⟩
    · exact List.count_eq_zero.1 (by omega)
    · exact List.count_eq_zero.1 (by omega)
  · exact .inl mem

end LinkDefinitions
