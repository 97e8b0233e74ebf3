import LinkDefinitions.Text.Basic
import Mathlib.Data.List.DropRight

/-!
# Blank texts

`Blank t` says that a text holds blanks only, and `Solid t` that it does not begin with one, so that
`skipBlanks` leaves it alone. Every text is a blank one followed by what `skipBlanks` leaves of it.
-/

namespace LinkDefinitions

variable {b s t : Text} {c : Char}

/-- A text of blanks only. -/
def Blank (t : Text) : Prop := t.all isBlank = true

instance (t : Text) : Decidable (Blank t) := inferInstanceAs (Decidable (_ = true))

/-- A text that does not begin with a blank. -/
def Solid (t : Text) : Prop := skipBlanks t = t

@[simp] theorem blank_nil : Blank [] := rfl

@[simp] theorem blank_cons_iff : Blank (c :: t) ↔ isBlank c = true ∧ Blank t := by
  simp [Blank]

@[simp] theorem blank_append_iff : Blank (s ++ t) ↔ Blank s ∧ Blank t := by
  simp [Blank]

theorem Blank.isBlank_of_mem (h : Blank t) (mem : c ∈ t) : isBlank c = true :=
  List.all_eq_true.1 h c mem

/-- A blank is a space or a control character. -/
theorem eq_space_or_isControl_of_isBlank (h : isBlank c = true) : c = ' ' ∨ isControl c = true := by
  have all : blanks.all (fun c => c = ' ' ∨ isControl c) = true := by decide
  have mem : c ∈ blanks := by simpa [isBlank] using h
  simpa using List.all_eq_true.1 all c mem

/-- A line feed is a blank. -/
theorem ne_break_of_isBlank (h : isBlank c = false) : c ≠ '\n' := by
  rintro rfl
  exact absurd h (by decide)

/-- No blank comes after the space. -/
theorem isBlank_eq_false_of_lt (h : 0x20 < c.toNat) : isBlank c = false := by
  refine Bool.eq_false_iff.2 fun blank => ?_
  have all : blanks.all (fun c => c.toNat ≤ 0x20) = true := by decide
  have bound := List.all_eq_true.1 all c (List.contains_iff_mem.1 blank)
  rw [decide_eq_true_eq] at bound
  omega

/-- A blank takes no part in an escape. -/
theorem ordinary_of_isBlank (h : isBlank c = true) : c ≠ '\\' ∧ isPunctuation c = false := by
  have all : blanks.all (fun c => c ≠ '\\' ∧ isPunctuation c = false) = true := by decide
  have mem : c ∈ blanks := by simpa [isBlank] using h
  simpa using List.all_eq_true.1 all c mem

theorem solid_nil : Solid [] := rfl

theorem solid_cons_iff : Solid (c :: t) ↔ isBlank c = false := by
  unfold Solid skipBlanks
  by_cases h : isBlank c = true
  · have shorter := List.IsSuffix.length_le (List.dropWhile_suffix (l := t) isBlank)
    simp only [List.dropWhile_cons, h, if_true, Bool.true_eq_false, iff_false]
    intro same
    have := congrArg List.length same
    simp only [List.length_cons] at this
    omega
  · simp [h]

theorem Solid.append (solid : Solid s) (nonempty : s ≠ []) (t : Text) : Solid (s ++ t) := by
  cases s with
  | nil => exact absurd rfl nonempty
  | cons c s => exact solid_cons_iff.2 (solid_cons_iff.1 solid)

theorem skipBlanks_append (h : Blank b) (t : Text) : skipBlanks (b ++ t) = skipBlanks t :=
  List.dropWhile_append_of_pos fun _ mem => h.isBlank_of_mem mem

/-- What is skipped is blank, and nothing else is. -/
theorem skipBlanks_eq_iff : skipBlanks t = s ↔ Solid s ∧ ∃ b, Blank b ∧ b ++ s = t := by
  constructor
  · rintro rfl
    refine ⟨List.dropWhile_idempotent _ _, t.takeWhile isBlank, ?_, ?_⟩
    · exact List.all_takeWhile
    · exact List.takeWhile_append_dropWhile
  · rintro ⟨solid, b, blank, rfl⟩
    rw [skipBlanks_append blank, solid]

theorem skipBlanks_eq_nil_iff : skipBlanks t = [] ↔ Blank t := by
  rw [skipBlanks_eq_iff]
  constructor
  · rintro ⟨-, b, blank, rfl⟩
    rwa [List.append_nil]
  · exact fun blank => ⟨solid_nil, t, blank, List.append_nil t⟩

/-- A text that is blank and yet does not begin with a blank is empty. -/
theorem Blank.eq_nil_of_solid (blank : Blank t) (solid : Solid t) : t = [] := by
  rw [← solid, skipBlanks_eq_nil_iff.2 blank]

end LinkDefinitions
