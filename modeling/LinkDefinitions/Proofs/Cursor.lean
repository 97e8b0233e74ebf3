import LinkDefinitions.Cursor
import LinkDefinitions.Proofs.Scan

/-!
# Cursors within their line

`Cursor.before line t` is the cursor in `line` before its final part `t`. Such a cursor has `t`
ahead of it, so nothing that it is asked for is out of reach, and every operation on it is the
operation on `t`: it leads to the cursor before what the operation leaves of `t`.
-/

namespace LinkDefinitions

namespace Cursor

variable {line s t u : Text} {c : Char}

/-- The cursor in a line before its final part `t`. -/
def before (line t : Text) : Cursor := ⟨line, line.length - t.length⟩

theorem before_self (line : Text) : before line line = ⟨line, 0⟩ := by
  rw [before, Int.sub_self]

/-- A cursor that has moved is at another place. -/
theorem before_pos_inj (h : u <:+ t) (same : (before line u).pos = (before line t).pos) :
    u = t := by
  have shorter := h.length_le
  dsimp only [before] at same
  exact h.eq_of_length (by omega)

theorem atEnd_before (line t : Text) : (before line t).atEnd = true ↔ t = [] := by
  have same : (line.length : Int) ≤ line.length - t.length ↔ t.length = 0 := by omega
  rw [← List.length_eq_zero_iff, ← same]
  exact decide_eq_true_iff

theorem ahead_before (h : t <:+ line) : (before line t).ahead = .ok t := by
  have shorter := h.length_le
  have nonneg : (0 : Int) ≤ line.length - t.length := by omega
  have count : ((line.length : Int) - t.length).toNat = line.length - t.length := by omega
  rw [ahead, before, if_pos nonneg, count, ← List.suffix_iff_eq_drop.1 h]

theorem forward_before (whole : s ++ u = t) :
    (before line t).forward s.length = before line u := by
  subst whole
  simp only [forward, before, List.length_append, mk.injEq, true_and]
  omega

theorem advance_before (h : c :: u <:+ line) :
    (before line (c :: u)).advance 1 = before line u := by
  have shorter := h.length_le
  simp only [List.length_cons] at shorter
  simp only [advance, before, List.length_cons, mk.injEq, true_and]
  omega

theorem current_before (h : c :: u <:+ line) : (before line (c :: u)).current = .ok c := by
  rw [current, ahead_before h]
  rfl

theorem skipBlanks_before (h : t <:+ line) :
    (before line t).skipBlanks = .ok (before line (LinkDefinitions.skipBlanks t)) := by
  rw [skipBlanks, ahead_before h]
  exact congrArg Except.ok (forward_before List.takeWhile_append_dropWhile)

theorem expect_before_cons (h : c :: u <:+ line) :
    (before line (c :: u)).expect [c] = .ok (some (before line u)) := by
  have moved : (before line (c :: u)).forward 1 = before line u :=
    forward_before (s := [c]) rfl
  rw [expect, ahead_before h, ← moved]
  exact congrArg Except.ok (if_pos rfl)

theorem expect_before_ne (h : t <:+ line) (other : t.head? ≠ some c) :
    (before line t).expect [c] = .ok none := by
  rw [expect, ahead_before h]
  cases t with
  | nil => rfl
  | cons d u =>
    have apart : [d] ≠ [c] := by simpa using other
    exact congrArg Except.ok (if_neg apart)

theorem sliceTo_before (h : t <:+ line) (whole : s ++ u = t) :
    (before line t).sliceTo (before line u).pos = s := by
  obtain ⟨r, rfl⟩ := h
  subst whole
  have from_start : bound (r ++ (s ++ u)) (before (r ++ (s ++ u)) (s ++ u)).pos = r.length := by
    simp only [bound, before, List.length_append]
    split <;> omega
  have to_stop : bound (r ++ (s ++ u)) (before (r ++ (s ++ u)) u).pos = (r ++ s).length := by
    simp only [bound, before, List.length_append]
    split <;> omega
  unfold sliceTo
  dsimp only [before] at from_start to_stop ⊢
  rw [from_start, to_stop, ← List.append_assoc, List.take_left, List.drop_left]

/-- A scan from a cursor leads to the cursor before what the scan leaves. -/
theorem scanWith_before {scan : Text → Option (Text × Text)} (h : t <:+ line)
    (loses_nothing : ∀ {a b}, scan t = some (a, b) → a ++ b = t) :
    (before line t).scanWith scan = .ok ((scan t).map fun (_, rest) => before line rest) := by
  rw [scanWith, ahead_before h]
  cases eq : scan t with
  | none => exact congrArg (Except.ok <| Option.map _ ·) eq
  | some parts =>
    obtain ⟨taken, rest⟩ := parts
    have moved : (before line t).forward taken.length = before line rest :=
      forward_before (loses_nothing eq)
    show Except.ok ((scan t).map _) = _
    rw [eq]
    exact congrArg (fun after => Except.ok (some after)) moved

theorem rawDestination_before (h : t <:+ line) :
    (before line t).rawDestination =
      .ok ((Scan.rawDestination t).map fun (value, rest) => (value, before line rest)) := by
  rw [rawDestination, scanDestination, scanWith_before h Scan.destination_append,
    Scan.rawDestination]
  cases eq : Scan.destination t with
  | none => rfl
  | some parts =>
    have slice := sliceTo_before h (Scan.destination_append eq)
    show Except.ok (some (Scan.stripAngles _, _)) = _
    rw [slice]
    rfl

end Cursor

end LinkDefinitions
