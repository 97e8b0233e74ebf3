import LinkDefinitions.Cursor
import Mathlib.Data.List.Basic

/-!
# The text ahead of a cursor at any position

A position is any integer, and only one further before the start of its line than the line is long
is out of range (`ahead_eq_error_iff`). Everything else follows from the text ahead: whether the
line is over, the next character, which is the one at the index that the position is
(`current_eq`), and the text ahead one character further, which goes on with the whole line behind
the last character of it if the position is negative (`ahead_forward_one`).
-/

namespace LinkDefinitions

namespace Cursor

variable {c : Cursor} {s t : Text} {ch : Char} {fault : Fault}

/-- The character at an index, which counts from the end of the line if it is negative. -/
def charAt? (source : Text) (i : Int) : Option Char :=
  if 0 ≤ i then source[i.toNat]?
  else if 0 ≤ source.length + i then source[(source.length + i).toNat]?
  else none

theorem ahead_eq_error_iff :
    c.ahead = .error fault ↔ fault = .outOfRange ∧ c.pos < -c.source.length := by
  unfold ahead
  split
  · simp
    omega
  · split
    · simp
      omega
    · simp [eq_comm]
      omega

theorem length_ahead (h : c.ahead = .ok t) :
    (t.length : Int) = max 0 (c.source.length - c.pos) := by
  unfold ahead at h
  split at h
  · obtain rfl := Except.ok.inj h
    rw [List.length_drop]
    omega
  · split at h
    · obtain rfl := Except.ok.inj h
      rw [List.length_append, List.length_drop]
      omega
    · cases h

theorem atEnd_of_ahead_nil (h : c.ahead = .ok []) : c.atEnd = true := by
  have length := length_ahead h
  rw [atEnd, decide_eq_true_eq]
  simp only [List.length_nil] at length
  omega

theorem atEnd_of_ahead_cons (h : c.ahead = .ok (ch :: t)) : c.atEnd = false := by
  have length := length_ahead h
  rw [atEnd, decide_eq_false_iff_not]
  simp only [List.length_cons] at length
  omega

theorem atEnd_of_ahead_error (h : c.ahead = .error fault) : c.atEnd = false := by
  have before := (ahead_eq_error_iff.1 h).2
  rw [atEnd, decide_eq_false_iff_not]
  omega

theorem current_of_ahead (h : c.ahead = .ok (ch :: t)) : c.current = .ok ch := by
  rw [current, h]
  rfl

theorem current_of_ahead_error (h : c.ahead = .error fault) : c.current = .error fault := by
  rw [current, h]
  rfl

theorem charAt?_of_ahead (h : c.ahead = .ok (ch :: t)) : charAt? c.source c.pos = some ch := by
  unfold ahead at h
  unfold charAt?
  split at h
  · next nonneg =>
    rw [if_pos nonneg, ← List.head?_drop, Except.ok.inj h, List.head?_cons]
  · next negative =>
    split at h
    · next inside =>
      have nonempty : c.source.drop (c.source.length + c.pos).toNat ≠ [] := by
        rw [Ne, List.drop_eq_nil_iff]
        omega
      rw [if_neg negative, if_pos inside, ← List.head?_drop,
        ← List.head?_append_of_ne_nil _ nonempty, Except.ok.inj h, List.head?_cons]
    · cases h

/-- The next character is the one at the position of the cursor. -/
theorem current_eq (c : Cursor) :
    c.current =
      if c.atEnd then .error (.pastEnd c.pos)
      else
        match charAt? c.source c.pos with
        | none => .error .outOfRange
        | some ch => .ok ch := by
  cases eq : c.ahead with
  | error fault =>
    obtain ⟨rfl, before⟩ := ahead_eq_error_iff.1 eq
    have nothing : charAt? c.source c.pos = none := by
      rw [charAt?, if_neg (by omega), if_neg (by omega)]
    rw [current_of_ahead_error eq, atEnd_of_ahead_error eq, nothing]
    rfl
  | ok t =>
    cases t with
    | nil =>
      rw [current, eq, atEnd_of_ahead_nil eq]
      rfl
    | cons ch t =>
      rw [current_of_ahead eq, atEnd_of_ahead_cons eq, charAt?_of_ahead eq]
      rfl

theorem ahead_forward_one (h : c.ahead = .ok (ch :: t)) : (c.forward 1).ahead = .ok t := by
  unfold ahead at h
  split at h
  · next nonneg =>
    have behind : (c.pos + (1 : Nat)).toNat = c.pos.toNat + 1 := by omega
    have rest := congrArg List.tail (Except.ok.inj h)
    rw [List.tail_drop, List.tail_cons] at rest
    have still : 0 ≤ c.pos + (1 : Nat) := by omega
    rw [ahead, forward, if_pos still, behind, rest]
  · next negative =>
    split at h
    · next inside =>
      have nonempty : c.source.drop (c.source.length + c.pos).toNat ≠ [] := by
        rw [Ne, List.drop_eq_nil_iff]
        omega
      have rest := congrArg List.tail (Except.ok.inj h)
      rw [List.tail_append_of_ne_nil nonempty, List.tail_drop, List.tail_cons] at rest
      -- Behind the last character of the line comes its first one.
      by_cases last : c.pos = -1
      · have all : c.source.length ≤ (c.source.length + c.pos).toNat + 1 := by omega
        rw [List.drop_eq_nil_of_le all, List.nil_append] at rest
        rw [ahead, forward, last, ← rest]
        rfl
      · have behind : (c.source.length + (c.pos + (1 : Nat))).toNat =
            (c.source.length + c.pos).toNat + 1 := by omega
        have still : ¬ 0 ≤ c.pos + (1 : Nat) := by omega
        have within : 0 ≤ c.source.length + (c.pos + (1 : Nat)) := by omega
        rw [ahead, forward, if_neg still, if_pos within, behind, rest]
    · cases h

theorem forward_zero (c : Cursor) : c.forward 0 = c := by
  simp [forward]

theorem forward_forward (c : Cursor) (j k : Nat) : (c.forward j).forward k = c.forward (j + k) := by
  simp only [forward, mk.injEq, true_and]
  omega

theorem ahead_forward (h : c.ahead = .ok (s ++ t)) : (c.forward s.length).ahead = .ok t := by
  induction s generalizing c with
  | nil => rwa [List.length_nil, forward_zero]
  | cons ch s ih =>
    have rest := ih (ahead_forward_one h)
    rwa [forward_forward, Nat.add_comm] at rest

theorem advance_one (h : c.ahead = .ok (ch :: t)) : c.advance 1 = c.forward 1 := by
  have length := length_ahead h
  simp only [List.length_cons] at length
  simp only [advance, forward, mk.injEq, true_and]
  omega

/-! ### Scans -/

theorem scanWith_of_ahead {scan : Text → Option (Text × Text)} (ahead : c.ahead = .ok t) :
    c.scanWith scan = .ok ((scan t).map fun (taken, _) => c.forward taken.length) := by
  rw [scanWith, ahead]
  rfl

theorem scanWith_fault {scan : Text → Option (Text × Text)} (h : c.ahead = .error fault) :
    c.scanWith scan = .error fault := by
  rw [scanWith, h]
  rfl

theorem skipBlanks_of_ahead (h : c.ahead = .ok t) :
    c.skipBlanks = .ok (c.forward (t.takeWhile isBlank).length) := by
  rw [skipBlanks, h]
  rfl

theorem skipBlanks_fault (h : c.ahead = .error fault) : c.skipBlanks = .error fault := by
  rw [skipBlanks, h]
  rfl

end Cursor

end LinkDefinitions
