import LinkDefinitions.Text.Numeral
import Mathlib.Data.List.Basic

/-!
# Numerals read back

A numeral has the value of the number that it was written for (`numeralValue_toDigits`). Zeros in
front and the case of its letters make no difference.
-/

namespace LinkDefinitions

variable {base : Nat} {ds : Text} {c : Char}

/-- What holds of the digits of a base holds of every digit of a numeral. -/
theorem forall_mem_toDigits {P : Char → Prop} (big : 1 < base)
    (digit : ∀ d < base, P (Nat.digitChar d)) (n : Nat) : ∀ c ∈ Nat.toDigits base n, P c := by
  induction n using Nat.strongRecOn with
  | ind n ih =>
    rw [Nat.toDigits_eq_if big]
    by_cases single : n < base
    · rw [if_pos single]
      simpa using digit n single
    · rw [if_neg single]
      have shorter : n / base < n := Nat.div_lt_self (by omega) big
      have last := digit (n % base) (Nat.mod_lt n (by omega))
      simpa [or_imp, forall_and] using ⟨ih _ shorter, last⟩

theorem isDigit_of_mem_toDigits (n : Nat) : ∀ c ∈ Nat.toDigits 10 n, isDigit c = true :=
  forall_mem_toDigits (by decide) (by decide) n

theorem isHexDigit_of_mem_toDigits (n : Nat) : ∀ c ∈ Nat.toDigits 16 n, isHexDigit c = true :=
  forall_mem_toDigits (by decide) (by decide) n

/-! ### Values -/

theorem numeralValue_concat (base : Nat) (ds : Text) (c : Char) :
    numeralValue base (ds ++ [c]) = base * numeralValue base ds + digitValue c := by
  simp [numeralValue]

theorem numeralValue_toDigits (big : 1 < base) (small : base ≤ 16) (n : Nat) :
    numeralValue base (Nat.toDigits base n) = n := by
  have digit : ∀ d < 16, digitValue (Nat.digitChar d) = d := by decide
  induction n using Nat.strongRecOn with
  | ind n ih =>
    rw [Nat.toDigits_eq_if big]
    by_cases single : n < base
    · rw [if_pos single, ← List.nil_append [n.digitChar], numeralValue_concat,
        digit n (by omega)]
      exact Nat.zero_add n
    · rw [if_neg single, numeralValue_concat, ih _ (Nat.div_lt_self (by omega) big),
        digit _ (Nat.lt_of_lt_of_le (Nat.mod_lt n (by omega)) small), Nat.div_add_mod]

/-- Zeros in front do not count. -/
theorem numeralValue_zeros (base zeros : Nat) (ds : Text) :
    numeralValue base (List.replicate zeros '0' ++ ds) = numeralValue base ds := by
  induction zeros with
  | zero => rfl
  | succ zeros ih =>
    rw [List.replicate_succ, List.cons_append, ← ih]
    show List.foldl _ (base * 0 + digitValue '0') _ = _
    rfl

/-! ### Letters of either case -/

/-- A capital letter is 32 code points before its lowercase form. -/
theorem toLower_cases (c : Char) :
    c.toLower = c ∨ 0x41 ≤ c.toNat ∧ c.toNat ≤ 0x5A ∧ c.toLower.toNat = c.toNat + 32 := by
  unfold Char.toLower
  split
  · next capital =>
    obtain ⟨above, below⟩ := capital
    have above : 0x41 ≤ c.toNat := UInt32.le_iff_toNat_le.1 above
    have below : c.toNat ≤ 0x5A := UInt32.le_iff_toNat_le.1 below
    refine .inr ⟨above, below, ?_⟩
    show (c.toNat + 32) % 2 ^ 32 = c.toNat + 32
    omega
  · exact .inl rfl

/-- A character whose lowercase form is a hexadecimal digit is the same digit. -/
theorem digit_of_toLower (h : isHexDigit c.toLower = true) :
    isHexDigit c = true ∧ digitValue c.toLower = digitValue c := by
  rcases toLower_cases c with same | ⟨above, below, lower⟩
  · rw [same] at h ⊢
    exact ⟨h, rfl⟩
  · simp only [isHexDigit, isDigit, lower, Bool.or_eq_true, Bool.and_eq_true,
      decide_eq_true_eq] at h ⊢
    refine ⟨by omega, ?_⟩
    have letter : isDigit c = false ∧ isDigit c.toLower = false := by
      simp only [isDigit, lower, Bool.and_eq_false_iff, decide_eq_false_iff_not]
      omega
    simp only [digitValue, letter.1, letter.2, lower, Bool.false_eq_true, if_false]
    rw [if_neg (by omega), if_pos (by omega)]
    omega

/-- The case of the letters does not count. -/
theorem numeral_of_toLower (h : ∀ c ∈ ds, isHexDigit c.toLower = true) :
    (∀ c ∈ ds, isHexDigit c = true) ∧
      numeralValue 16 (ds.map Char.toLower) = numeralValue 16 ds := by
  refine ⟨fun c mem => (digit_of_toLower (h c mem)).1, ?_⟩
  unfold numeralValue
  rw [List.foldl_map]
  refine List.foldl_ext _ _ _ fun n c mem => ?_
  rw [(digit_of_toLower (h c mem)).2]

end LinkDefinitions
