import LinkDefinitions.CaseFolding.Basic
import LinkDefinitions.Proofs.Blank

/-!
# Folding twice

The foldings of the table are final: a character that does not fold to itself folds to characters
that do, and these are no blanks (`fold_cases`). So a text that is folded does not change when it is
folded again (`foldText_foldText`), and folding leaves the words of a text apart
(`keepsWords_fold`).

The table speaks of runs of characters, so most of this is checked for pairs of runs: the image of
one misses all characters of the other (`Run.misses`).
-/

namespace LinkDefinitions.CaseFolding

variable {r q : Run} {c d : Char} {n : Nat} {t : Text}

/-- A character that folds to itself and is no blank. -/
def Final (c : Char) : Prop := fold c = [c] ∧ isBlank c = false
deriving Decidable

/-! ### The characters that change -/

/-- Runs of the characters that do not fold to themselves. A single character is a run of every
stride; stride 2 lets its parity tell it from the characters around it. -/
def sources : List Run := runs ++ expansions.map fun (n, _) => ⟨n, n, 2, n⟩

theorem fold_eq_self (h : ∀ q ∈ sources, q.covers c.toNat = false) : fold c = [c] := by
  simp only [sources, List.forall_mem_append, List.forall_mem_map] at h
  obtain ⟨single, several⟩ := h
  have unexpanded : expansions.lookup c.toNat = none := by
    refine List.lookup_eq_none_iff.2 fun p mem => ?_
    have apart := several p mem
    simp only [Run.covers, Bool.and_eq_false_iff, decide_eq_false_iff_not, beq_eq_false_iff_ne]
      at apart
    simp only [bne_iff_ne]
    intro same
    omega
  have uncovered : runs.find? (·.covers c.toNat) = none := by
    refine List.find?_eq_none.2 fun r mem => ?_
    simp [single r mem]
  rw [fold, unexpanded, uncovered]

/-! ### The characters that others fold to -/

/-- A test that the run `r` folds nothing to a character of the run `q`: the two intervals are
apart, or they run in parallel over characters of different parity. -/
def Run.misses (r q : Run) : Bool :=
  (r.image + (r.last - r.first)).blt q.first || q.last.blt r.image ||
    (q.stride == 2 && (r.stride == 2 || r.first == r.last) && (r.image + q.first) % 2 == 1)

theorem Run.not_covers_of_misses (h : r.misses q = true) (covers : r.covers n = true) :
    q.covers (r.image + (n - r.first)) = false := by
  simp only [Run.misses, Run.covers, Bool.or_eq_true, Bool.and_eq_true, Nat.blt_eq, beq_iff_eq,
    decide_eq_true_eq] at h covers
  obtain ⟨⟨after, before⟩, strides⟩ := covers
  simp only [Run.covers, Bool.and_eq_false_iff, decide_eq_false_iff_not, beq_eq_false_iff_ne]
  rcases h with (above | below) | ⟨⟨two, steps⟩, parity⟩
  · omega
  · omega
  · rw [two]
    have even : (n - r.first) % 2 = 0 := by
      rcases steps with steps | single
      · rwa [steps] at strides
      · omega
    omega

/-- No image of a run changes again. -/
theorem misses_sources : ∀ r ∈ runs, ∀ q ∈ sources, r.misses q = true := by
  have all : runs.all (fun r => sources.all r.misses) = true := by decide +kernel
  simpa only [List.all_eq_true] using all

/-- The images of runs are characters, and come after all blanks. -/
theorem image_bounds :
    ∀ r ∈ runs, 0x20 < r.image ∧
      (r.image + (r.last - r.first) < 0xD800 ∨
        0xDFFF < r.image ∧ r.image + (r.last - r.first) < 0x110000) := by
  have all : runs.all (fun r => 0x20 < r.image &&
      (r.image + (r.last - r.first) < 0xD800 ||
        0xDFFF < r.image && r.image + (r.last - r.first) < 0x110000)) = true := by
    decide +kernel
  simpa only [List.all_eq_true, Bool.and_eq_true, Bool.or_eq_true, decide_eq_true_eq] using all

theorem final_of_covers (mem : r ∈ runs) (covers : r.covers n = true) :
    Final (Char.ofNat (r.image + (n - r.first))) := by
  obtain ⟨solid, valid⟩ := image_bounds r mem
  have bound : n - r.first ≤ r.last - r.first := by
    simp only [Run.covers, Bool.and_eq_true, decide_eq_true_eq] at covers
    omega
  have code : (Char.ofNat (r.image + (n - r.first))).toNat = r.image + (n - r.first) := by
    have character : (r.image + (n - r.first)).isValidChar := by
      unfold Nat.isValidChar
      omega
    rw [Char.ofNat, dif_pos character]
    rfl
  constructor
  · refine fold_eq_self fun q source => ?_
    rw [code]
    exact Run.not_covers_of_misses (misses_sources r mem q source) covers
  · refine isBlank_eq_false_of_lt ?_
    rw [code]
    omega

theorem final_of_expansion {image : List Nat} (mem : (n, image) ∈ expansions) :
    image ≠ [] ∧ ∀ i ∈ image, Final (Char.ofNat i) := by
  have all : expansions.all (fun p => p.2 != [] && p.2.all fun i => decide (Final (Char.ofNat i)))
      = true := by
    decide +kernel
  simpa using List.all_eq_true.1 all _ mem

/-! ### Folding -/

theorem fold_blank (h : isBlank c = true) : fold c = [c] := by
  have all : blanks.all (fun c => fold c == [c]) = true := by decide +kernel
  exact beq_iff_eq.1 (List.all_eq_true.1 all c (List.contains_iff_mem.1 h))

/-- A character folds to itself or to final characters, of which there is at least one. -/
theorem fold_cases (c : Char) :
    fold c = [c] ∨ fold c ≠ [] ∧ ∀ d ∈ fold c, Final d := by
  unfold fold
  split
  · next image eq =>
    obtain ⟨before, after, split, -⟩ := List.lookup_eq_some_iff.1 eq
    have mem : (c.toNat, image) ∈ expansions := by simp [split]
    obtain ⟨nonempty, final⟩ := final_of_expansion mem
    refine .inr ⟨by simpa using nonempty, ?_⟩
    rwa [List.forall_mem_map]
  · split
    · next r eq =>
      have covers := List.find?_some eq
      refine .inr ⟨List.cons_ne_nil _ _, fun d mem => ?_⟩
      obtain rfl := List.mem_singleton.1 mem
      exact final_of_covers (List.mem_of_find?_eq_some eq) covers
    · exact .inl rfl

theorem fold_ne_nil (c : Char) : fold c ≠ [] := by
  rcases fold_cases c with same | ⟨nonempty, -⟩
  · simp [same]
  · exact nonempty

/-- What a character folds to folds to itself. -/
theorem fold_of_mem_fold (mem : d ∈ fold c) : fold d = [d] := by
  rcases fold_cases c with same | ⟨-, final⟩
  · rw [same, List.mem_singleton] at mem
    rw [mem, same]
  · exact (final d mem).1

/-- A character that is no blank folds to no blank. -/
theorem isBlank_of_mem_fold (h : isBlank c = false) (mem : d ∈ fold c) : isBlank d = false := by
  rcases fold_cases c with same | ⟨-, final⟩
  · rw [same, List.mem_singleton] at mem
    rwa [mem]
  · exact (final d mem).2

/-- A way to fold characters that leaves the words of a text apart: the blanks stay as they are, and
any other character folds to at least one character, none of them a blank. -/
structure KeepsWords (fold : Char → Text) : Prop where
  blank : ∀ c, isBlank c = true → fold c = [c]
  ne_nil : ∀ c, isBlank c = false → fold c ≠ []
  solid : ∀ c, isBlank c = false → ∀ d ∈ fold c, isBlank d = false

theorem keepsWords_fold : KeepsWords fold where
  blank _ := fold_blank
  ne_nil c _ := fold_ne_nil c
  solid _ h _ := isBlank_of_mem_fold h

theorem foldText_eq_self (h : ∀ c ∈ t, fold c = [c]) : foldText t = t := by
  induction t with
  | nil => rfl
  | cons c t ih =>
    rw [List.forall_mem_cons] at h
    rw [foldText_cons, h.1, ih h.2]
    rfl

/-- **Folding twice** is folding once. -/
theorem foldText_foldText (t : Text) : foldText (foldText t) = foldText t := by
  refine foldText_eq_self fun d mem => ?_
  obtain ⟨c, -, mem⟩ := List.mem_flatMap.1 mem
  exact fold_of_mem_fold mem

end LinkDefinitions.CaseFolding
