import LinkDefinitions.Label
import LinkDefinitions.Proofs.Blank
import LinkDefinitions.Proofs.CaseFolding
import Mathlib.Data.List.Chain

/-!
# The key of a label

A label is a list of words with blanks around them. Its key is made of the folded words, with one
space between each and the next (`key_eq`), so the words of a key are the folded words of the label
(`words_key`) and a key is its own key (`key_key`).

Only the last of these needs more of the folding of characters than that it leaves words apart. What
follows from that alone is said of `keyBy`, for any such folding.
-/

namespace LinkDefinitions.Label

open CaseFolding

variable {s t w : Text} {ws : List Text} {c d : Char} {fold : Char → Text}

/-! ### Words -/

/-- A word is not empty and holds no blank. -/
def Word (w : Text) : Prop := w ≠ [] ∧ ∀ c ∈ w, isBlank c = false

/-- The words of a text, the longest parts without a blank. -/
def words (t : Text) : List Text := (t.splitOnP isBlank).filter (· ≠ [])

@[simp] theorem words_nil : words [] = [] := by
  simp [words]

/-- A blank separates words. -/
theorem words_append_blank (blank : isBlank c = true) (s t : Text) :
    words (s ++ c :: t) = words s ++ words t := by
  unfold words
  rw [List.splitOnP_append_cons s t blank, List.filter_append]

theorem words_cons_blank (blank : isBlank c = true) (t : Text) : words (c :: t) = words t :=
  words_append_blank blank [] t

@[simp] theorem words_skipBlanks (t : Text) : words (skipBlanks t) = words t := by
  induction t with
  | nil => rfl
  | cons c t ih =>
    by_cases blank : isBlank c = true
    · rw [words_cons_blank blank, ← ih, skipBlanks, List.dropWhile_cons_of_pos blank]
      rfl
    · rw [skipBlanks, List.dropWhile_cons_of_neg blank]

theorem words_blank_append {b : Text} (blank : Blank b) (t : Text) : words (b ++ t) = words t := by
  rw [← words_skipBlanks, skipBlanks_append blank, words_skipBlanks]

/-- Blanks separate words, however many they are. -/
theorem words_append_blank_append {b : Text} (blank : Blank b) (nonempty : b ≠ []) (s t : Text) :
    words (s ++ b ++ t) = words s ++ words t := by
  cases b with
  | nil => exact absurd rfl nonempty
  | cons c b =>
    rw [blank_cons_iff] at blank
    rw [List.append_assoc, List.cons_append, words_append_blank blank.1, words_blank_append blank.2]

theorem words_append_of_blank {b : Text} (blank : Blank b) (t : Text) :
    words (t ++ b) = words t := by
  by_cases empty : b = []
  · rw [empty, List.append_nil]
  · have split := words_append_blank_append blank empty t []
    rwa [words_nil, List.append_nil, List.append_nil] at split

theorem Word.words (h : Word w) : words w = [w] := by
  rw [Label.words, List.splitOnP_eq_singleton h.2]
  simp [h.1]

/-- A text that does not begin with a blank begins with a word, up to a blank or up to the end. -/
theorem exists_word (solid : isBlank c = false) (t : Text) :
    ∃ w rest, w ++ rest = c :: t ∧ Word w ∧ ∀ d ∈ rest.head?, isBlank d = true := by
  refine ⟨c :: t.takeWhile fun d => !isBlank d, t.dropWhile fun d => !isBlank d, ?_,
    ⟨List.cons_ne_nil _ _, ?_⟩, fun d head => ?_⟩
  · rw [List.cons_append, List.takeWhile_append_dropWhile]
  · rw [List.forall_mem_cons]
    exact ⟨solid, fun d mem => by simpa using List.mem_takeWhile_imp mem⟩
  · have stops := List.head?_dropWhile_not (fun d => !isBlank d) t
    rw [Option.mem_def.1 head] at stops
    simpa using stops

/-- A text is empty or one word, or it begins with a blank or with a word and a blank, and what is
left after the blanks is shorter. -/
theorem words_induction {P : Text → Prop} (nil : P []) (word : ∀ w, Word w → P w)
    (cons_blank : ∀ c t, isBlank c = true → P (skipBlanks t) → P (c :: t))
    (append_blank : ∀ w c t, Word w → isBlank c = true → P (skipBlanks t) → P (w ++ c :: t))
    (t : Text) : P t := by
  induction n : t.length using Nat.strong_induction_on generalizing t with
  | _ n ih =>
    subst n
    have shorter (u : Text) (h : u.length < t.length) : P (skipBlanks u) :=
      ih _ ((length_skipBlanks_le u).trans_lt h) _ rfl
    cases t with
    | nil => exact nil
    | cons c t =>
      by_cases blank : isBlank c = true
      · exact cons_blank c t blank (shorter t (Nat.lt_succ_self _))
      · obtain ⟨w, rest, whole, first, stops⟩ := exists_word (Bool.eq_false_iff.2 blank) t
        rw [← whole] at shorter ⊢
        cases rest with
        | nil =>
          rw [List.append_nil]
          exact word w first
        | cons d u =>
          refine append_blank w d u first (stops d rfl) (shorter u ?_)
          rw [List.length_append, List.length_cons]
          omega

theorem word_of_mem_words (mem : w ∈ words t) : Word w := by
  revert mem
  refine words_induction (P := fun t => w ∈ words t → Word w) ?_ ?_ ?_ ?_ t
  · simp
  · intro u word mem
    rw [word.words, List.mem_singleton] at mem
    rwa [mem]
  · intro c t blank ih mem
    rw [words_cons_blank blank, ← words_skipBlanks] at mem
    exact ih mem
  · intro u c t word blank ih mem
    rw [words_append_blank blank, word.words, List.singleton_append, List.mem_cons,
      ← words_skipBlanks] at mem
    rcases mem with rfl | mem
    · exact word
    · exact ih mem

/-- The words with a space between each and the next. -/
def spaced (ws : List Text) : Text := [' '].intercalate ws

/-- Words are read back. -/
theorem words_spaced (h : ∀ w ∈ ws, Word w) : words (spaced ws) = ws := by
  unfold spaced
  induction ws with
  | nil => simp
  | cons w ws ih =>
    rw [List.forall_mem_cons] at h
    cases ws with
    | nil => simpa using h.1.words
    | cons v ws =>
      rw [List.intercalate_cons_cons, List.append_assoc, List.singleton_append,
        words_append_blank (by decide), h.1.words, ih h.2, List.singleton_append]

theorem spaced_eq_nil_iff (h : ∀ w ∈ ws, Word w) : spaced ws = [] ↔ ws = [] := by
  constructor
  · intro empty
    rw [← words_spaced h, empty, words_nil]
  · rintro rfl
    simp [spaced]

/-- A text without words is blank. -/
theorem words_eq_nil_iff : words t = [] ↔ Blank t := by
  rw [← skipBlanks_eq_nil_iff, ← words_skipBlanks]
  cases rest : skipBlanks t with
  | nil => simp
  | cons c u =>
    have solid : isBlank c = false := solid_cons_iff.1 (skipBlanks_eq_iff.1 rest).1
    obtain ⟨w, rest, whole, word, stops⟩ := exists_word solid u
    rw [← whole]
    cases rest with
    | nil => simp [word.words, word.1]
    | cons d v => simp [words_append_blank (stops d rfl), word.words]

/-! ### Collapsing and trimming -/

theorem collapseBlanks_blank (blank : isBlank c = true) (t : Text) :
    collapseBlanks (c :: t) = ' ' :: collapseBlanks (skipBlanks t) := by
  rw [collapseBlanks, if_pos blank]

theorem collapseBlanks_solid (solid : isBlank c = false) (t : Text) :
    collapseBlanks (c :: t) = c :: collapseBlanks t := by
  rw [collapseBlanks, if_neg (by simp [solid])]

theorem collapseBlanks_append (h : ∀ c ∈ w, isBlank c = false) (t : Text) :
    collapseBlanks (w ++ t) = w ++ collapseBlanks t := by
  induction w with
  | nil => rfl
  | cons c w ih =>
    rw [List.forall_mem_cons] at h
    rw [List.cons_append, collapseBlanks_solid h.1, ih h.2, List.cons_append]

theorem trimSpaces_space (t : Text) : trimSpaces (' ' :: t) = trimSpaces t := rfl

theorem ne_space_of_isBlank (solid : isBlank c = false) : ¬ (c == ' ') = true := by
  rw [beq_iff_eq]
  rintro rfl
  exact absurd solid (by decide)

/-- Where no space is at the beginning, only the end is trimmed. -/
theorem trimSpaces_of_solid (solid : isBlank c = false) (t : Text) :
    trimSpaces (c :: t) = (c :: t).rdropWhile (· == ' ') := by
  have first : (c :: t).dropWhile (· == ' ') = c :: t :=
    List.dropWhile_cons_of_neg (ne_space_of_isBlank solid)
  rw [trimSpaces, first]
  rfl

theorem rdropWhile_space_ne_nil (solid : isBlank c = false) (t : Text) :
    (c :: t).rdropWhile (· == ' ') ≠ [] := by
  rw [ne_eq, List.rdropWhile_eq_nil_iff]
  exact fun spaces => ne_space_of_isBlank solid (spaces c List.mem_cons_self)

theorem rdropWhile_space_eq_self (h : ∀ c ∈ t, isBlank c = false) :
    t.rdropWhile (· == ' ') = t := by
  refine List.rdropWhile_eq_self_iff.2 fun nonempty => ?_
  exact ne_space_of_isBlank (h _ (List.getLast_mem nonempty))

theorem rdropWhile_append_of_ne_nil {p : Char → Bool} (h : t.rdropWhile p ≠ []) (s : Text) :
    (s ++ t).rdropWhile p = s ++ t.rdropWhile p := by
  unfold List.rdropWhile at h ⊢
  rw [List.reverse_append, List.dropWhile_append, if_neg (by simpa using h), List.reverse_append,
    List.reverse_reverse]

theorem Word.trimSpaces (h : Word w) : trimSpaces w = w := by
  cases w with
  | nil => exact absurd rfl h.1
  | cons c t => rw [trimSpaces_of_solid (h.2 c List.mem_cons_self), rdropWhile_space_eq_self h.2]

theorem Word.trimSpaces_space (h : Word w) : Label.trimSpaces (w ++ [' ']) = w := by
  cases w with
  | nil => exact absurd rfl h.1
  | cons c t =>
    rw [List.cons_append, trimSpaces_of_solid (h.2 c List.mem_cons_self), ← List.cons_append,
      List.rdropWhile_concat_pos _ _ _ rfl, rdropWhile_space_eq_self h.2]

/-- Only the end of what follows a word is trimmed, if more than blanks follow. -/
theorem Word.trimSpaces_append (h : Word w) (solid : isBlank d = false) (t : Text) :
    Label.trimSpaces (w ++ ' ' :: d :: t) = w ++ ' ' :: Label.trimSpaces (d :: t) := by
  cases w with
  | nil => exact absurd rfl h.1
  | cons c s =>
    have whole : (c :: s) ++ ' ' :: d :: t = ((c :: s) ++ [' ']) ++ d :: t := by simp
    rw [trimSpaces_of_solid solid, List.cons_append,
      trimSpaces_of_solid (h.2 c List.mem_cons_self), ← List.cons_append, whole,
      rdropWhile_append_of_ne_nil (rdropWhile_space_ne_nil solid t)]
    simp

/-- What is left of a text is its words with single spaces between them. -/
theorem trimSpaces_collapseBlanks (t : Text) :
    trimSpaces (collapseBlanks t) = spaced (words t) := by
  refine words_induction (P := fun t => trimSpaces (collapseBlanks t) = spaced (words t))
    ?_ ?_ ?_ ?_ t
  · simp [collapseBlanks, trimSpaces, spaced]
  · intro w word
    have collapsed := collapseBlanks_append word.2 []
    rw [List.append_nil, collapseBlanks, List.append_nil] at collapsed
    rw [collapsed, word.trimSpaces, word.words]
    simp [spaced]
  · intro c t blank ih
    rw [collapseBlanks_blank blank, trimSpaces_space, ih, words_skipBlanks, words_cons_blank blank]
  · intro w c t word blank ih
    rw [collapseBlanks_append word.2, collapseBlanks_blank blank, words_append_blank blank,
      word.words, ← words_skipBlanks t, List.singleton_append]
    -- The space after the word is trimmed if nothing but blanks follows, and separates it from the
    -- next word otherwise.
    cases rest : skipBlanks t with
    | nil =>
      rw [collapseBlanks, word.trimSpaces_space]
      simp [spaced]
    | cons d u =>
      have solid : isBlank d = false := solid_cons_iff.1 (skipBlanks_eq_iff.1 rest).1
      have kept := rdropWhile_space_ne_nil solid (collapseBlanks u)
      rw [rest, collapseBlanks_solid solid] at ih
      rw [collapseBlanks_solid solid, word.trimSpaces_append solid, ih]
      rw [trimSpaces_of_solid solid] at ih
      cases more : words (d :: u) with
      | nil => exact absurd (ih.trans (by simp [more, spaced])) kept
      | cons v vs => simp [spaced, List.intercalate_cons_cons]

/-! ### Keys -/

/-- The key of a raw label, with any way to fold characters. -/
def keyBy (fold : Char → Text) (raw : Text) : Text :=
  (trimSpaces (collapseBlanks raw)).flatMap fold

theorem key_eq_keyBy : key = keyBy CaseFolding.fold := rfl

theorem Word.flatMap (keeps : KeepsWords fold) (h : Word w) : Word (w.flatMap fold) := by
  obtain ⟨nonempty, solid⟩ := h
  constructor
  · cases w with
    | nil => exact absurd rfl nonempty
    | cons c w => simp [keeps.ne_nil c (solid c List.mem_cons_self)]
  · intro d mem
    obtain ⟨c, mem, folded⟩ := List.mem_flatMap.1 mem
    exact keeps.solid c (solid c mem) d folded

theorem flatMap_spaced (keeps : KeepsWords fold) (ws : List Text) :
    (spaced ws).flatMap fold = spaced (ws.map (·.flatMap fold)) := by
  unfold spaced
  induction ws with
  | nil => simp
  | cons w ws ih =>
    cases ws with
    | nil => simp
    | cons v ws =>
      have space : [' '].flatMap fold = [' '] := by
        rw [List.flatMap_singleton, keeps.blank ' ' (by decide)]
      rw [List.intercalate_cons_cons, List.flatMap_append, List.flatMap_append, ih, space]
      simp [List.intercalate_cons_cons]

/-- A key is made of the folded words of the label, with single spaces between them. -/
theorem keyBy_eq (keeps : KeepsWords fold) (raw : Text) :
    keyBy fold raw = spaced ((words raw).map (·.flatMap fold)) := by
  rw [keyBy, trimSpaces_collapseBlanks, flatMap_spaced keeps]

/-- The folded words of a label are words. -/
theorem forall_word_map (keeps : KeepsWords fold) (raw : Text) :
    ∀ w ∈ (words raw).map (·.flatMap fold), Word w := by
  rw [List.forall_mem_map]
  exact fun w mem => (word_of_mem_words mem).flatMap keeps

theorem words_keyBy (keeps : KeepsWords fold) (raw : Text) :
    words (keyBy fold raw) = (words raw).map (·.flatMap fold) := by
  rw [keyBy_eq keeps, words_spaced (forall_word_map keeps raw)]

/-- Two labels have the same key exactly if they have the same folded words. -/
theorem keyBy_eq_keyBy_iff (keeps : KeepsWords fold) :
    keyBy fold s = keyBy fold t ↔
      (words s).map (·.flatMap fold) = (words t).map (·.flatMap fold) := by
  constructor
  · intro same
    rw [← words_keyBy keeps, same, words_keyBy keeps]
  · intro same
    rw [keyBy_eq keeps, same, keyBy_eq keeps]

/-- A key is empty exactly if the label is blank. -/
theorem keyBy_eq_nil_iff (keeps : KeepsWords fold) : keyBy fold t = [] ↔ Blank t := by
  rw [← words_eq_nil_iff, keyBy_eq keeps, spaced_eq_nil_iff (forall_word_map keeps t),
    List.map_eq_nil_iff]

theorem key_eq (raw : Text) : key raw = spaced ((words raw).map foldText) :=
  keyBy_eq keepsWords_fold raw

theorem words_key (raw : Text) : words (key raw) = (words raw).map foldText :=
  words_keyBy keepsWords_fold raw

/-- A key is its own key. -/
theorem key_key (raw : Text) : key (key raw) = key raw := by
  rw [key_eq, words_key, List.map_map, key_eq raw]
  congr 1
  exact List.map_congr_left fun w _ => foldText_foldText w

/-! ### The blanks of a key -/

/-- A text in which single spaces stand between other characters, and no other blank is. -/
structure Tight (t : Text) : Prop where
  head : t.head? ≠ some ' '
  last : t.getLast? ≠ some ' '
  apart : t.IsChain fun c d => ¬ (c = ' ' ∧ d = ' ')
  single : ∀ c ∈ t, isBlank c = true → c = ' '

theorem Tight.not_infix (h : Tight t) : ¬ [' ', ' '] <:+: t := by
  intro within
  have pair := h.apart.infix within
  rw [List.isChain_pair] at pair
  exact pair ⟨rfl, rfl⟩

theorem ne_space_of_mem (solid : ∀ c ∈ w, isBlank c = false) : ∀ c ∈ w, c ≠ ' ' := by
  rintro _ mem rfl
  exact absurd (solid ' ' mem) (by decide)

theorem Word.tight (h : Word w) : Tight w where
  head first := ne_space_of_mem h.2 ' ' (List.mem_of_head? first) rfl
  last final := ne_space_of_mem h.2 ' ' (List.mem_of_getLast? final) rfl
  apart := by
    refine List.Pairwise.isChain (List.pairwise_of_forall_mem_list fun c mem d _ => ?_)
    rintro ⟨rfl, -⟩
    exact ne_space_of_mem h.2 ' ' mem rfl
  single c mem blank := absurd blank (by simp [h.2 c mem])

theorem Word.tight_append (h : Word w) (rest : Tight t) (nonempty : t ≠ []) :
    Tight (w ++ ' ' :: t) where
  head := by
    rw [List.head?_append_of_ne_nil _ h.1]
    exact h.tight.head
  last := by
    rw [List.getLast?_append_of_ne_nil _ (List.cons_ne_nil _ _),
      List.getLast?_cons_of_ne_nil nonempty]
    exact rest.last
  apart := by
    refine List.isChain_append.2 ⟨h.tight.apart, List.isChain_cons.2 ⟨?_, rest.apart⟩, ?_⟩
    · rintro d first ⟨-, rfl⟩
      exact rest.head first
    · rintro c final d - ⟨rfl, -⟩
      exact h.tight.last final
  single c mem blank := by
    rcases List.mem_append.1 mem with inside | behind
    · exact h.tight.single c inside blank
    · rcases List.mem_cons.1 behind with rfl | behind
      · rfl
      · exact rest.single c behind blank

theorem tight_spaced (h : ∀ w ∈ ws, Word w) : Tight (spaced ws) := by
  induction ws with
  | nil => exact ⟨by simp [spaced], by simp [spaced], by simp [spaced], by simp [spaced]⟩
  | cons w ws ih =>
    rw [List.forall_mem_cons] at h
    cases ws with
    | nil => simpa [spaced] using h.1.tight
    | cons v vs =>
      have whole : spaced (w :: v :: vs) = w ++ ' ' :: spaced (v :: vs) := by
        simp [spaced, List.intercalate_cons_cons]
      rw [whole]
      refine h.1.tight_append (ih h.2) ?_
      rw [ne_eq, spaced_eq_nil_iff h.2]
      exact List.cons_ne_nil v vs

/-- The blanks of a key are single spaces between its words. -/
theorem tight_keyBy (keeps : KeepsWords fold) (raw : Text) : Tight (keyBy fold raw) := by
  rw [keyBy_eq keeps]
  exact tight_spaced (forall_word_map keeps raw)

end LinkDefinitions.Label
