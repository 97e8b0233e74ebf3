import LinkDefinitions.Literal
import LinkDefinitions.Proofs.Glyph

/-!
# Writing literal texts

A token stands (`Literal.Token.Stands`) if it is read where it is written, whatever follows it
(`tokens_append`). A text that is written in tokens that stand has their values as its literal text
(`unescape_flatMap_source`).

`escape` writes any text in such tokens and within one line: a backslash before each punctuation
character, and character references for the line ends. So `unescape` undoes it (`unescape_escape`),
and between marks of punctuation it is taken whole (`encloses_escape`).
-/

namespace LinkDefinitions

variable {stop : Glyph → Bool} {t body : Text} {c : Char}

/-! ### Tokens where they are written -/

/-- What has the shape of a code is made of digits. -/
theorem Reference.all_of_isCode {digit : Char → Bool} {most : Nat} {ds : Text}
    (h : isCode digit most ds = true) : ∀ d ∈ ds, digit d = true := by
  simp only [isCode, Bool.and_eq_true, List.all_eq_true] at h
  exact h.1.1

theorem Reference.isBodyChar_of_isDigit (h : isDigit c = true) : isBodyChar c = true := by
  simp [isBodyChar, isAlphanumeric, h]

theorem Reference.isBodyChar_of_isHexDigit (h : isHexDigit c = true) : isBodyChar c = true := by
  simp only [isHexDigit, isBodyChar, isAlphanumeric, isLetter, isDigit, Bool.or_eq_true,
    Bool.and_eq_true, decide_eq_true_eq] at h ⊢
  omega

/-- The body of a reference is made of body characters. -/
theorem Reference.isBodyChar_of_mem (h : (ofBody? body).isSome = true) :
    ∀ d ∈ body, isBodyChar d = true := by
  have hex {ds : Text} (h : (ofBody?.hex? ds).isSome = true) : ∀ d ∈ ds, isBodyChar d = true := by
    unfold ofBody?.hex? at h
    split at h
    · next code => exact fun d mem => isBodyChar_of_isHexDigit (all_of_isCode code d mem)
    · cases h
  have mark : isBodyChar '#' = true ∧ isBodyChar 'x' = true ∧ isBodyChar 'X' = true := by decide
  unfold ofBody? at h
  split at h
  · simpa [mark] using hex h
  · simpa [mark] using hex h
  · split at h
    · next code =>
      simpa [mark] using fun d mem => isBodyChar_of_isDigit (all_of_isCode code d mem)
    · cases h
  · split at h
    · next name =>
      cases body with
      | nil => simp
      | cons c t =>
        simp only [isName, Bool.and_eq_true] at name
        rw [List.forall_mem_cons]
        refine ⟨by simp [isBodyChar, isAlphanumeric, name.1], fun d mem => ?_⟩
        simp [isBodyChar, all_of_isCode name.2 d mem]
    · cases h

namespace Literal

/-- The token is read where it is written, whatever follows. -/
def Token.Stands : Token → Prop
  | plain c => c ≠ '\\' ∧ c ≠ '&'
  | escaped c => isPunctuation c = true
  | reference body => (Reference.ofBody? body).isSome = true

theorem tokens_nil : tokens [] = [] := by
  rw [tokens]

theorem tokens_cons (c : Char) (t : Text) :
    tokens (c :: t) =
      firstToken c t :: tokens (t.drop ((firstToken c t).source.length - 1)) := by
  rw [tokens]

theorem referenceBody?_append (h : (Reference.ofBody? body).isSome = true) (t : Text) :
    referenceBody? (body ++ ';' :: t) = some body := by
  have taken : (body ++ ';' :: t).takeWhile Reference.isBodyChar = body := by
    rw [List.takeWhile_append_of_pos (Reference.isBodyChar_of_mem h)]
    have ends : Reference.isBodyChar ';' = false := by decide
    simp [ends]
  simp [referenceBody?, taken, h]

theorem tokens_append {token : Token} (h : token.Stands) (t : Text) :
    tokens (token.source ++ t) = token :: tokens t := by
  cases token with
  | plain c =>
    obtain ⟨backslash, ampersand⟩ := h
    have first : firstToken c t = .plain c := by
      simp [firstToken, backslash, ampersand]
    show tokens (c :: t) = _
    rw [tokens_cons, first]
    rfl
  | escaped c =>
    have punctuation : isPunctuation c = true := h
    have first : firstToken '\\' (c :: t) = .escaped c := by
      simp [firstToken, punctuation]
    show tokens ('\\' :: c :: t) = _
    rw [tokens_cons, first]
    rfl
  | reference body =>
    have first : firstToken '&' (body ++ ';' :: t) = .reference body := by
      simp [firstToken, referenceBody?_append h]
    have whole : (Token.reference body).source ++ t = '&' :: (body ++ ';' :: t) := by
      simp [Token.source]
    rw [whole, tokens_cons, first]
    simp [Token.source]

end Literal

open Literal

theorem unescape_nil : unescape [] = [] := by
  rw [unescape, tokens_nil, List.flatMap_nil]

/-- A text written in tokens that stand has their values as its literal text. -/
theorem unescape_flatMap_source {tokens : List Token} (h : ∀ token ∈ tokens, token.Stands)
    (t : Text) :
    unescape (tokens.flatMap Token.source ++ t) = tokens.flatMap Token.value ++ unescape t := by
  induction tokens with
  | nil => rfl
  | cons token tokens ih =>
    rw [List.forall_mem_cons] at h
    rw [List.flatMap_cons, List.flatMap_cons, List.append_assoc, List.append_assoc, ← ih h.2,
      unescape, unescape, tokens_append h.1, List.flatMap_cons]

theorem unescape_sources {tokens : List Token} (h : ∀ token ∈ tokens, token.Stands) :
    unescape (tokens.flatMap Token.source) = tokens.flatMap Token.value := by
  have read := unescape_flatMap_source h []
  rwa [unescape_nil, List.append_nil, List.append_nil] at read

/-! ### Escaping a text -/

/-- The token that a character is written with. -/
def escapeToken (c : Char) : Token :=
  if isPunctuation c then .escaped c
  else if c = '\n' then .reference "#10".toList
  else if c = '\r' then .reference "#13".toList
  else .plain c

/-- A raw text, within one line, with the given literal text: each punctuation character has a
backslash before it, and line ends are written as references. -/
def escape (t : Text) : Text := t.flatMap fun c => (escapeToken c).source

/-- What holds of the four ways to write a character holds of the one that is chosen. -/
theorem escapeToken_cases {P : Char → Token → Prop}
    (punctuation : ∀ c, isPunctuation c = true → P c (.escaped c))
    (feed : P '\n' (.reference "#10".toList)) (carriage : P '\r' (.reference "#13".toList))
    (other : ∀ c, isPunctuation c = false → c ≠ '\n' → c ≠ '\r' → P c (.plain c)) (c : Char) :
    P c (escapeToken c) := by
  unfold escapeToken
  by_cases mark : isPunctuation c = true
  · rw [if_pos mark]
    exact punctuation c mark
  rw [if_neg mark]
  by_cases lf : c = '\n'
  · rw [if_pos lf, lf]
    exact feed
  rw [if_neg lf]
  by_cases cr : c = '\r'
  · rw [if_pos cr, cr]
    exact carriage
  rw [if_neg cr]
  exact other c (Bool.eq_false_iff.2 mark) lf cr

theorem escapeToken_stands (c : Char) : (escapeToken c).Stands := by
  refine escapeToken_cases (P := fun _ token => token.Stands) ?_ ?_ ?_ ?_ c
  · exact fun _ mark => mark
  · show (Reference.ofBody? "#10".toList).isSome = true
    decide
  · show (Reference.ofBody? "#13".toList).isSome = true
    decide
  · intro c ordinary _ _
    constructor
    · rintro rfl
      exact absurd ordinary (by decide)
    · rintro rfl
      exact absurd ordinary (by decide)

theorem escapeToken_value (c : Char) : (escapeToken c).value = [c] := by
  refine escapeToken_cases (P := fun c token => token.value = [c]) ?_ ?_ ?_ ?_ c
  · exact fun _ _ => rfl
  · decide
  · decide
  · exact fun _ _ _ _ => rfl

/-- What is escaped is read back. -/
theorem unescape_escape (t : Text) : unescape (escape t) = t := by
  have stand : ∀ token ∈ t.map escapeToken, token.Stands := by
    intro token mem
    obtain ⟨c, -, rfl⟩ := List.mem_map.1 mem
    exact escapeToken_stands c
  have values : (t.map escapeToken).flatMap Token.value = t := by
    simp [List.flatMap_map, escapeToken_value]
  have read := unescape_sources stand
  rwa [List.flatMap_map, values] at read

/-! ### Where an escaped text may stand -/

/-- An escaped text lies within one line. -/
theorem not_mem_escape (h : c = '\n' ∨ c = '\r') (t : Text) : c ∉ escape t := by
  intro mem
  obtain ⟨d, -, mem⟩ := List.mem_flatMap.1 mem
  revert mem
  refine escapeToken_cases (P := fun _ token => c ∉ token.source) ?_ ?_ ?_ ?_ d
  · intro d mark mem
    rcases List.mem_cons.1 mem with rfl | mem
    · simp at h
    · obtain rfl := List.mem_singleton.1 mem
      rcases h with rfl | rfl <;> cases mark
  · rcases h with rfl | rfl <;> decide
  · rcases h with rfl | rfl <;> decide
  · intro d _ lf cr mem
    obtain rfl := List.mem_singleton.1 mem
    exact h.elim lf cr

theorem settled_escapeToken (c : Char) : Settled (escapeToken c).source := by
  refine escapeToken_cases (P := fun _ token => Settled token.source) ?_ ?_ ?_ ?_ c
  · intro c mark s
    show glyphs ('\\' :: c :: s) = glyphs ['\\', c] ++ glyphs s
    rw [glyphs_escaped_cons mark, glyphs_escaped_cons mark]
    rfl
  · exact settled_of_not_mem (by decide)
  · exact settled_of_not_mem (by decide)
  · intro c ordinary _ _
    refine settled_of_not_mem fun mem => ?_
    obtain rfl := List.mem_singleton.1 mem
    exact absurd ordinary (by decide)

theorem settled_escape (t : Text) : Settled (escape t) := by
  induction t with
  | nil => exact settled_nil
  | cons c t ih => exact (settled_escapeToken c).append ih

/-- Escaping avoids the glyphs at which `stop` holds: these are line feeds and marks of punctuation
that no reference is written with. -/
def Avoidable (stop : Glyph → Bool) : Prop :=
  ∀ g, stop g = true → ∃ c, g = .plain c ∧
    (c = '\n' ∨ isPunctuation c = true ∧ c ∉ "&#;".toList)

theorem clear_escapeToken (h : Avoidable stop) (c : Char) : Clear stop (escapeToken c).source := by
  have clear {t : Text} (backslash : '\\' ∉ t)
      (other : t.all (fun c => c ≠ '\n' ∧ (isPunctuation c = true → c ∈ "&#;".toList)) = true) :
      Clear stop t := by
    simp only [List.all_eq_true, decide_eq_true_eq] at other
    intro g mem
    rw [glyphs_eq_map backslash] at mem
    obtain ⟨d, inside, rfl⟩ := List.mem_map.1 mem
    refine Bool.eq_false_iff.2 fun stops => ?_
    obtain ⟨_, eq, feed | ⟨mark, apart⟩⟩ := h _ stops
    · cases eq
      exact (other d inside).1 feed
    · cases eq
      exact apart ((other d inside).2 mark)
  refine escapeToken_cases (P := fun _ token => Clear stop token.source) ?_ ?_ ?_ ?_ c
  · intro c mark g mem
    have whole : glyphs ['\\', c] = [.escaped c] := glyphs_escaped_cons mark []
    obtain rfl : g = .escaped c := by simpa [Token.source, whole] using mem
    refine Bool.eq_false_iff.2 fun stops => ?_
    obtain ⟨_, eq, -⟩ := h _ stops
    cases eq
  · exact clear (by decide) (by decide)
  · exact clear (by decide) (by decide)
  · intro c ordinary lf _
    refine clear (fun mem => ?_) ?_
    · obtain rfl := List.mem_singleton.1 mem
      exact absurd ordinary (by decide)
    · simp [Token.source, lf, ordinary]

/-- An escaped text is taken whole before a mark that it avoids. -/
theorem encloses_escape (h : Avoidable stop) (stops : stop (.plain c) = true) (t : Text) :
    Encloses stop (escape t) c := by
  have clear : Clear stop (escape t) := by
    induction t with
    | nil => exact clear_nil
    | cons d t ih => exact (settled_escapeToken d).clear_append_iff.2 ⟨clear_escapeToken h d, ih⟩
  exact encloses_iff.2 ⟨settled_escape t [c], clear, stops⟩

end LinkDefinitions
