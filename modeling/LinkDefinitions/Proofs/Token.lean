import LinkDefinitions.Proofs.Lines
import LinkDefinitions.Proofs.Literal

/-!
# Cutting a raw text between its tokens

The tokens of a raw text refine its glyphs: an escape is one glyph and one token, and the only other
token of several characters is a reference, which holds no backslash (`glyphs_eq_flatMap_tokens`).
So both passes meet at every cut that no escape straddles, and where no reference straddles it
either, the two parts of a text have the tokens of the whole (`tokens_append_of_cut`).

A line feed makes such a cut on both of its sides, so a text over several lines is resolved line by
line (`unescape_joinLines`).
-/

namespace LinkDefinitions

variable {a b t body : Text} {c : Char}

open Reference (isBodyChar)

namespace Literal

/-! ### Tokens and glyphs -/

/-- The glyphs that a token is written with. -/
def Token.glyphs : Token → List Glyph
  | plain c => [.plain c]
  | escaped c => [.escaped c]
  | reference body => (Token.reference body).source.map .plain

/-- The body of a reference goes up to the first semicolon. -/
theorem eq_of_referenceBody? (h : referenceBody? t = some body) :
    (Reference.ofBody? body).isSome = true ∧ ∃ rest, t = body ++ ';' :: rest := by
  unfold referenceBody? at h
  dsimp only at h
  split at h
  · next found =>
    obtain rfl := Option.some.inj h
    obtain ⟨rest, ends⟩ := List.head?_eq_some_iff.1 found.1
    have whole := List.prefix_iff_eq_append.1 (List.takeWhile_prefix isBodyChar (l := t))
    rw [ends] at whole
    exact ⟨found.2, rest, whole.symm⟩
  · cases h

/-- A text begins with an escape, with a reference, or with a character that opens neither. -/
theorem firstToken_cases (c : Char) (t : Text) :
    (∃ d u, c = '\\' ∧ t = d :: u ∧ isPunctuation d = true ∧ firstToken c t = .escaped d) ∨
    (∃ body u, c = '&' ∧ t = body ++ ';' :: u ∧ (Reference.ofBody? body).isSome = true ∧
      firstToken c t = .reference body) ∨
    (firstToken c t = .plain c ∧ (c = '\\' → ∀ d ∈ t.head?, isPunctuation d = false)) := by
  by_cases backslash : c = '\\'
  · subst backslash
    cases t with
    | nil => exact .inr (.inr ⟨rfl, fun _ d head => nomatch head⟩)
    | cons d u =>
      by_cases punctuation : isPunctuation d = true
      · exact .inl ⟨d, u, rfl, rfl, punctuation, by simp [firstToken, punctuation]⟩
      · refine .inr (.inr ⟨by simp [firstToken, punctuation], fun _ e head => ?_⟩)
        obtain rfl : d = e := Option.some.inj head
        exact Bool.eq_false_iff.2 punctuation
  by_cases ampersand : c = '&'
  · subst ampersand
    cases found : referenceBody? t with
    | none =>
      exact .inr (.inr ⟨by simp [firstToken, found], fun same => absurd same backslash⟩)
    | some body =>
      obtain ⟨form, u, eq⟩ := eq_of_referenceBody? found
      exact .inr (.inl ⟨body, u, rfl, eq, form, by simp [firstToken, found]⟩)
  · exact .inr (.inr ⟨by simp [firstToken, backslash, ampersand],
      fun same => absurd same backslash⟩)

/-- What is left of a text behind its first token. -/
theorem exists_rest (c : Char) (t : Text) :
    ∃ rest, t.drop ((firstToken c t).source.length - 1) = rest ∧
      c :: t = (firstToken c t).source ++ rest ∧
      glyphs (c :: t) = (firstToken c t).glyphs ++ glyphs rest := by
  rcases firstToken_cases c t with
    ⟨d, u, rfl, rfl, punctuation, first⟩ | ⟨body, u, rfl, rfl, form, first⟩ | ⟨first, unescaped⟩
  · rw [first]
    exact ⟨u, rfl, rfl, glyphs_escaped_cons punctuation u⟩
  · have whole : '&' :: (body ++ ';' :: u) = (Token.reference body).source ++ u := by
      simp [Token.source]
    have backslash : '\\' ∉ (Token.reference body).source := by
      have inside : '\\' ∉ body := fun mem =>
        absurd (Reference.isBodyChar_of_mem form '\\' mem) (by decide)
      simp [Token.source, inside]
    rw [first, whole, settled_of_not_mem backslash, glyphs_eq_map backslash]
    exact ⟨u, by simp [Token.source], rfl, rfl⟩
  · rw [first]
    refine ⟨t, rfl, rfl, ?_⟩
    show glyphs ([c] ++ t) = glyphs [c] ++ glyphs t
    refine glyphs_append fun d head last => unescaped ?_ d head
    simpa [glyphs_singleton] using last

/-- The tokens of a text are written with its glyphs. -/
theorem glyphs_eq_flatMap_tokens (t : Text) : glyphs t = (tokens t).flatMap Token.glyphs := by
  induction t using tokens.induct with
  | case1 => rw [tokens_nil, glyphs_nil, List.flatMap_nil]
  | case2 c t token ih =>
    obtain ⟨rest, left, -, glyphs_eq⟩ := exists_rest c t
    rw [left] at ih
    rw [glyphs_eq, ih, tokens_cons, left, List.flatMap_cons]

/-! ### Tokens of a concatenation -/

/-- No reference reaches from the first text into the second: the first does not end with what may
begin one, or the second does not begin with what may go on with one. -/
def Parted (a b : Text) : Prop :=
  (∀ c ∈ a.getLast?, c ≠ '&' ∧ isBodyChar c = false) ∨
    (∀ c ∈ b.head?, c ≠ ';' ∧ isBodyChar c = false)

theorem Parted.of_append (h : Parted (t ++ a) b) : Parted a b := by
  refine h.imp_left fun last c mem => last c ?_
  rw [Option.mem_def] at mem ⊢
  rw [List.getLast?_append, mem]
  rfl

/-- A run of body characters that no semicolon ends is no body. -/
theorem referenceBody?_eq_none
    (h : (t.drop (t.takeWhile isBodyChar).length).head? ≠ some ';') : referenceBody? t = none :=
  if_neg fun both => h both.1

/-- Where no reference straddles a cut, what follows the cut begins or ends none before it. -/
theorem referenceBody?_append_of_parted (h : Parted ('&' :: t) b) :
    referenceBody? (t ++ b) = referenceBody? t := by
  by_cases within : t.takeWhile isBodyChar = t
  · -- The run of body characters reaches the cut, so there is no reference on either side of it.
    have body : ∀ c ∈ t, isBodyChar c = true := List.takeWhile_eq_self_iff.1 within
    rw [referenceBody?_eq_none (t := t) (by simp [within]), referenceBody?_eq_none]
    rcases h with last | head
    · obtain ⟨d, eq⟩ : ∃ d, ('&' :: t).getLast? = some d :=
        Option.isSome_iff_exists.1 (by simp)
      obtain ⟨other, no_body⟩ := last d eq
      rcases List.mem_cons.1 (List.mem_of_getLast? eq) with rfl | mem
      · exact absurd rfl other
      · exact absurd (body d mem) (by rw [no_body]; decide)
    · have ends : b.takeWhile isBodyChar = [] := by
        cases b with
        | nil => rfl
        | cons d u => rw [List.takeWhile_cons_of_neg (by simp [(head d rfl).2])]
      rw [List.takeWhile_append_of_pos body, ends, List.append_nil, List.drop_left]
      exact fun eq => (head ';' eq).1 rfl
  · -- The run ends before the cut.
    have short : (t.takeWhile isBodyChar).length < t.length := by
      refine lt_of_le_of_ne (List.takeWhile_prefix isBodyChar).length_le fun same => within ?_
      exact (List.takeWhile_prefix isBodyChar).eq_of_length same
    have run : (t ++ b).takeWhile isBodyChar = t.takeWhile isBodyChar := by
      rw [List.takeWhile_append, if_neg short.ne]
    have next : ((t ++ b).drop (t.takeWhile isBodyChar).length).head? =
        (t.drop (t.takeWhile isBodyChar).length).head? := by
      rw [List.head?_drop, List.head?_drop, List.getElem?_append_left short]
    rw [referenceBody?, referenceBody?, run, next]

/-- Where neither an escape nor a reference straddles a cut, what follows the cut does not change
the first token. -/
theorem firstToken_append (cut : glyphs (c :: t ++ b) = glyphs (c :: t) ++ glyphs b)
    (parted : Parted (c :: t) b) : firstToken c (t ++ b) = firstToken c t := by
  unfold firstToken
  by_cases backslash : c = '\\'
  · subst backslash
    rw [if_pos rfl, if_pos rfl]
    cases t with
    | cons d u => rfl
    | nil =>
      cases b with
      | nil => rfl
      | cons d u =>
        have ordinary : isPunctuation d = false := by
          refine Bool.eq_false_iff.2 fun punctuation => ?_
          have escape : Glyph.escaped d :: glyphs u = .plain '\\' :: glyphs (d :: u) :=
            (glyphs_escaped_cons punctuation u).symm.trans cut
          cases escape
        simp [ordinary]
  · rw [if_neg backslash, if_neg backslash]
    by_cases ampersand : c = '&'
    · subst ampersand
      rw [if_pos rfl, if_pos rfl, referenceBody?_append_of_parted parted]
    · rw [if_neg ampersand, if_neg ampersand]

/-- Where neither an escape nor a reference straddles a cut, the tokens on its two sides are those
of the whole. -/
theorem tokens_append_of_cut (cut : glyphs (a ++ b) = glyphs a ++ glyphs b) (parted : Parted a b) :
    tokens (a ++ b) = tokens a ++ tokens b := by
  induction a using tokens.induct with
  | case1 => rw [tokens_nil, List.nil_append, List.nil_append]
  | case2 c t token ih =>
    obtain ⟨rest, left, whole, glyphs_eq⟩ := exists_rest c t
    obtain ⟨rest', left', whole', glyphs_eq'⟩ := exists_rest c (t ++ b)
    have same : firstToken c (t ++ b) = firstToken c t := firstToken_append cut parted
    rw [same] at left' whole' glyphs_eq'
    obtain rfl : rest' = rest ++ b := by
      rw [← List.cons_append, whole, List.append_assoc] at whole'
      exact (List.append_cancel_left whole').symm
    rw [left] at ih
    have rest_cut : glyphs (rest ++ b) = glyphs rest ++ glyphs b := by
      rw [List.cons_append, glyphs_eq', glyphs_eq, List.append_assoc] at cut
      exact List.append_cancel_left cut
    have rest_parted : Parted rest b := by
      rw [whole] at parted
      exact parted.of_append
    rw [List.cons_append, tokens_cons, same, left', ih rest_cut rest_parted, tokens_cons c t, left,
      List.cons_append]

end Literal

open Literal

/-- Where neither an escape nor a reference straddles a cut, the two parts are resolved apart. -/
theorem unescape_append_of_cut (cut : glyphs (a ++ b) = glyphs a ++ glyphs b)
    (parted : Parted a b) : unescape (a ++ b) = unescape a ++ unescape b := by
  rw [unescape, tokens_append_of_cut cut parted, List.flatMap_append]
  rfl

/-! ### Boundaries told by their characters -/

/-- Two texts at whose boundary nothing can go on: the last character of the first is one with which
neither an escape nor a reference can go on, or the first character of the second is one with which
neither can. An empty text has no such character, so nothing goes on at its end or its beginning. -/
def Boundary (a b : Text) : Prop :=
  (∀ c ∈ a.getLast?, c ≠ '\\' ∧ c ≠ '&' ∧ c ≠ '#' ∧ Reference.isAlphanumeric c = false) ∨
    (∀ c ∈ b.head?, isPunctuation c = false ∧ Reference.isAlphanumeric c = false)

theorem getLast?_of_glyphs (h : (glyphs t).getLast? = some (.plain c)) :
    t.getLast? = some c := by
  obtain ⟨gs, eq⟩ := List.getLast?_eq_some_iff.1 h
  rw [← source_glyphs t, eq, source_append]
  simp [Glyph.source]

theorem Boundary.cut (h : Boundary a b) : glyphs (a ++ b) = glyphs a ++ glyphs b := by
  refine glyphs_append fun d head last => ?_
  rcases h with before | after
  · exact absurd rfl (before '\\' (getLast?_of_glyphs last)).1
  · exact (after d head).1

theorem Boundary.parted (h : Boundary a b) : Parted a b := by
  refine h.imp (fun before c last => ?_) fun after c head => ?_
  · obtain ⟨-, ampersand, number, alphanumeric⟩ := before c last
    exact ⟨ampersand, by simp [isBodyChar, number, alphanumeric]⟩
  · obtain ⟨punctuation, alphanumeric⟩ := after c head
    refine ⟨?_, ?_⟩
    · rintro rfl
      exact absurd punctuation (by decide)
    · have number : c ≠ '#' := by
        rintro rfl
        exact absurd punctuation (by decide)
      simp [isBodyChar, number, alphanumeric]

/-! ### Line feeds -/

theorem boundary_break (a s : Text) : Boundary a ('\n' :: s) := by
  refine .inr fun c head => ?_
  obtain rfl : '\n' = c := Option.some.inj head
  decide

theorem tokens_break (a s : Text) :
    tokens (a ++ '\n' :: s) = tokens a ++ .plain '\n' :: tokens s := by
  have feed : tokens ('\n' :: s) = .plain '\n' :: tokens s :=
    tokens_append (show Token.Stands (.plain '\n') from ⟨by decide, by decide⟩) s
  rw [tokens_append_of_cut (boundary_break a s).cut (boundary_break a s).parted, feed]

/-- The tokens of a text over several lines are those of its lines. -/
theorem tokens_joinLines (ls : List Text) :
    tokens (joinLines ls) = [.plain '\n'].intercalate (ls.map tokens) :=
  read_joinLines tokens_nil tokens_break ls

/-- A text over several lines is resolved line by line. -/
theorem unescape_joinLines (ls : List Text) :
    unescape (joinLines ls) = joinLines (ls.map unescape) := by
  refine read_joinLines unescape_nil (fun a s => ?_) ls
  rw [unescape, tokens_break, List.flatMap_append]
  rfl

end LinkDefinitions
