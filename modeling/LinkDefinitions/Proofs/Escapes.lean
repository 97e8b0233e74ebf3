import LinkDefinitions.Proofs.Scan
import LinkDefinitions.Proofs.Token

/-!
# Escaped positions

Two passes read the escapes of a text: the scans skip them, glyph by glyph, to find where a label, a
destination or a title ends, and later its literal text is put together from its tokens.
`Scan.escapes` and `Literal.escapes` are the positions of the characters that each of the two passes
takes from behind a backslash; they are the same (`Literal.escapes_eq`).

A position cuts a text between its glyphs exactly if it is not escaped (`glyphs_append_iff`), so
what a scan takes is skipped in the whole text as it is by itself
(`Scan.captured_of_rawDestination`, `Scan.captured_of_title`), and a literal text has lost exactly
the backslashes before escaped characters (`resolves_unescape`).
-/

namespace LinkDefinitions

/-! ### Positions in a text of units -/

/-- The positions of the escaped characters in a text that is cut into units: the second character
of each unit that is an escape. -/
def escapedPositions {α : Type} (source : α → Text) (isEscape : α → Bool) : List α → List Nat
  | [] => []
  | u :: us =>
    (if isEscape u then [1] else []) ++
      (escapedPositions source isEscape us).map (· + (source u).length)

section Units

variable {α β : Type} {source : α → Text} {isEscape : α → Bool} {k : Nat}

theorem escapedPositions_append (us vs : List α) :
    escapedPositions source isEscape (us ++ vs) = escapedPositions source isEscape us ++
      (escapedPositions source isEscape vs).map (· + (us.flatMap source).length) := by
  induction us with
  | nil => simp [escapedPositions]
  | cons u us ih =>
    rw [List.cons_append, escapedPositions, ih, escapedPositions, List.map_append, List.map_map,
      List.append_assoc, List.flatMap_cons, List.length_append]
    simp only [Function.comp_def, Nat.add_assoc, Nat.add_comm (source u).length]

/-- An escaped position is that of the second character of an escape. -/
theorem mem_escapedPositions_iff {us : List α} :
    k ∈ escapedPositions source isEscape us ↔
      ∃ before u after, us = before ++ u :: after ∧ isEscape u = true ∧
        k = (before.flatMap source).length + 1 := by
  induction us generalizing k with
  | nil => simp [escapedPositions]
  | cons u us ih =>
    have here : k ∈ (if isEscape u then [1] else []) ↔ isEscape u = true ∧ k = 1 := by
      split <;> simp_all
    rw [escapedPositions, List.mem_append, here, List.mem_map]
    constructor
    · rintro (⟨escape, rfl⟩ | ⟨j, mem, rfl⟩)
      · exact ⟨[], u, us, rfl, escape, rfl⟩
      · obtain ⟨before, v, after, rfl, escape, rfl⟩ := ih.1 mem
        refine ⟨u :: before, v, after, rfl, escape, ?_⟩
        rw [List.flatMap_cons, List.length_append]
        omega
    · rintro ⟨before, v, after, eq, escape, rfl⟩
      cases before with
      | nil =>
        obtain ⟨rfl, rfl⟩ := List.cons.inj eq
        exact .inl ⟨escape, rfl⟩
      | cons w before =>
        obtain ⟨rfl, rfl⟩ := List.cons.inj eq
        refine .inr ⟨_, ih.2 ⟨before, v, after, rfl, escape, rfl⟩, ?_⟩
        rw [List.flatMap_cons, List.length_append]
        omega

/-- Units that are cut further, but for escapes, have the same escaped positions. -/
theorem escapedPositions_flatMap {source' : β → Text} {isEscape' : β → Bool} {parts : α → List β}
    (same : ∀ u, escapedPositions source' isEscape' (parts u) = if isEscape u then [1] else [])
    (whole : ∀ u, (parts u).flatMap source' = source u) (us : List α) :
    escapedPositions source' isEscape' (us.flatMap parts) =
      escapedPositions source isEscape us := by
  induction us with
  | nil => rfl
  | cons u us ih =>
    rw [List.flatMap_cons, escapedPositions_append, same, whole, ih, escapedPositions]

end Units

/-! ### The two passes -/

/-- The glyph is a backslash and what it escapes. -/
def Glyph.isEscape : Glyph → Bool
  | plain _ => false
  | escaped _ => true

/-- The token is a backslash and what it escapes. -/
def Literal.Token.isEscape : Token → Bool
  | plain _ => false
  | escaped _ => true
  | reference _ => false

/-- The positions that a scan on its way through a text skips behind a backslash. -/
def Scan.escapes (t : Text) : List Nat :=
  escapedPositions Glyph.source Glyph.isEscape (glyphs t)

/-- The positions of a raw text from which its resolution takes a character behind a backslash. -/
def Literal.escapes (t : Text) : List Nat :=
  escapedPositions Token.source Token.isEscape (tokens t)

variable {a b t v rest : Text} {c q : Char} {k : Nat}

theorem source_map_plain (t : Text) : source (t.map .plain) = t := by
  induction t with
  | nil => rfl
  | cons c t ih =>
    rw [List.map_cons, source_cons, ih]
    rfl

theorem escapedPositions_map_plain (t : Text) :
    escapedPositions Glyph.source Glyph.isEscape (t.map .plain) = [] := by
  induction t with
  | nil => rfl
  | cons c t ih =>
    rw [List.map_cons, escapedPositions, ih]
    rfl

/-- Both passes take the same characters from behind a backslash. -/
theorem Literal.escapes_eq (t : Text) : escapes t = Scan.escapes t := by
  unfold escapes Scan.escapes
  rw [glyphs_eq_flatMap_tokens]
  refine (escapedPositions_flatMap (fun token => ?_) (fun token => ?_) (tokens t)).symm
  · cases token with
    | plain c => rfl
    | escaped c => rfl
    | reference body => exact escapedPositions_map_plain _
  · cases token with
    | plain c => rfl
    | escaped c => rfl
    | reference body => exact source_map_plain _

namespace Scan

/-! ### Cuts and escaped positions -/

/-- Where no escape straddles a cut, the escaped positions are those of the two parts. -/
theorem escapes_append_of_cut (cut : glyphs (a ++ b) = glyphs a ++ glyphs b) :
    escapes (a ++ b) = escapes a ++ (escapes b).map (· + a.length) := by
  have whole : (glyphs a).flatMap Glyph.source = a := source_glyphs a
  rw [escapes, cut, escapedPositions_append, whole]
  rfl

/-- A text over several lines is skipped line by line. -/
theorem escapes_break (a s : Text) :
    escapes (a ++ '\n' :: s) = escapes a ++ (escapes s).map (· + (a.length + 1)) := by
  have ended : glyphs ((a ++ ['\n']) ++ s) = glyphs (a ++ ['\n']) ++ glyphs s :=
    settled_append_singleton (by decide) (by decide) a s
  rw [List.append_cons, escapes_append_of_cut ended,
    escapes_append_of_cut (boundary_break a []).cut]
  simp [escapes, glyphs_singleton, escapedPositions, Glyph.isEscape]

/-- An escaped position is that of a punctuation character behind its backslash. -/
theorem mem_escapes_iff :
    k ∈ escapes t ↔ ∃ a c b, t = a ++ '\\' :: c :: b ∧ k = a.length + 1 ∧
      glyphs t = glyphs a ++ .escaped c :: glyphs b := by
  unfold escapes
  rw [mem_escapedPositions_iff]
  constructor
  · rintro ⟨before, g, after, eq, escape, rfl⟩
    obtain ⟨c, rfl⟩ : ∃ c, g = .escaped c := by
      cases g with
      | plain c => cases escape
      | escaped c => exact ⟨c, rfl⟩
    obtain ⟨first, -⟩ := glyphs_source_of_append eq
    have eq' : glyphs t = (before ++ [.escaped c]) ++ after := by rw [eq, List.append_assoc]; rfl
    obtain ⟨-, second⟩ := glyphs_source_of_append eq'
    refine ⟨source before, c, source after, ?_, rfl, by rw [first, second, eq]⟩
    rw [← source_glyphs t, eq, source_append, source_cons]
    rfl
  · rintro ⟨a, c, b, -, rfl, eq⟩
    have whole : (glyphs a).flatMap Glyph.source = a := source_glyphs a
    exact ⟨glyphs a, .escaped c, glyphs b, eq, rfl, by rw [whole]⟩

/-- What is escaped in a final part is escaped in the whole, unless an escape straddles the cut. -/
theorem mem_escapes_append (cut : glyphs (a ++ b) = glyphs a ++ glyphs b) (h : k ∈ escapes b) :
    k + a.length ∈ escapes (a ++ b) := by
  rw [escapes_append_of_cut cut]
  exact List.mem_append_right _ (List.mem_map_of_mem h)

theorem pos_of_mem_escapes (h : k ∈ escapes t) : 0 < k ∧ k < t.length := by
  obtain ⟨a, c, b, rfl, rfl, -⟩ := mem_escapes_iff.1 h
  rw [List.length_append, List.length_cons, List.length_cons]
  omega

end Scan

open Scan (escapes pos_of_mem_escapes)
open Literal (Token tokens tokens_append tokens_append_of_cut glyphs_eq_flatMap_tokens)

/-- A position cuts a text between its glyphs exactly if it is not escaped. -/
theorem glyphs_append_iff :
    glyphs (a ++ b) = glyphs a ++ glyphs b ↔ a.length ∉ escapes (a ++ b) := by
  constructor
  · intro cut mem
    rw [Scan.escapes_append_of_cut cut, List.mem_append, List.mem_map] at mem
    rcases mem with before | ⟨j, after, eq⟩
    · exact absurd (pos_of_mem_escapes before).2 (lt_irrefl _)
    · have := (pos_of_mem_escapes after).1
      omega
  · intro unescaped
    fun_induction glyphs a with
    | case1 => rfl
    | case2 c =>
      refine glyphs_append fun d head last => ?_
      obtain ⟨u, rfl⟩ := List.head?_eq_some_iff.1 head
      obtain rfl : c = '\\' := by simpa [glyphs_singleton] using last
      refine Bool.eq_false_iff.2 fun punctuation => unescaped ?_
      exact Scan.mem_escapes_iff.2 ⟨[], d, u, rfl, rfl, glyphs_escaped_cons punctuation u⟩
    | case3 c d t escape ih =>
      have cut : glyphs ([c, d] ++ (t ++ b)) = glyphs [c, d] ++ glyphs (t ++ b) := by
        simp [glyphs, escape]
      have ih := ih fun mem => unescaped (Scan.mem_escapes_append cut mem)
      rw [List.cons_append, List.cons_append, glyphs, if_pos escape, ih, List.cons_append]
    | case4 c d t apart ih =>
      have cut : glyphs ([c] ++ (d :: t ++ b)) = glyphs [c] ++ glyphs (d :: t ++ b) := by
        simp [glyphs, apart]
      have ih := ih fun mem => unescaped (Scan.mem_escapes_append cut mem)
      rw [List.cons_append, List.cons_append, glyphs, if_neg apart, ← List.cons_append, ih,
        List.cons_append]

/-! ### What the scans take -/

/-- The text `raw` stands at a position of `t`, and a scan on its way through `t` skips in it what
it skips on its way through `raw` alone. -/
structure Captured (t : Text) (n : Nat) (raw : Text) : Prop where
  stands : raw <+: t.drop n
  escaped_iff : ∀ k < raw.length, n + k ∈ escapes t ↔ k ∈ escapes raw

theorem captured_of_cut (cut : glyphs (a ++ b) = glyphs a ++ glyphs b) :
    Captured (a ++ b) 0 a := by
  refine ⟨List.prefix_append a b, fun k inside => ?_⟩
  rw [Nat.zero_add, Scan.escapes_append_of_cut cut, List.mem_append]
  refine or_iff_left ?_
  intro mem
  obtain ⟨j, -, rfl⟩ := List.mem_map.1 mem
  omega

theorem Captured.behind {raw : Text} {n : Nat} (h : Captured b n raw)
    (cut : glyphs (a ++ b) = glyphs a ++ glyphs b) : Captured (a ++ b) (a.length + n) raw := by
  refine ⟨?_, fun k inside => ?_⟩
  · rw [List.drop_append, List.drop_eq_nil_of_le (Nat.le_add_right _ _), List.nil_append,
      Nat.add_sub_cancel_left]
    exact h.stands
  · rw [← h.escaped_iff k inside, Scan.escapes_append_of_cut cut, List.mem_append, List.mem_map]
    constructor
    · rintro (before | ⟨j, mem, eq⟩)
      · have := (pos_of_mem_escapes before).2
        omega
      · obtain rfl : j = n + k := by omega
        exact mem
    · exact fun mem => .inr ⟨n + k, mem, by omega⟩

/-- A title is skipped in its line as it is by itself. -/
theorem Scan.captured_of_title (h : Scan.title [q] t = some (a, b)) : Captured t 0 a := by
  obtain ⟨rfl, ⟨rfl, -⟩ | ⟨s, rfl, encloses⟩⟩ := Scan.title_eq_some_iff.1 h
  · exact captured_of_cut (by simp [glyphs_nil])
  · have backslash : q ≠ '\\' := by
      rintro rfl
      exact absurd (encloses_iff.1 encloses).2.2 (by decide)
    exact captured_of_cut (encloses.cut backslash s)

/-- A destination is skipped in its line as it is by itself, behind its angle bracket if it has
one. -/
theorem Scan.captured_of_rawDestination (h : Scan.rawDestination t = some (v, rest)) :
    Captured t (if t.head? = some '<' then 1 else 0) v := by
  obtain ⟨⟨w, left⟩, scan, eq⟩ := Option.map_eq_some_iff.1 h
  obtain ⟨rfl, rfl⟩ := Prod.mk.inj eq
  rcases destination_eq_some_iff.1 scan with ⟨s, a, rfl, rfl, angled⟩ | ⟨bracket, bare⟩
  · obtain ⟨body, rfl, rfl, encloses⟩ := angled_eq_some_iff.1 angled
    have value : stripAngles ('<' :: (body ++ ['>'])) = body := List.dropLast_concat
    rw [value, List.head?_cons, if_pos rfl, List.append_assoc]
    have cut : glyphs (['<'] ++ (body ++ '>' :: left)) =
        glyphs ['<'] ++ glyphs (body ++ '>' :: left) := glyphs_cons (by decide) _
    exact (captured_of_cut (encloses.cut (by decide) left)).behind cut
  · obtain ⟨nonempty, rfl, eq⟩ := bare_eq_some_iff.1 bare
    have value : stripAngles w = w := by
      rw [List.head?_append_of_ne_nil _ nonempty] at bracket
      exact stripAngles_eq_self bracket
    rw [value, if_neg bracket]
    exact captured_of_cut (bareGlyphs_append eq).symm

/-! ### What reaches the literal text -/

/-- The literal text has lost the backslashes before the escaped characters of the raw text, and no
others. -/
structure Resolves (raw literal : Text) : Prop where
  /-- The escaped positions are those of punctuation that is taken without its backslash. -/
  unmasked : ∀ k, k ∈ escapes raw ↔ ∃ a c b, raw = a ++ '\\' :: c :: b ∧ k = a.length + 1 ∧
    c ∈ punctuation ∧ tokens raw = tokens a ++ .escaped c :: tokens b ∧
    literal = unescape a ++ c :: unescape b
  /-- A backslash that neither escapes nor is escaped stays. -/
  kept : ∀ a b, raw = a ++ '\\' :: b → a.length ∉ escapes raw → a.length + 1 ∉ escapes raw →
    literal = unescape a ++ '\\' :: unescape b

/-- No reference has a backslash at its boundary. -/
theorem parted_backslash (a b : Text) : Literal.Parted a ('\\' :: b) := by
  refine .inr fun c head => ?_
  obtain rfl : '\\' = c := Option.some.inj head
  decide

theorem isPunctuation_of_glyphs_eq (h : glyphs t = glyphs a ++ .escaped c :: glyphs b) :
    isPunctuation c = true :=
  isPunctuation_of_escaped_mem (h ▸ List.mem_append_right _ List.mem_cons_self)

/-- An escape is a glyph of a text exactly where it is a token. -/
theorem glyphs_eq_iff_tokens_eq :
    glyphs (a ++ '\\' :: c :: b) = glyphs a ++ .escaped c :: glyphs b ↔
      tokens (a ++ '\\' :: c :: b) = tokens a ++ .escaped c :: tokens b := by
  constructor
  · intro eq
    have punctuation := isPunctuation_of_glyphs_eq eq
    have first : tokens ('\\' :: c :: b) = .escaped c :: tokens b :=
      tokens_append (show Token.Stands (.escaped c) from punctuation) b
    rw [← glyphs_escaped_cons punctuation] at eq
    rw [tokens_append_of_cut eq (parted_backslash a _), first]
  · intro eq
    rw [glyphs_eq_flatMap_tokens, eq, List.flatMap_append, ← glyphs_eq_flatMap_tokens,
      List.flatMap_cons, ← glyphs_eq_flatMap_tokens]
    rfl

/-- The literal text of a raw text resolves it. -/
theorem resolves_unescape (raw : Text) : Resolves raw (unescape raw) := by
  constructor
  · intro k
    rw [Scan.mem_escapes_iff]
    constructor
    · rintro ⟨a, c, b, rfl, rfl, eq⟩
      have mark := isPunctuation_of_glyphs_eq eq
      have eq := glyphs_eq_iff_tokens_eq.1 eq
      refine ⟨a, c, b, rfl, rfl, (mem_punctuation_iff c).2 mark, eq, ?_⟩
      rw [unescape, eq, List.flatMap_append]
      rfl
    · rintro ⟨a, c, b, rfl, rfl, -, eq, -⟩
      exact ⟨a, c, b, rfl, rfl, glyphs_eq_iff_tokens_eq.2 eq⟩
  · rintro a b rfl before behind
    have cut := glyphs_append_iff.2 before
    have cut' : glyphs (['\\'] ++ b) = glyphs ['\\'] ++ glyphs b := by
      refine glyphs_append_iff.2 fun mem => behind ?_
      rw [Nat.add_comm]
      exact Scan.mem_escapes_append cut mem
    have parted : Literal.Parted ['\\'] b := by
      refine .inl fun c last => ?_
      obtain rfl : '\\' = c := Option.some.inj last
      decide
    have alone : unescape ['\\'] = ['\\'] := by decide +kernel
    have second := unescape_append_of_cut cut' parted
    rw [alone] at second
    rw [unescape_append_of_cut cut (parted_backslash a b)]
    exact congrArg (unescape a ++ ·) second

end LinkDefinitions
