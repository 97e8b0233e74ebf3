import LinkDefinitions.Proofs.Paragraph
import LinkDefinitions.Proofs.Parser.Accounting

/-!
# The text of a paragraph and what is left of it

A paragraph is read by its lines alone, so neither the style of its line endings matters nor whether
there is one after the last line. The lines that are left are the last ones, and so the text that is
left is the end of the text of the paragraph, from the beginning of a line on
(`parseDefinitions_any_endings`).
-/

namespace LinkDefinitions

open LinkDefinitions.Parser

variable {limit : Option Int} {s t : Text} {ls : List Text}

/-- A parser can be made with any positive limit, and without one. -/
theorem exists_start (positive : ∀ n ∈ limit, 0 < n) : ∃ n, Parser.start limit = .ok (fresh n) := by
  cases limit with
  | none => exact ⟨_, rfl⟩
  | some n => exact ⟨n.toNat, if_neg (Int.not_le.2 (positive n rfl))⟩

/-- Texts with the same lines are the same paragraph. -/
theorem parseDefinitions_congr (limit : Option Int) (h : splitLines s = splitLines t) :
    parseDefinitions limit (.text s) = parseDefinitions limit (.text t) := by
  have lines : (Paragraph.text s).toLines = (Paragraph.text t).toLines := h
  rw [parseDefinitions, parseDefinitions, lines]

/-- What is left is in the last lines of a paragraph. -/
theorem remaining_fed_suffix (n : Nat) (ls : List Text) : (fed n ls).remaining <:+ ls := by
  have suffix := (remaining_after n (ls.map .feed)).1
  rwa [fedLines_map_feed] at suffix

/-- The text of the last lines ends the text of all. -/
theorem exists_joinLines_of_suffix {ms : List Text} (h : ms <:+ ls) (nonempty : ms ≠ []) :
    ∃ before, before ++ joinLines ms = joinLines ls ∧
      (before = [] ∨ before.getLast? = some '\n') := by
  obtain ⟨taken, rfl⟩ := h
  refine ⟨terminate taken, (joinLines_append taken nonempty).symm, ?_⟩
  by_cases none : taken = []
  · exact .inl (by rw [none, terminate_nil])
  · exact .inr (by rw [terminate_eq_joinLines none, List.getLast?_concat])

/-- **Line endings do not matter.** The lines of a text are free of line endings, they stay the same
if each ending is written as one LF, and with one LF between each and the next they are that text
without an LF at its end. What is written in lines, with any endings, is read back line by line,
unless a CR and an LF are run together over an empty line. So texts that differ in the style of
their endings are the same paragraph, as are those that differ in an ending after a last line that
is not empty. The text that is left of a paragraph ends the text that it has with one style of
endings, and begins at the beginning of a line. -/
theorem parseDefinitions_any_endings :
    (∀ t, (∀ l ∈ splitLines t, '\n' ∉ l ∧ '\r' ∉ l) ∧
      splitLines t = splitLines (unifyEndings t) ∧
      joinLines (splitLines t) = dropEnding (unifyEndings t)) ∧
    (∀ ls last, (∀ l ∈ ls, Unbroken l.1) → Unbroken last → ls.IsChain Apart →
      splitLines (endLines ls ++ last) = ls.map Prod.fst ++ if last = [] then [] else [last]) ∧
    (∀ limit s t, unifyEndings s = unifyEndings t →
      parseDefinitions limit (.text s) = parseDefinitions limit (.text t)) ∧
    (∀ limit t c, t.getLast? = some c → c ≠ '\n' → c ≠ '\r' → ∀ e : LineEnding,
      parseDefinitions limit (.text (t ++ e.text)) = parseDefinitions limit (.text t)) ∧
    ∀ limit t, (∀ n ∈ limit, 0 < n) →
      ∃ e, parseDefinitions limit (.text t) = .ok e ∧
        ∀ text, e.paragraphText = some text →
          ∃ before, before ++ text = dropEnding (unifyEndings t) ∧
            (before = [] ∨ before.getLast? = some '\n') := by
  refine ⟨fun t => ⟨fun l mem => unbroken_of_mem_splitLines mem, (splitLines_unifyEndings t).symm,
    joinLines_splitLines t⟩, fun ls last => splitLines_endLines_append, fun limit s t same => ?_,
    fun limit t c last lf cr e => ?_, fun limit t positive => ?_⟩
  · refine parseDefinitions_congr limit ?_
    rw [← splitLines_unifyEndings s, same, splitLines_unifyEndings]
  · exact parseDefinitions_congr limit (splitLines_append_ending last lf cr e)
  · obtain ⟨n, start⟩ := exists_start positive
    refine ⟨_, parseDefinitions_of_start start _, fun text left => ?_⟩
    rw [Extraction.paragraphText] at left
    split at left
    · cases left
    · next nonempty =>
      rw [← Option.some.inj left, ← joinLines_splitLines]
      exact exists_joinLines_of_suffix (remaining_fed_suffix n _) nonempty

/-- A definition and a text over four lines, with an ending of each kind. -/
def mixedLines : List (Text × LineEnding) :=
  [("[a]: /x".toList, .cr), ("b".toList, .crlf), ([], .lf)]

theorem parseDefinitions_any_endings_mixedLines :
    splitLines (endLines mixedLines ++ ['c']) = ["[a]: /x".toList, ['b'], [], ['c']] ∧
      parseDefinitions none (.text (endLines mixedLines ++ ['c'])) =
        parseDefinitions none (.text "[a]: /x\nb\n\nc\r\n".toList) ∧
      ∃ e, parseDefinitions none (.text (endLines mixedLines ++ ['c'])) = .ok e ∧
        e.paragraphText = some "b\n\nc".toList ∧
        ∃ before, before ++ "b\n\nc".toList = "[a]: /x\nb\n\nc".toList ∧
          (before = [] ∨ before.getLast? = some '\n') := by
  obtain ⟨-, read_back, style, ending, left⟩ := parseDefinitions_any_endings
  obtain ⟨e, parsed, suffix⟩ := left none (endLines mixedLines ++ ['c']) (by simp)
  refine ⟨(read_back mixedLines ['c'] ?_ ?_ ?_).trans (by decide), ?_, e, parsed, ?_⟩
  · simp [mixedLines, Unbroken]
  · simp [Unbroken]
  · simp [mixedLines, Apart]
  · rw [style none _ "[a]: /x\nb\n\nc".toList (by decide)]
    exact (ending none _ 'c' (by decide) (by decide) (by decide) .crlf).symm
  · have known : (parseDefinitions none (.text (endLines mixedLines ++ ['c']))).map
        Extraction.paragraphText = .ok (some "b\n\nc".toList) := by
      decide +kernel
    rw [parsed] at known
    have text := Except.ok.inj known
    exact ⟨text, suffix _ text⟩

end LinkDefinitions
