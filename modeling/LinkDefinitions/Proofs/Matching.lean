import LinkDefinitions.Proofs.Label
import LinkDefinitions.Proofs.Parser.Completeness

/-!
# When two labels match

Two raw labels name the same definition exactly if they have the same folded words, so what stands
between the words does not matter, be it spaces, tabs or line ends (`labels_match_by_words`). This
depends on the folding of characters only in that it leaves words apart (`KeepsWords`), and it is
said for every such folding.
-/

namespace LinkDefinitions

open CaseFolding Label LinkDefinitions.Parser

variable {fold : Char → Text} {b x y : Text}

/-- Blanks before and after a raw label do not matter, nor how many stand between its words. -/
theorem keyBy_respaced (keeps : KeepsWords fold) (blank : Blank b) :
    keyBy fold (b ++ x) = keyBy fold x ∧ keyBy fold (x ++ b) = keyBy fold x ∧
      (b ≠ [] → keyBy fold (x ++ b ++ y) = keyBy fold (x ++ ' ' :: y)) := by
  refine ⟨?_, ?_, fun nonempty => ?_⟩
  · rw [keyBy_eq keeps, keyBy_eq keeps, words_blank_append blank]
  · rw [keyBy_eq keeps, keyBy_eq keeps, words_append_of_blank blank]
  · rw [keyBy_eq keeps, keyBy_eq keeps, words_append_blank_append blank nonempty,
      words_append_blank (by decide)]

/-- **Labels match by their words.** The key of a raw label is its folded words with single spaces
between them; it is empty exactly if the label is blank, two keys are the same exactly if the folded
words are, and blanks around and between the words do not matter. All of this holds for any folding
that leaves words apart, as the one in use does. So a parser that is fed definitions in any layout
finds them under labels that depend only on the words of the raw labels. -/
theorem labels_match_by_words :
    key = keyBy CaseFolding.fold ∧ KeepsWords CaseFolding.fold ∧
      (∀ fold, KeepsWords fold →
        (∀ x, keyBy fold x = spaced ((words x).map (·.flatMap fold))) ∧
        (∀ x, keyBy fold x = [] ↔ Blank x) ∧
        (∀ x y, keyBy fold x = keyBy fold y ↔
          (words x).map (·.flatMap fold) = (words y).map (·.flatMap fold)) ∧
        ∀ b x y, Blank b →
          keyBy fold (b ++ x) = keyBy fold x ∧ keyBy fold (x ++ b) = keyBy fold x ∧
            (b ≠ [] → keyBy fold (x ++ b ++ y) = keyBy fold (x ++ ' ' :: y))) ∧
      ∀ limit (es : List (Entry limit)), [] ∉ (joinLines (es.map Entry.text)).splitOn '\n' →
        ∃ p ds q, (fresh limit).feedAll ((joinLines (es.map Entry.text)).splitOn '\n') = .ok p ∧
          p.harvest = .ok (ds, q) ∧
          ds.map Definition.label =
            es.map fun e => spaced ((words e.layout.head.label).map foldText) := by
  refine ⟨key_eq_keyBy, keepsWords_fold, fun fold keeps => ?_, fun limit es full => ?_⟩
  · exact ⟨keyBy_eq keeps, fun x => keyBy_eq_nil_iff keeps, fun x y => keyBy_eq_keyBy_iff keeps,
      fun b x y blank => keyBy_respaced keeps blank⟩
  · have done := done_fed_entries es full
    refine ⟨_, _, _, feedAll_fresh _ _, done.coherent.harvest_eq, ?_⟩
    rw [done.committed, List.map_map]
    exact List.map_congr_left fun e _ => key_eq e.layout.head.label

theorem labels_match_by_words_wrapped :
    key "\tFoo\r\n STRASSE".toList = key "foo straße ".toList ∧
      ∃ p ds q,
        (fresh 999).feedAll
          ((joinLines ([wrappedEntry, wrappedEntry].map Entry.text)).splitOn '\n') = .ok p ∧
        p.harvest = .ok (ds, q) ∧
        ds.map Definition.label = ["foo bar".toList, "foo bar".toList] := by
  obtain ⟨same, keeps, by_words, found⟩ := labels_match_by_words
  obtain ⟨-, -, match_iff, -⟩ := by_words CaseFolding.fold keeps
  obtain ⟨p, ds, q, fed, harvest, labels⟩ := found 999 [wrappedEntry, wrappedEntry] (by decide)
  refine ⟨?_, p, ds, q, fed, harvest, labels.trans ?_⟩
  · rw [same, match_iff]
    decide +kernel
  · decide +kernel

end LinkDefinitions
