import LinkDefinitions.Proofs.Label
import LinkDefinitions.Proofs.Paragraph
import LinkDefinitions.Proofs.Parser.Soundness
import LinkDefinitions.Proofs.ReferenceMap

/-!
# The definitions of a document

A collection adds the definitions of all paragraphs to a map as if they were in one list
(`Collection.addAll_takes`), so what is known of adding a list to a map holds of a document: the
first definition of a label wins, be it in the map, in an earlier paragraph or earlier in the same
one (`collect_keeps_first`).

A definition is found by its own label because the label is a key (`Paragraph.key_label`) and a key
is its own key. For the same reason it does not matter whether a query is a label as it is written
or its key (`collect_finds_keys`).
-/

namespace LinkDefinitions

open LinkDefinitions.Parser

variable {d : Definition} {paragraph : Paragraph} {paragraphs : List Paragraph}

/-- The definitions of some paragraphs, in order. -/
def foundIn (paragraphs : List Paragraph) : List Definition :=
  paragraphs.flatMap fun paragraph => paragraph.extraction.definitions

theorem foundIn_append (paragraphs others : List Paragraph) :
    foundIn (paragraphs ++ others) = foundIn paragraphs ++ foundIn others :=
  List.flatMap_append

theorem mapM_parseDefinitions (paragraphs : List Paragraph) :
    paragraphs.mapM (parseDefinitions none) = .ok (paragraphs.map Paragraph.extraction) := by
  induction paragraphs with
  | nil => rfl
  | cons paragraph paragraphs ih =>
    rw [List.mapM_cons, parseDefinitions_eq, ok_bind, ih]
    rfl

/-- The label of a definition is the key of a raw label, and so its own key. -/
theorem Paragraph.key_label (mem : d ∈ paragraph.extraction.definitions) :
    Label.key d.label = d.label := by
  obtain ⟨p, q, -, blocks, fed, harvest, -⟩ := exists_blocks Label.maxLength paragraph.toLines
  rw [feedAll_fresh] at fed
  obtain rfl := Except.ok.inj fed
  rw [(coherent_fed _ _).harvest_eq] at harvest
  have definitions := (Prod.mk.inj (Except.ok.inj harvest)).1
  rw [extraction, definitions] at mem
  obtain ⟨block, -, rfl⟩ := List.mem_map.1 mem
  exact Label.key_key _

theorem key_label_of_mem_foundIn (mem : d ∈ foundIn paragraphs) : Label.key d.label = d.label := by
  obtain ⟨paragraph, -, mem⟩ := List.mem_flatMap.1 mem
  exact paragraph.key_label mem

/-! ### Collections -/

namespace Collection

variable {c c' c'' : Collection} {ds es : List Definition}

/-- The second collection comes from the first by the addition of some definitions: they are added
to the map, and each of them is counted as stored or as ignored. -/
structure Takes (c : Collection) (ds : List Definition) (c' : Collection) : Prop where
  map : c'.map = (c.map.addAll ds).map
  stored : c'.stored + c.map.size = c.stored + c'.map.size
  counted : c'.stored + c'.ignored = c.stored + c.ignored + ds.length

theorem Takes.append (first : c.Takes ds c') (second : c'.Takes es c'') :
    c.Takes (ds ++ es) c'' where
  map := by rw [second.map, first.map, ReferenceMap.map_addAll_append]
  stored := by
    have := first.stored
    have := second.stored
    omega
  counted := by
    have := first.counted
    have := second.counted
    rw [List.length_append]
    omega

theorem add_takes (c : Collection) (paragraph : Paragraph) :
    ∃ c', c.add paragraph = .ok c' ∧ c.Takes paragraph.extraction.definitions c' := by
  have size := c.map.size_addAll paragraph.extraction.definitions
  have most := c.map.value_addAll_le paragraph.extraction.definitions
  rw [add, parseDefinitions_eq, ok_bind]
  refine ⟨_, rfl, rfl, ?_, ?_⟩
  · dsimp only
    omega
  · dsimp only
    omega

theorem addAll_takes (c : Collection) (paragraphs : List Paragraph) :
    ∃ c', c.addAll paragraphs = .ok c' ∧ c.Takes (foundIn paragraphs) c' := by
  induction paragraphs generalizing c with
  | nil => exact ⟨c, rfl, rfl, rfl, rfl⟩
  | cons paragraph paragraphs ih =>
    obtain ⟨c', added, first⟩ := c.add_takes paragraph
    obtain ⟨c'', addedAll, others⟩ := ih c'
    refine ⟨c'', ?_, first.append others⟩
    rw [addAll, added, ok_bind, addedAll]

end Collection

/-- A collection takes the definitions of all its paragraphs, and ends with a summary. -/
theorem collect_takes (m : ReferenceMap) (paragraphs : List Paragraph) :
    ∃ c, collect m paragraphs = .ok c ∧ (Collection.start m).Takes (foundIn paragraphs) c ∧
      c.notices.getLast? = some (.collected c.stored c.ignored) := by
  obtain ⟨c, added, map, stored, counted⟩ := (Collection.start m).addAll_takes paragraphs
  refine ⟨{ c with notices := c.notices ++ [c.summary] }, ?_, ⟨map, stored, counted⟩, ?_⟩
  · rw [collect, added, ok_bind]
    rfl
  · exact List.getLast?_concat

/-- Further paragraphs may be collected later. -/
theorem collect_append {m : ReferenceMap} {c : Collection} (h : collect m paragraphs = .ok c)
    (others : List Paragraph) :
    ∃ next whole, collect c.map others = .ok next ∧
      collect m (paragraphs ++ others) = .ok whole ∧ whole.map = next.map ∧
      whole.stored = c.stored + next.stored ∧ whole.ignored = c.ignored + next.ignored := by
  obtain ⟨c', collected, ⟨map, stored, counted⟩, -⟩ := collect_takes m paragraphs
  obtain rfl := Except.ok.inj (h.symm.trans collected)
  obtain ⟨next, collectedNext, ⟨mapNext, storedNext, countedNext⟩, -⟩ := collect_takes c.map others
  obtain ⟨whole, collectedWhole, ⟨mapWhole, storedWhole, countedWhole⟩, -⟩ :=
    collect_takes m (paragraphs ++ others)
  have same : whole.map = next.map := by
    rw [mapWhole, mapNext, foundIn_append, ReferenceMap.map_addAll_append, map]
    rfl
  rw [foundIn_append, List.length_append] at countedWhole
  simp only [Collection.start] at stored counted storedNext countedNext
  simp only [Collection.start, same] at storedWhole countedWhole
  exact ⟨next, whole, collectedNext, collectedWhole, same, by omega, by omega⟩

/-- **The first definition wins.** A collection leaves the entries of the map as they are and puts
the definitions of new labels after them, in the order of the document and the first one of each
label only. A query finds the entry of the map, or else the first definition of the document; in a
map that was empty each definition is found by its own label. The summary counts the definitions
that were stored and all others. Paragraphs that come later may be collected later. -/
theorem collect_keeps_first (m : ReferenceMap) (paragraphs : List Paragraph) :
    ∃ es c, paragraphs.mapM (parseDefinitions none) = .ok es ∧ collect m paragraphs = .ok c ∧
      let found := es.flatMap Extraction.definitions
      c.map.entries = m.entries ++ firsts m.labels found ∧
      (∀ query, c.map.get? query =
        (m.get? query).or (found.find? fun d => d.label == Label.key query)) ∧
      (m = .empty → ∀ d ∈ c.map.entries, c.map.get? d.label = some d) ∧
      c.notices.getLast? = some (.collected c.stored c.ignored) ∧
      c.map.size = m.size + c.stored ∧ found.length = c.stored + c.ignored ∧
      ∀ others, ∃ next whole, collect c.map others = .ok next ∧
        collect m (paragraphs ++ others) = .ok whole ∧ whole.map = next.map ∧
        whole.stored = c.stored + next.stored ∧ whole.ignored = c.ignored + next.ignored := by
  obtain ⟨c, collected, takes, last⟩ := collect_takes m paragraphs
  have found : (paragraphs.map Paragraph.extraction).flatMap Extraction.definitions =
      foundIn paragraphs := List.flatMap_map ..
  have map : c.map = (m.addAll (foundIn paragraphs)).map := takes.map
  have stored : c.stored + m.size = 0 + c.map.size := takes.stored
  have counted : c.stored + c.ignored = 0 + 0 + (foundIn paragraphs).length := takes.counted
  refine ⟨_, c, mapM_parseDefinitions paragraphs, collected, ?_⟩
  simp only [found]
  refine ⟨?_, fun query => ?_, ?_, last, by omega, by omega, fun others => ?_⟩
  · rw [map, ReferenceMap.entries_addAll]
  · rw [map, ReferenceMap.get?_addAll]
  · rintro rfl d mem
    refine ReferenceMap.get?_label mem ?_
    rw [map, ReferenceMap.entries_addAll] at mem
    exact key_label_of_mem_foundIn (mem_of_mem_firsts mem)
  · exact collect_append collected others

/-- Paragraphs with two definitions of either label. -/
def twoParagraphs : List Paragraph :=
  [.text "[a]: /1\n[A]: /2".toList, .lines ["[ b ]: /3".toList, "[a]: /4".toList, "text".toList]]

theorem collect_keeps_first_twoParagraphs :
    ∃ c, collect .empty twoParagraphs = .ok c ∧
      c.map.entries = [⟨['a'], "/1".toList, none⟩, ⟨['b'], "/3".toList, none⟩] ∧
      c.map.get? "\tB".toList = some ⟨['b'], "/3".toList, none⟩ ∧
      c.map.get? ['a'] = some ⟨['a'], "/1".toList, none⟩ ∧
      c.notices.getLast? = some (.collected 2 2) := by
  obtain ⟨es, c, parsed, collected, entries, lookup, self, last, size, counted, -⟩ :=
    collect_keeps_first .empty twoParagraphs
  have known : (twoParagraphs.mapM (parseDefinitions none)).map
      (·.flatMap Extraction.definitions) = .ok
        [⟨['a'], "/1".toList, none⟩, ⟨['a'], "/2".toList, none⟩, ⟨['b'], "/3".toList, none⟩,
          ⟨['a'], "/4".toList, none⟩] := by
    decide +kernel
  rw [parsed] at known
  have found : es.flatMap Extraction.definitions = _ := Except.ok.inj known
  have stored : c.map.entries = [⟨['a'], "/1".toList, none⟩, ⟨['b'], "/3".toList, none⟩] := by
    rw [entries, found]
    decide
  have two : c.stored = 2 := by
    have same : c.map.entries.length = 0 + c.stored := size
    rw [stored] at same
    exact (Nat.zero_add _).symm.trans same.symm
  have others : c.ignored = 2 := by
    rw [found, two] at counted
    exact (Nat.add_left_cancel counted).symm
  refine ⟨c, collected, stored, ?_, self rfl _ (by rw [stored]; exact List.mem_cons_self), ?_⟩
  · rw [lookup, found]
    decide +kernel
  · rw [last, two, others]

/-- **Keys are final.** The key of a key is the key itself, and its only blanks are single spaces
within it. So in the map of a document a query finds what its key finds, and it refers to a
definition exactly if it finds one. -/
theorem collect_finds_keys :
    (∀ raw, Label.key (Label.key raw) = Label.key raw ∧
      (Label.key raw).head? ≠ some ' ' ∧ (Label.key raw).getLast? ≠ some ' ' ∧
      ¬ [' ', ' '] <:+: Label.key raw ∧
      ∀ c ∈ ['\t', '\n', '\x0b', '\x0c', '\r'], c ∉ Label.key raw) ∧
      ∀ paragraphs, ∃ c, collect .empty paragraphs = .ok c ∧ ∀ query,
        c.map.get? query = c.map.get? (Label.key query) ∧
        (c.map.contains query = true ↔ c.map.get? query ≠ none) := by
  refine ⟨fun raw => ?_, fun paragraphs => ?_⟩
  · have tight : Label.Tight (Label.key raw) := Label.tight_keyBy CaseFolding.keepsWords_fold raw
    refine ⟨Label.key_key raw, tight.head, tight.last, tight.not_infix, fun c other mem => ?_⟩
    have all : ['\t', '\n', '\x0b', '\x0c', '\r'].all (fun c => isBlank c ∧ c ≠ ' ') = true := by
      decide
    have blank := List.all_eq_true.1 all c other
    rw [decide_eq_true_eq] at blank
    exact blank.2 (tight.single c mem blank.1)
  · obtain ⟨c, collected, -⟩ := collect_takes .empty paragraphs
    exact ⟨c, collected, fun query => ⟨(c.map.get?_key query).symm, c.map.contains_iff query⟩⟩

end LinkDefinitions
