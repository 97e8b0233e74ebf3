import LinkDefinitions.Proofs.Label
import LinkDefinitions.ReferenceMap
import Mathlib.Data.List.Induction
import Mathlib.Data.List.Nodup

/-!
# What a reference map holds

Adding definitions to a map appends those with a label that neither the map nor an earlier one of
them has (`entries_addAll`). A query finds what it found before, or else the first of the added
definitions that it refers to (`get?_addAll`). Both follow from what one addition does.

A query is looked up by its key, and a key is its own key, so asking for the key of a label finds
what asking for the label does (`get?_key`).
-/

namespace LinkDefinitions

variable {ds es : List Definition} {d : Definition} {taken : List Text} {x query : Text}

/-- The definitions of a list that are chosen, given those before them. -/
def chosen (choose : List Definition → Definition → Bool) (ds : List Definition) :
    List Definition :=
  (ds.zipIdx.filter fun (d, i) => choose (ds.take i) d).map Prod.fst

/-- The last definition does not matter for the earlier ones. -/
theorem chosen_concat (choose : List Definition → Definition → Bool) (ds : List Definition)
    (d : Definition) :
    chosen choose (ds ++ [d]) = chosen choose ds ++ if choose ds d then [d] else [] := by
  unfold chosen
  rw [List.zipIdx_append, List.filter_append, List.map_append]
  congr 1
  · congr 1
    refine List.filter_congr fun (e, i) mem => ?_
    have bound := List.snd_lt_of_mem_zipIdx mem
    have same : (ds ++ [d]).take i = ds.take i :=
      List.take_append_of_le_length (Nat.le_of_lt (by simpa using bound))
    simp only [same]
  · cases h : choose ds d <;> simp [h]

/-- The definitions with a label that is not taken and that no earlier one of the list has. -/
def firsts (taken : List Text) (ds : List Definition) : List Definition :=
  (ds.zipIdx.filter fun (d, i) =>
    !taken.contains d.label && !((ds.take i).map Definition.label).contains d.label).map Prod.fst

theorem firsts_concat (taken : List Text) (ds : List Definition) (d : Definition) :
    firsts taken (ds ++ [d]) =
      firsts taken ds ++
        if d.label ∉ taken ∧ d.label ∉ ds.map Definition.label then [d] else [] := by
  have step := chosen_concat (fun before d =>
    !taken.contains d.label && !(before.map Definition.label).contains d.label) ds d
  simpa [firsts, chosen] using step

theorem mem_of_mem_firsts (h : d ∈ firsts taken ds) : d ∈ ds := by
  obtain ⟨⟨e, i⟩, mem, rfl⟩ := List.mem_map.1 h
  exact List.fst_mem_of_mem_zipIdx (List.mem_filter.1 mem).1

namespace ReferenceMap

variable {m : ReferenceMap}

/-! ### Queries -/

/-- A query finds what its key finds. -/
theorem get?_key (m : ReferenceMap) (query : Text) : m.get? (Label.key query) = m.get? query := by
  rw [get?, get?, Label.key_key]

/-- A query refers to a definition exactly if it finds one. -/
theorem contains_iff (m : ReferenceMap) (query : Text) :
    m.contains query = true ↔ m.get? query ≠ none := by
  rw [contains, List.contains_iff_mem, labels, List.mem_map, get?, Option.ne_none_iff_isSome,
    List.find?_isSome]
  simp only [beq_iff_eq]

/-! ### One definition -/

theorem add_of_mem (h : d.label ∈ m.labels) : m.add d = ⟨m, false, [.duplicate d.label]⟩ :=
  dif_pos h

theorem add_of_not_mem (h : d.label ∉ m.labels) : m.add d = ⟨m.push d h, true, []⟩ :=
  dif_neg h

theorem entries_add (m : ReferenceMap) (d : Definition) :
    (m.add d).map.entries = m.entries ++ if d.label ∉ m.labels then [d] else [] := by
  by_cases h : d.label ∈ m.labels
  · rw [add_of_mem h, if_neg (not_not.2 h), List.append_nil]
  · rw [add_of_not_mem h, if_pos h]
    rfl

theorem mem_labels_add : x ∈ (m.add d).map.labels ↔ x ∈ m.labels ∨ x = d.label := by
  by_cases h : d.label ∈ m.labels
  · rw [add_of_mem h, or_iff_left_of_imp]
    rintro rfl
    exact h
  · rw [add_of_not_mem h, labels_push, List.mem_append, List.mem_singleton]

theorem size_add (m : ReferenceMap) (d : Definition) :
    (m.add d).map.size = m.size + (m.add d).value.toNat := by
  by_cases h : d.label ∈ m.labels
  · rw [add_of_mem h]
    rfl
  · rw [add_of_not_mem h]
    exact List.length_append

/-- The new definition is found where nothing was found before. -/
theorem get?_add (m : ReferenceMap) (d : Definition) (query : Text) :
    (m.add d).map.get? query =
      (m.get? query).or ([d].find? fun d => d.label == Label.key query) := by
  unfold get?
  by_cases h : d.label ∈ m.labels
  · rw [add_of_mem h]
    by_cases same : d.label = Label.key query
    · obtain ⟨e, mem, label⟩ := List.mem_map.1 h
      have found : (m.entries.find? fun e => e.label == Label.key query).isSome := by
        refine List.find?_isSome.2 ⟨e, mem, ?_⟩
        rw [beq_iff_eq, label, same]
      rw [Option.or_of_isSome found]
    · simp [same]
  · rw [add_of_not_mem h]
    exact List.find?_append

/-! ### Several definitions -/

/-- Adding definitions one after the other. -/
theorem map_addAll_append (m : ReferenceMap) (ds es : List Definition) :
    (m.addAll (ds ++ es)).map = ((m.addAll ds).map.addAll es).map := by
  induction ds generalizing m with
  | nil => rfl
  | cons d ds ih => exact ih (m.add d).map

theorem map_addAll_concat (m : ReferenceMap) (ds : List Definition) (d : Definition) :
    (m.addAll (ds ++ [d])).map = ((m.addAll ds).map.add d).map :=
  map_addAll_append m ds [d]

theorem mem_labels_addAll :
    x ∈ (m.addAll ds).map.labels ↔ x ∈ m.labels ∨ x ∈ ds.map Definition.label := by
  induction ds using List.reverseRecOn with
  | nil => simp [addAll]
  | append_singleton ds d ih =>
    rw [map_addAll_concat, mem_labels_add, ih, List.map_append, List.mem_append, or_assoc]
    simp

/-- The entries stay, and the definitions of new labels follow them. -/
theorem entries_addAll (m : ReferenceMap) (ds : List Definition) :
    (m.addAll ds).map.entries = m.entries ++ firsts m.labels ds := by
  induction ds using List.reverseRecOn with
  | nil => exact (List.append_nil _).symm
  | append_singleton ds d ih =>
    rw [map_addAll_concat, entries_add, ih, firsts_concat, List.append_assoc]
    simp only [mem_labels_addAll, not_or]

/-- What is found in the map, and else in the list. -/
theorem get?_addAll (m : ReferenceMap) (ds : List Definition) (query : Text) :
    (m.addAll ds).map.get? query =
      (m.get? query).or (ds.find? fun d => d.label == Label.key query) := by
  induction ds using List.reverseRecOn with
  | nil => exact (Option.or_none).symm
  | append_singleton ds d ih =>
    rw [map_addAll_concat, get?_add, ih, List.find?_append, Option.or_assoc]

theorem size_addAll (m : ReferenceMap) (ds : List Definition) :
    (m.addAll ds).map.size = m.size + (m.addAll ds).value := by
  induction ds generalizing m with
  | nil => rfl
  | cons d ds ih =>
    have first := size_add m d
    have others := ih (m.add d).map
    simp only [addAll]
    omega

/-- No more definitions are stored than there are. -/
theorem value_addAll_le (m : ReferenceMap) (ds : List Definition) :
    (m.addAll ds).value ≤ ds.length := by
  induction ds generalizing m with
  | nil => exact Nat.le_refl _
  | cons d ds ih =>
    have first := (m.add d).value.toNat_le
    have others := ih (m.add d).map
    simp only [addAll, List.length_cons]
    omega

/-- A definition is found by its label if the label is a key. -/
theorem get?_label (mem : d ∈ m.entries) (key : Label.key d.label = d.label) :
    m.get? d.label = some d := by
  rw [get?, key]
  obtain ⟨e, found⟩ := Option.isSome_iff_exists.1
    (List.find?_isSome.2 ⟨d, mem, beq_iff_eq.2 rfl⟩ :
      (m.entries.find? fun e => e.label == d.label).isSome)
  have label := List.find?_some found
  rw [beq_iff_eq] at label
  rw [found]
  exact congrArg some
    (List.inj_on_of_nodup_map m.distinct (List.mem_of_find?_eq_some found) mem label)

end ReferenceMap

end LinkDefinitions
