import LinkDefinitions.Proofs.ReferenceMap
import Mathlib.Data.Finset.Card

/-!
# Histories of additions

A reference map is made from a list of definitions, and more of them are added in later calls, one
in a call or several. `history` runs the calls and keeps their notices. Adding several definitions
is adding them one by one (`addAll_eq_addEach`), so a history comes to the same as a single list of
all the definitions that were offered (`history_eq_addAll`). What one list leaves in an empty map is
told by the first occurrences of its labels, whatever the labels are (`history_keeps_first`).
-/

namespace LinkDefinitions

variable {taken : List Text} {d : Definition} {ds es : List Definition}

/-- The definitions with a label that is taken or that an earlier one of the list has. -/
def repeats (taken : List Text) (ds : List Definition) : List Definition :=
  chosen (fun before d =>
    taken.contains d.label || (before.map Definition.label).contains d.label) ds

theorem repeats_concat (taken : List Text) (ds : List Definition) (d : Definition) :
    repeats taken (ds ++ [d]) =
      repeats taken ds ++
        if d.label ∈ taken ∨ d.label ∈ ds.map Definition.label then [d] else [] := by
  rw [repeats, chosen_concat]
  simp [repeats]

namespace ReferenceMap

variable {m : ReferenceMap}

/-! ### One by one -/

/-- Adds definitions one by one; the value says of each whether it was stored. -/
def addEach (m : ReferenceMap) : List Definition → Outcome (List Bool)
  | [] => ⟨m, [], []⟩
  | d :: ds =>
    let first := m.add d
    let others := first.map.addEach ds
    ⟨others.map, first.value :: others.value, first.notices ++ others.notices⟩

/-- What is stored of several definitions is what is stored of each. -/
theorem addAll_eq_addEach (m : ReferenceMap) (ds : List Definition) :
    m.addAll ds =
      ⟨(m.addEach ds).map, (m.addEach ds).value.count true, (m.addEach ds).notices⟩ := by
  induction ds generalizing m with
  | nil => rfl
  | cons d ds ih =>
    rw [addAll, addEach, ih]
    cases (m.add d).value <;> simp [Nat.add_comm]

/-- Two lists in one call are the same as one after the other. -/
theorem addAll_append (m : ReferenceMap) (ds es : List Definition) :
    m.addAll (ds ++ es) =
      ⟨((m.addAll ds).map.addAll es).map,
        (m.addAll ds).value + ((m.addAll ds).map.addAll es).value,
        (m.addAll ds).notices ++ ((m.addAll ds).map.addAll es).notices⟩ := by
  induction ds generalizing m with
  | nil => simp [addAll]
  | cons d ds ih =>
    rw [List.cons_append, addAll, ih]
    simp [addAll, Nat.add_assoc]

theorem addAll_singleton (m : ReferenceMap) (d : Definition) :
    m.addAll [d] = ⟨(m.add d).map, (m.add d).value.toNat, (m.add d).notices⟩ := by
  simp [addAll]

/-! ### What is reported -/

theorem value_add (m : ReferenceMap) (d : Definition) :
    (m.add d).value = true ↔ d.label ∉ m.labels := by
  by_cases h : d.label ∈ m.labels
  · simp [add_of_mem h, h]
  · simp [add_of_not_mem h, h]

theorem notices_add (m : ReferenceMap) (d : Definition) :
    (m.add d).notices = if d.label ∈ m.labels then [.duplicate d.label] else [] := by
  by_cases h : d.label ∈ m.labels
  · rw [add_of_mem h, if_pos h]
  · rw [add_of_not_mem h, if_neg h]

/-- A notice for each definition that was refused, in order. -/
theorem notices_addAll (m : ReferenceMap) (ds : List Definition) :
    (m.addAll ds).notices = (repeats m.labels ds).map fun d => .duplicate d.label := by
  induction ds using List.reverseRecOn with
  | nil => rfl
  | append_singleton ds d ih =>
    rw [addAll_append, addAll_singleton, repeats_concat, List.map_append, ih, notices_add]
    simp only [mem_labels_addAll]
    split <;> rfl

/-- As many definitions as there are labels. -/
theorem size_eq_card (m : ReferenceMap) : m.size = m.labels.toFinset.card := by
  have distinct : m.labels.Nodup := m.distinct
  rw [List.toFinset_card_of_nodup distinct, labels, List.length_map, size]

/-! ### Histories -/

/-- A call that adds definitions to a map. -/
inductive Addition
  | one (d : Definition)
  | several (ds : List Definition)
  deriving DecidableEq, Repr

/-- The definitions that a call offers. -/
def Addition.offered : Addition → List Definition
  | one d => [d]
  | several ds => ds

/-- A call and its notices after what has happened before. -/
def Outcome.next (past : Outcome Unit) : Addition → Outcome Unit
  | .one d =>
    let added := past.map.add d
    ⟨added.map, (), past.notices ++ added.notices⟩
  | .several ds =>
    let added := past.map.addAll ds
    ⟨added.map, (), past.notices ++ added.notices⟩

/-- A map that is made from some definitions. -/
def made (initial : List Definition) : Outcome Unit :=
  ⟨ofList initial, (), (empty.addAll initial).notices⟩

/-- A map that is made from some definitions, after some calls. -/
def history (initial : List Definition) (calls : List Addition) : Outcome Unit :=
  calls.foldl Outcome.next (made initial)

/-- All definitions that were offered. -/
def offered (initial : List Definition) (calls : List Addition) : List Definition :=
  initial ++ calls.flatMap Addition.offered

theorem next_eq_addAll (past : Outcome Unit) (call : Addition) :
    past.next call =
      ⟨(past.map.addAll call.offered).map, (),
        past.notices ++ (past.map.addAll call.offered).notices⟩ := by
  cases call with
  | one d => rw [Outcome.next, Addition.offered, addAll_singleton]
  | several ds => rfl

/-- It does not matter in which calls definitions are offered. -/
theorem history_eq_addAll (initial : List Definition) (calls : List Addition) :
    history initial calls =
      ⟨(empty.addAll (offered initial calls)).map, (),
        (empty.addAll (offered initial calls)).notices⟩ := by
  induction calls using List.reverseRecOn with
  | nil => simp [history, offered, made, ofList]
  | append_singleton calls call ih =>
    have more : offered initial (calls ++ [call]) = offered initial calls ++ call.offered := by
      simp [offered]
    have step : history initial (calls ++ [call]) = (history initial calls).next call :=
      List.foldl_concat _ _ _ _
    rw [step, ih, next_eq_addAll, more, addAll_append]

/-- **The first definition of a label stays, whatever the history.** After a map is made and any
calls have added to it, its definitions are those offered under a label for the first time, in order
and as they were offered, and it has one for each label. Each of the others has left a notice. A
query finds the first offered definition that has the key as its label. The next definition is
stored exactly if it will be among the first of their labels, and a call that adds several stores as
many as the map grows by, which is to add them one by one. -/
theorem history_keeps_first (initial : List Definition) (calls : List Addition) :
    let m := (history initial calls).map
    let all := offered initial calls
    m.entries = firsts [] all ∧ m.size = (all.map Definition.label).toFinset.card ∧
      (history initial calls).notices = (repeats [] all).map (fun d => .duplicate d.label) ∧
      (∀ query, m.get? query = all.find? (fun d => d.label == Label.key query) ∧
        (m.contains query = true ↔ ∃ d ∈ all, d.label = Label.key query)) ∧
      (∀ d, firsts [] (all ++ [d]) = firsts [] all ++ if (m.add d).value then [d] else []) ∧
      ∀ ds, (m.addAll ds).map.size = m.size + (m.addAll ds).value ∧
        m.addAll ds =
          ⟨(m.addEach ds).map, (m.addEach ds).value.count true, (m.addEach ds).notices⟩ ∧
        ∀ es, m.addAll (ds ++ es) =
          ⟨((m.addAll ds).map.addAll es).map,
            (m.addAll ds).value + ((m.addAll ds).map.addAll es).value,
            (m.addAll ds).notices ++ ((m.addAll ds).map.addAll es).notices⟩ := by
  intro m all
  have whole := history_eq_addAll initial calls
  have map : m = (empty.addAll all).map := congrArg Outcome.map whole
  have entries : m.entries = firsts [] all := by rw [map, entries_addAll]; rfl
  have labels (x : Text) : x ∈ m.labels ↔ x ∈ all.map Definition.label := by
    rw [map, mem_labels_addAll]
    exact or_iff_right List.not_mem_nil
  refine ⟨entries, ?_, ?_, fun query => ⟨?_, ?_⟩, fun d => ?_, fun ds => ⟨m.size_addAll ds,
    m.addAll_eq_addEach ds, m.addAll_append ds⟩⟩
  · rw [size_eq_card]
    exact congrArg Finset.card (List.toFinset.ext labels)
  · rw [whole, notices_addAll]
    rfl
  · rw [map, get?_addAll]
    rfl
  · rw [ReferenceMap.contains, List.contains_iff_mem, labels, List.mem_map]
  · have stored := (m.value_add d).trans (not_congr (labels d.label))
    rw [firsts_concat]
    simp only [stored, List.not_mem_nil, not_false_eq_true, true_and]

/-- A definition that is offered twice, and another one under a label that is no key. -/
example :
    let first : Definition := ⟨['a'], ['1'], none⟩
    let again : Definition := ⟨['a'], ['2'], none⟩
    let other : Definition := ⟨['A'], ['3'], none⟩
    let run := history [first, again] [.one other, .several [again, other]]
    run.map.entries = [first, other] ∧ run.map.get? ['A'] = some first ∧
      run.notices = [.duplicate ['a'], .duplicate ['a'], .duplicate ['A']] := by
  decide +kernel

end ReferenceMap

end LinkDefinitions
