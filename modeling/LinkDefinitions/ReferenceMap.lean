import LinkDefinitions.Definition
import LinkDefinitions.Label
import LinkDefinitions.Notice

/-!
# Reference maps

A reference map holds definitions by their labels, in the order in which they were added. The first
definition of a label stays; a later one is refused with a notice. A definition is stored under its
label as it is, and a query is a raw label, of which the key is looked up.
-/

namespace LinkDefinitions

/-- Definitions with distinct labels, in the order of their addition. -/
structure ReferenceMap where
  entries : List Definition
  distinct : (entries.map Definition.label).Nodup
  deriving DecidableEq, Repr

namespace ReferenceMap

/-- The map without definitions. -/
def empty : ReferenceMap := ⟨[], List.nodup_nil⟩

/-- The labels that have a definition, in order. -/
def labels (m : ReferenceMap) : List Text := m.entries.map Definition.label

/-- The number of definitions. -/
def size (m : ReferenceMap) : Nat := m.entries.length

/-- What an operation leaves, answers and reports. -/
structure Outcome (α : Type) where
  map : ReferenceMap
  value : α
  notices : List Notice
  deriving DecidableEq, Repr

/-- The map with a definition whose label is free. -/
def push (m : ReferenceMap) (d : Definition) (free : d.label ∉ m.labels) : ReferenceMap where
  entries := m.entries ++ [d]
  distinct := by
    rw [List.map_append, List.map_singleton, List.nodup_append]
    refine ⟨m.distinct, by simp, ?_⟩
    intro taken mem added new equal
    rw [List.mem_singleton] at new
    exact free (new ▸ equal ▸ mem)

@[simp] theorem labels_push (m : ReferenceMap) (d : Definition) (free : d.label ∉ m.labels) :
    (m.push d free).labels = m.labels ++ [d.label] := by
  simp [labels, push]

/-- Adds a definition unless its label is taken; the value says whether it was stored. -/
def add (m : ReferenceMap) (d : Definition) : Outcome Bool :=
  if h : d.label ∈ m.labels then ⟨m, false, [.duplicate d.label]⟩ else ⟨m.push d h, true, []⟩

/-- Adds definitions in order; the value is the number of those stored. -/
def addAll (m : ReferenceMap) : List Definition → Outcome Nat
  | [] => ⟨m, 0, []⟩
  | d :: ds =>
    let first := m.add d
    let others := first.map.addAll ds
    ⟨others.map, first.value.toNat + others.value, first.notices ++ others.notices⟩

/-- The map of the first definition of each label. -/
def ofList (ds : List Definition) : ReferenceMap := (empty.addAll ds).map

/-- The definition that a raw label refers to. -/
def get? (m : ReferenceMap) (query : Text) : Option Definition :=
  m.entries.find? fun d => d.label == Label.key query

/-- Whether a raw label refers to a definition. -/
def contains (m : ReferenceMap) (query : Text) : Bool := m.labels.contains (Label.key query)

/-- Whether a value refers to a definition; one that is no text refers to none. -/
def refersTo (m : ReferenceMap) (value : Option Text) : Bool := value.any m.contains

/-- A map as it is shown to a reader: its labels in order. -/
def describe (m : ReferenceMap) : Text :=
  "ReferenceMap([".toList ++ [',', ' '].intercalate (m.labels.map quoted) ++ "])".toList

end ReferenceMap

end LinkDefinitions
