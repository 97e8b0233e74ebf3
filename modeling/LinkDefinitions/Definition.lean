import LinkDefinitions.Fault

/-!
# Link reference definitions

A definition gives a label its destination and, if it has one, its title. Its fields are final:
the label is a key, and destination and title are literal texts.
-/

namespace LinkDefinitions

/-- A link reference definition. -/
structure Definition where
  label : Text
  destination : Text
  title : Option Text
  deriving DecidableEq, Repr

namespace Definition

/-- The definition with the given fields. The label may not be empty. -/
def make (label destination : Text) (title : Option Text) : Except Fault Definition :=
  if label = [] then .error .emptyLabel else .ok ⟨label, destination, title⟩

/-- A definition as it is shown to a reader. -/
def describe (d : Definition) : Text :=
  "LinkReferenceDefinition(label=".toList ++ quoted d.label ++
    ", destination=".toList ++ quoted d.destination ++
    ", title=".toList ++ (d.title.elim "None".toList quoted) ++ [')']

end Definition

end LinkDefinitions
