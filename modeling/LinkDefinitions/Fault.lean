import LinkDefinitions.Stage

/-!
# Faults

What can go wrong is never the text that is read: a text that holds no definition is ordinary. A
fault is a misuse of an operation, and this file lists their causes and words them.
-/

namespace LinkDefinitions

/-- The causes of failure. -/
inductive Fault
  /-- A character was asked for at or beyond the end of a line. -/
  | pastEnd (pos : Int)
  /-- A character was asked for further before the start of a line than the line is long. -/
  | outOfRange
  /-- A definition without a label. -/
  | emptyLabel
  /-- A limit for the length of labels that is not positive. -/
  | nonpositiveLimit (limit : Int)
  /-- A parser was to take a step in a stage in which there is none to take. -/
  | unknownStage (stage : Stage)
  deriving DecidableEq, Repr

/-- The wording of a fault. -/
def Fault.message : Fault → Text
  | pastEnd pos => "Unexpected end of line at position ".toList ++ decimal pos
  | outOfRange => "string index out of range".toList
  | emptyLabel => "LinkReferenceDefinition label must be non-empty".toList
  | nonpositiveLimit limit => "max_label_length must be positive, got ".toList ++ decimal limit
  | unknownStage stage => "Unknown parsing state: ".toList ++ stage.describe

end LinkDefinitions
