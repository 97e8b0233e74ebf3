import LinkDefinitions.Text.Quoted

/-!
# Stages

The stages in which a line may find a definition. A stage holds what the definition has brought so
far and still needs; raw texts are kept as they are written, with a line feed at the end of each
line that is over.
-/

namespace LinkDefinitions

/-- The mark at the end of a line within a raw label or title that goes on. -/
def continuationMark : Char := '\n'

/-- A value that was put in the place of a parser's stage and is none. -/
inductive StrayStage
  | text (t : Text)
  | number (n : Int)
  | absent
  deriving DecidableEq, Repr

/-- A stray value as it is shown in a message. -/
def StrayStage.describe : StrayStage → Text
  | text t => quoted t
  | number n => decimal n
  | absent => "None".toList

/-- A stage of recognising a definition. -/
inductive Stage
  /-- Before the opening bracket. -/
  | startDefinition
  /-- Within the brackets, after the raw text of a label. -/
  | label (raw : Text)
  /-- Before the destination of a label, which is a key. -/
  | destination (label : Text)
  /-- After the raw destination, where a title may begin. -/
  | startTitle (label destination : Text)
  /-- Within a title that `closing` ends, after its raw text. -/
  | title (label destination : Text) (closing : Char) (raw : Text)
  /-- Nothing that follows in this block is a definition. -/
  | paragraph
  /-- A value that is no stage. No reading leads here. -/
  | unknown (value : StrayStage)
  deriving DecidableEq, Repr

namespace Stage

/-- The name of a stage. A value that is none goes by its description. -/
def name : Stage → Text
  | startDefinition => "start_definition".toList
  | label .. => "label".toList
  | destination .. => "destination".toList
  | startTitle .. => "start_title".toList
  | title .. => "title".toList
  | paragraph => "paragraph".toList
  | unknown value => value.describe

/-- The names of the six stages, in the order in which a definition passes them. -/
def names : List Text :=
  [name startDefinition, name (label []), name (destination []), name (startTitle [] []),
    name (title [] [] ')' []), name paragraph]

/-- A stage as it is shown in a message. -/
def describe : Stage → Text
  | startDefinition => "StartDefinition()".toList
  | label raw => "Label(raw=".toList ++ quoted raw ++ [')']
  | destination key => "Destination(label=".toList ++ quoted key ++ [')']
  | startTitle key target =>
    "StartTitle(label=".toList ++ quoted key ++ ", destination=".toList ++ quoted target ++ [')']
  | title key target closing raw =>
    "Title(label=".toList ++ quoted key ++ ", destination=".toList ++ quoted target ++
      ", delimiter=".toList ++ quoted [closing] ++ ", text=".toList ++ quoted raw ++ [')']
  | paragraph => "Paragraph()".toList
  | unknown value => value.describe

/-- The value that a fault of a stage is reported with: the stray value itself, or the description
of a stage proper. -/
def reported : Stage → StrayStage
  | unknown value => value
  | stage => .text stage.describe

/-- A stage where a stray value is expected. -/
instance : Coe Stage StrayStage := ⟨reported⟩

end Stage

end LinkDefinitions
