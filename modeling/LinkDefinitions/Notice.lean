import LinkDefinitions.Stage

/-!
# Notices

What happens while definitions are recognised and collected is reported in notices, in the order in
which it happens.
-/

namespace LinkDefinitions

/-- How much a notice matters. -/
inductive Severity
  | debug
  | info
  deriving DecidableEq, Repr

/-- Something worth reporting. -/
inductive Notice
  /-- A parser has completed a definition. -/
  | finalized (label destination : Text)
  /-- A line did not match in a stage, and the rest of the block is paragraph text. -/
  | demoted (stage : Stage) (line : Text)
  /-- A definition was not stored because its label is taken. -/
  | duplicate (label : Text)
  /-- A collection is complete. -/
  | collected (stored ignored : Nat)
  deriving DecidableEq, Repr

namespace Notice

/-- Only the summary of a collection is more than a detail. -/
def severity : Notice → Severity
  | collected .. => .info
  | _ => .debug

/-- The wording of a notice. -/
def message : Notice → Text
  | finalized label destination =>
    "Finalized link reference definition [".toList ++ label ++ "]: ".toList ++ destination
  | demoted stage line =>
    "No link reference definition in ".toList ++ stage.name ++
      " stage, treating rest as paragraph: ".toList ++ quoted line
  | duplicate label =>
    "Ignoring duplicate link reference definition [".toList ++ label ++ [']']
  | collected stored ignored =>
    "Collected ".toList ++ decimal stored ++ " link reference definitions (".toList ++
      decimal ignored ++ " duplicates ignored)".toList

end Notice

end LinkDefinitions
