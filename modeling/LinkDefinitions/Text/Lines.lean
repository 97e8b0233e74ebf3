import LinkDefinitions.Text.Basic

/-!
# Lines of a text

A line ends at LF, at CR, or at CR followed by LF. An ending at the very end of a text adds no
line.
-/

namespace LinkDefinitions

/-- The pieces between the line endings of a text, one more than there are endings. -/
def linePieces : Text → List Text
  | [] => [[]]
  | '\r' :: '\n' :: t => [] :: linePieces t
  | '\r' :: t => [] :: linePieces t
  | '\n' :: t => [] :: linePieces t
  | c :: t =>
    match linePieces t with
    | [] => [[c]]
    | l :: ls => (c :: l) :: ls

/-- The lines of a text: its pieces without an empty last one. -/
def splitLines (t : Text) : List Text :=
  let ls := linePieces t
  if ls.getLast? = some [] then ls.dropLast else ls

/-- The lines with one LF between each and the next. -/
def joinLines (ls : List Text) : Text := ['\n'].intercalate ls

example : splitLines "a\x0d\nb\n".toList = ["a".toList, "b".toList] := by decide

end LinkDefinitions
