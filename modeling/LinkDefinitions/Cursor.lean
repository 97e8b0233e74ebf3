import LinkDefinitions.Fault
import LinkDefinitions.Scan

/-!
# Cursors

A cursor is a position in a line. Positions are any integers: a position at or beyond the end has
nothing ahead of it, and a negative position counts from the end of the line, so that what lies
ahead of it is the tail it points at and after that the whole line from the start. A position
further before the start than the line is long cannot be read from.

All reading goes through `Cursor.ahead`, and every scan of a text is a scan from a cursor.
-/

namespace LinkDefinitions

/-- A position in a line. -/
structure Cursor where
  source : Text
  pos : Int
  deriving DecidableEq, Repr

namespace Cursor

/-- Whether the line is exhausted. -/
def atEnd (c : Cursor) : Bool := c.source.length ≤ c.pos

/-- The characters from the cursor on. -/
def ahead (c : Cursor) : Except Fault Text :=
  if 0 ≤ c.pos then .ok (c.source.drop c.pos.toNat)
  else if 0 ≤ c.source.length + c.pos then
    .ok (c.source.drop (c.source.length + c.pos).toNat ++ c.source)
  else .error .outOfRange

/-- The cursor moved on by a number of characters that lie ahead of it. -/
def forward (c : Cursor) (count : Nat) : Cursor := { c with pos := c.pos + count }

/-- The cursor moved by any distance, but never past the end of the line. -/
def advance (c : Cursor) (count : Int) : Cursor :=
  { c with pos := min (c.pos + count) c.source.length }

/-- The next character. -/
def current (c : Cursor) : Except Fault Char := do
  match ← c.ahead with
  | [] => throw (.pastEnd c.pos)
  | ch :: _ => return ch

/-- The character at a distance from the cursor, if the line reaches that far. -/
def peek (c : Cursor) (offset : Int) : Except Fault (Option Char) := do
  return (← ahead { c with pos := c.pos + offset }).head?

/-- The cursor after the next character, if that is all of the wanted text. -/
def expect (c : Cursor) (wanted : Text) : Except Fault (Option Cursor) := do
  match ← c.ahead with
  | [] => return none
  | ch :: _ => return if [ch] = wanted then some (c.forward 1) else none

/-- The cursor after the blanks ahead of it. -/
def skipBlanks (c : Cursor) : Except Fault Cursor := do
  return c.forward ((← c.ahead).takeWhile isBlank).length

/-- The index that a slice bound stands for: a negative bound counts from the end of the line, and
none is before the start. -/
def bound (source : Text) (i : Int) : Nat := (if i < 0 then source.length + i else i).toNat

/-- The text of the line from the cursor to before the position `stop`. -/
def sliceTo (c : Cursor) (stop : Int) : Text :=
  (c.source.take (bound c.source stop)).drop (bound c.source c.pos)

/-- The cursor after what a scan takes. -/
def scanWith (scan : Text → Option (Text × Text)) (c : Cursor) :
    Except Fault (Option Cursor) := do
  return (scan (← c.ahead)).map fun (taken, _) => c.forward taken.length

/-- The cursor after the body of a label. -/
def scanLabel : Cursor → Except Fault (Option Cursor) := scanWith Scan.label

/-- The cursor after a destination. -/
def scanDestination : Cursor → Except Fault (Option Cursor) := scanWith Scan.destination

/-- The cursor after the body of a title that the given text closes. -/
def scanTitle (closing : Text) : Cursor → Except Fault (Option Cursor) :=
  scanWith (Scan.title closing)

/-- The text of the line between the cursor and the one after a destination, without its angle
brackets, and that cursor. -/
def rawDestination (c : Cursor) : Except Fault (Option (Text × Cursor)) := do
  return (← c.scanDestination).map fun after => (Scan.stripAngles (c.sliceTo after.pos), after)

end Cursor

end LinkDefinitions
