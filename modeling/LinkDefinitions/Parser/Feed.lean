import LinkDefinitions.Parser.Step

/-!
# Feeding lines and harvesting definitions

`Parser.read` takes step after step until a line is used up or does not match, `Parser.feed` keeps
the line and reads it, and `Parser.harvest` settles the draft and gives the definitions found so
far. Both may be called in any order.
-/

namespace LinkDefinitions

namespace Parser

/-- Reads the unread rest `t` of `line`, step after step. A step that does not match demotes the
block, and one that fails ends the reading. -/
def read (p : Parser) (line t : Text) : Except Failure Parser :=
  if _ : t = [] then .ok p
  else
    match _ : p.step t with
    | .error failure => .error failure
    | .ok none => .ok (p.demote line)
    | .ok (some (q, u)) => q.read line u
  termination_by 2 * t.length + idleSteps p.stage
  decreasing_by exact step_progress ‹_› ‹_›

theorem read_nil (p : Parser) (line : Text) : p.read line [] = .ok p := by
  rw [read, dif_pos rfl]

theorem read_of_match {p q : Parser} {line t u : Text} (nonempty : t ≠ [])
    (h : p.step t = .ok (some (q, u))) : p.read line t = q.read line u := by
  rw [read, dif_neg nonempty]
  split <;> simp_all

theorem read_of_no_match {p : Parser} {line t : Text} (nonempty : t ≠ [])
    (h : p.step t = .ok none) : p.read line t = .ok (p.demote line) := by
  rw [read, dif_neg nonempty]
  split <;> simp_all

theorem read_of_failure {p : Parser} {line t : Text} {failure : Failure} (nonempty : t ≠ [])
    (h : p.step t = .error failure) : p.read line t = .error failure := by
  rw [read, dif_neg nonempty]
  split <;> simp_all

/-- A parser that has been fed a line, and the fault if it could not read the line. -/
structure Feeding where
  parser : Parser
  fault : Option Fault
  deriving DecidableEq, Repr

/-- The parser with a line that belongs to no definition so far. -/
def keep (p : Parser) (line : Text) : Parser := { p with remaining := p.remaining ++ [line] }

/-- Feeds the next line of the paragraph to a parser. The line is kept first, so that a definition
which it completes takes it away again; in a paragraph nothing more happens. If a step fails, all
that was done before stays. -/
def feed (p : Parser) (line : Text) : Feeding :=
  let kept := p.keep line
  if p.stage = .paragraph then ⟨kept, none⟩
  else
    match kept.read line line with
    | .ok q => ⟨q, none⟩
    | .error ⟨q, fault⟩ => ⟨q, some fault⟩

/-- Feeds lines in order, as long as there is no fault. -/
def feedAll (p : Parser) : List Text → Except Fault Parser
  | [] => .ok p
  | line :: lines =>
    match p.feed line with
    | ⟨q, none⟩ => q.feedAll lines
    | ⟨_, some fault⟩ => .error fault

/-- The definitions found so far, a pending draft included, and the parser in which that draft is
settled. The stage stays. -/
def harvest (p : Parser) : Except Fault (List Definition × Parser) := do
  let q ← p.finalize
  return (q.finalized, q)

end Parser

end LinkDefinitions
