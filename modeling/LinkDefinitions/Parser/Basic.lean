import LinkDefinitions.Definition
import LinkDefinitions.Label
import LinkDefinitions.Literal
import LinkDefinitions.Notice

/-!
# The parser

A paragraph may open with link reference definitions, each of which may go over several lines. A
parser is fed the lines of one paragraph in order and never looks at a line twice. It keeps a
stage, the definitions it has found, and the lines that belong to none of them. The first line
that cannot go on with a definition makes the rest of the paragraph ordinary text.

A destination at the end of a line completes a definition even if a title follows in a later line.
Such a definition is held as a draft: a title that is completed replaces it by a titled one, and
otherwise it becomes a definition as it is.

This file holds what a parser keeps, what a fault leaves of it, and how it settles a draft or gives
up on a definition.
-/

namespace LinkDefinitions

/-- A definition that is complete but may still get a title. Destination and title are raw. -/
structure Draft where
  label : Text
  destination : Text
  title : Option Text
  deriving DecidableEq, Repr

/-- The definition of a draft, with its escapes and references resolved. -/
def Draft.definition (d : Draft) : Except Fault Definition :=
  Definition.make d.label (unescape d.destination) (d.title.map unescape)

/-- A parser within a paragraph. -/
structure Parser where
  /-- The greatest length of a raw label. -/
  labelLimit : Nat
  stage : Stage
  pending : Option Draft
  /-- The lines that belong to no definition so far. -/
  remaining : List Text
  finalized : List Definition
  /-- All that was reported, the oldest notice first. -/
  notices : List Notice
  deriving DecidableEq, Repr

/-- A fault, and the parser as it was left. -/
structure Failure where
  parser : Parser
  fault : Fault
  deriving DecidableEq, Repr

namespace Parser

/-- A parser at the start of a paragraph. -/
def fresh (labelLimit : Nat) : Parser := ⟨labelLimit, .startDefinition, none, [], [], []⟩

/-- A parser at the start of a paragraph, with the usual limit unless one is given. A limit has to
be positive. -/
def start (limit : Option Int) : Except Fault Parser :=
  match limit with
  | none => .ok (fresh Label.maxLength)
  | some n => if n ≤ 0 then .error (.nonpositiveLimit n) else .ok (fresh n.toNat)

/-- The parser in another stage. -/
def goto (p : Parser) (stage : Stage) : Parser := { p with stage }

/-- What is done while the parser is `p`: a fault of it leaves `p`. -/
def during {α : Type} (p : Parser) : Except Fault α → Except Failure α
  | .ok a => .ok a
  | .error fault => .error ⟨p, fault⟩

section During

variable {α β : Type} {p : Parser} {result : Except Fault α} {f : α → β}

theorem bind_during_eq_ok_iff {b : β} :
    (do return f (← p.during result) : Except Failure β) = .ok b ↔
      ∃ a, result = .ok a ∧ f a = b := by
  cases result <;> simp [during, bind, Except.bind, pure, Except.pure]

theorem bind_during_eq_error_iff {failure : Failure} :
    (do return f (← p.during result) : Except Failure β) = .error failure ↔
      ∃ fault, result = .error fault ∧ failure = ⟨p, fault⟩ := by
  cases result <;> simp [during, bind, Except.bind, pure, Except.pure, eq_comm]

end During

/-- Turns a pending draft into a definition. If that cannot be done, nothing is. -/
def finalize (p : Parser) : Except Fault Parser :=
  match p.pending with
  | none => .ok p
  | some draft => do
    let d ← draft.definition
    return { p with
      pending := none
      finalized := p.finalized ++ [d]
      notices := p.notices ++ [.finalized d.label d.destination] }

/-- Leaves a definition that `line` cannot go on with: the rest of the block is a paragraph. -/
def demote (p : Parser) (line : Text) : Parser :=
  { p with stage := .paragraph, notices := p.notices ++ [.demoted p.stage line] }

end Parser

end LinkDefinitions
