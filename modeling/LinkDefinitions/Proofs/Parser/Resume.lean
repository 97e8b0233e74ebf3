import LinkDefinitions.Proofs.Lines
import LinkDefinitions.Proofs.Parser.Coherent

/-!
# Reading a text across its lines

`Parser.resume` reads a text that begins within a line and goes on in later ones: the rest of the
line is read, and the later lines are fed. `Parser.Leads P x Q y` says that a parser with `P` that
has the text `x` before it comes to have `Q` with `y` before it. A move leads on within a line
(`Leads.of_move`), the end of a line leads into the next one (`Leads.nextLine`), and the ways can be
put one after the other (`Leads.trans`).
-/

namespace LinkDefinitions

namespace Parser

variable {p : Parser} {P Q R : Parser → Prop} {line s x y z : Text}

/-- Reads the rest of `line` with which the text begins, and feeds the lines after it. -/
def resume (p : Parser) (line x : Text) : Except Fault Parser := do
  let q ← (p.read line (firstLine x)).mapError Failure.fault
  q.feedAll (laterLines x)

theorem resume_nil (p : Parser) (line : Text) : p.resume line [] = .ok p := by
  unfold resume
  rw [firstLine_nil, read_nil]
  rfl

theorem feedAll_splitOn (h : p.stage ≠ .paragraph) (x : Text) :
    p.feedAll (x.splitOn '\n') = (p.keep (firstLine x)).resume (firstLine x) x := by
  rw [splitOn_eq, feedAll, feed, if_neg h, resume]
  cases (p.keep (firstLine x)).read (firstLine x) (firstLine x) <;> rfl

/-- At the end of a line the next one is kept and read. -/
theorem resume_break (h : p.stage ≠ .paragraph) (line x : Text) :
    p.resume line ('\n' :: x) = (p.keep (firstLine x)).resume (firstLine x) x := by
  rw [← feedAll_splitOn h, splitOn_eq, resume, firstLine_break, laterLines_break, read_nil]
  rfl

/-- From `P` with the text `x` to be read a parser comes to `Q` with `y` to be read. -/
def Leads (P : Parser → Prop) (x : Text) (Q : Parser → Prop) (y : Text) : Prop :=
  ∀ p line, P p → ∃ q line', Q q ∧ p.resume line x = q.resume line' y

theorem Leads.refl (P : Parser → Prop) (x : Text) : Leads P x P x :=
  fun p line holds => ⟨p, line, holds, rfl⟩

theorem Leads.trans (first : Leads P x Q y) (second : Leads Q y R z) : Leads P x R z := by
  intro p line holds
  obtain ⟨q, line', holds', eq⟩ := first p line holds
  obtain ⟨r, line'', holds'', eq'⟩ := second q line' holds'
  exact ⟨r, line'', holds'', eq.trans eq'⟩

/-- A move reads the text `s` within a line. -/
theorem Leads.of_move (whole : s ++ y = x) (inline : '\n' ∉ s) (nonempty : s ++ firstLine y ≠ [])
    (move : ∀ p, P p → ∃ q, p.Move (s ++ firstLine y) q (firstLine y) ∧ Q q) : Leads P x Q y := by
  subst whole
  intro p line holds
  obtain ⟨q, move, holds'⟩ := move p holds
  refine ⟨q, line, holds', ?_⟩
  unfold resume
  rw [firstLine_append inline, laterLines_append inline,
    read_of_match nonempty (step_eq_some_iff.2 move)]

theorem Leads.nextLine (goes_on : ∀ p, P p → p.stage ≠ .paragraph)
    (keep : ∀ p line, P p → Q (p.keep line)) (y : Text) : Leads P ('\n' :: y) Q y := by
  intro p line holds
  exact ⟨_, _, keep p _ holds, resume_break (goes_on p holds) line y⟩

end Parser

end LinkDefinitions
