import LinkDefinitions.Proofs.Layout
import LinkDefinitions.Proofs.Lines

/-!
# Definitions in the lines they take

A definition takes whole lines. Its block (`Block`) says where in these lines the opening bracket
stands and what comes before it (`Lead`): blanks, or blanks and heads of definitions that were
abandoned since neither a line end nor a title followed. What comes after the bracket is a layout up
to the end of the last line.

The line of the bracket is blank before it exactly if nothing was abandoned
(`Lead.Fits.blank_iff`).
-/

namespace LinkDefinitions

variable {limit : Nat} {s column : Text}

/-! ### Places -/

/-- A place in the lines of a block: the lines before its own, and what stands before it there. -/
structure Spot where
  lines : List Text
  column : Text

namespace Spot

variable {x y : Spot}

/-- What stands before a place. -/
def text (x : Spot) : Text := terminate x.lines ++ x.column

/-- The place after some more text in the same line. -/
def extend (x : Spot) (s : Text) : Spot := ⟨x.lines, x.column ++ s⟩

/-- The beginning of the next line. -/
def nextLine (x : Spot) : Spot := ⟨x.lines ++ [x.column], []⟩

theorem extend_extend (x : Spot) (s t : Text) : (x.extend s).extend t = x.extend (s ++ t) := by
  simp [extend]

theorem text_extend (x : Spot) (s : Text) : (x.extend s).text = x.text ++ s := by
  simp [text, extend]

theorem text_nextLine (x : Spot) : x.nextLine.text = x.text ++ ['\n'] := by
  simp [text, nextLine]

/-- The first place does not come after the second one. -/
inductive Before (x : Spot) : Spot → Prop
  | sameLine (s : Text) : Before x (x.extend s)
  | laterLine (s : Text) (more : List Text) (column : Text) :
      Before x ⟨x.lines ++ (x.column ++ s) :: more, column⟩

theorem Before.refl (x : Spot) : Before x x := by
  have := sameLine (x := x) []
  rwa [extend, List.append_nil] at this

theorem Before.extend (h : Before x y) (t : Text) : Before x (y.extend t) := by
  cases h with
  | sameLine s =>
    rw [Spot.extend, Spot.extend, List.append_assoc]
    exact .sameLine (s ++ t)
  | laterLine s more column => exact .laterLine s more (column ++ t)

theorem Before.nextLine (h : Before x y) : Before x y.nextLine := by
  cases h with
  | sameLine s => exact .laterLine s [] []
  | laterLine s more column =>
    rw [Spot.nextLine, List.append_assoc, List.cons_append]
    exact .laterLine s (more ++ [column]) []

/-- A place stands in one of the lines up to a later one. -/
theorem Before.exists_line (h : Before x y) :
    ∃ s more, y.lines ++ [y.column] = x.lines ++ (x.column ++ s) :: more := by
  cases h with
  | sameLine s => exact ⟨s, [], rfl⟩
  | laterLine s more column => exact ⟨s, more ++ [column], by simp⟩

end Spot

/-! ### What comes before a definition -/

/-- What comes before the opening bracket of a definition in the lines that it takes. -/
inductive Lead (limit : Nat)
  | indent (b : Text) (blank : Blank b)
  /-- A label and a destination after which the line goes on without a title. -/
  | abandoned (before : Lead limit) (head : Head limit) (b : Text) (blank : Blank b)
      (nonempty : b ≠ [])

namespace Lead

/-- The text of a lead. -/
def text : Lead limit → Text
  | indent b _ => b
  | abandoned before head b _ _ => before.text ++ (head.text ++ b)

/-- Some head was abandoned. -/
def Abandons : Lead limit → Prop
  | indent .. => False
  | abandoned .. => True

/-- The lead with some more blanks. -/
def extend (s : Text) (blank : Blank s) : Lead limit → Lead limit
  | indent b h => indent (b ++ s) (blank_append_iff.2 ⟨h, blank⟩)
  | abandoned before head b h nonempty =>
    abandoned before head (b ++ s) (blank_append_iff.2 ⟨h, blank⟩)
      (List.append_ne_nil_of_left_ne_nil nonempty s)

theorem text_extend (lead : Lead limit) (blank : Blank s) :
    (lead.extend s blank).text = lead.text ++ s := by
  cases lead <;> simp [extend, text]

/-- What a lead leaves before the bracket in the line of the bracket. -/
def Fits : Lead limit → Text → Prop
  | indent .., column => Blank column
  | abandoned _ head b _ _, column => head.destination ++ b <:+ column

theorem Fits.extend {lead : Lead limit} (h : lead.Fits column) (blank : Blank s) :
    (lead.extend s blank).Fits (column ++ s) := by
  cases lead with
  | indent b b_blank => exact blank_append_iff.2 ⟨h, blank⟩
  | abandoned before head b b_blank nonempty =>
    have suffix : head.destination ++ b ++ s <:+ column ++ s := List.suffix_append_self_iff.2 h
    rwa [List.append_assoc] at suffix

/-- The line of the bracket is blank before it exactly if nothing was abandoned. -/
theorem Fits.blank_iff {lead : Lead limit} (h : lead.Fits column) :
    Blank column ↔ ¬ lead.Abandons := by
  cases lead with
  | indent b b_blank => exact iff_of_true h id
  | abandoned before head b b_blank nonempty =>
    refine iff_of_false (fun blank => ?_) (not_not_intro trivial)
    obtain ⟨rest, rfl⟩ := h
    simp only [blank_append_iff] at blank
    exact head.destination_ne_nil (blank.2.1.eq_nil_of_solid head.solid_destination)

end Lead

/-- The place of an opening bracket and what comes before it. -/
structure Opening (limit : Nat) where
  spot : Spot
  lead : Lead limit
  text_eq : spot.text = lead.text
  fits : lead.Fits spot.column

/-! ### Blocks -/

/-- A definition in the lines that it takes. -/
structure Block (limit : Nat) where
  opening : Opening limit
  layout : Layout limit
  /-- The end of the last line. -/
  finish : Spot
  opens : (opening.spot.extend ['[']).Before finish
  whole : finish.text = opening.lead.text ++ layout.text

namespace Block

/-- The lines that a definition takes. -/
def lines (block : Block limit) : List Text := block.finish.lines ++ [block.finish.column]

/-- The text of these lines. -/
def text (block : Block limit) : Text := block.opening.lead.text ++ block.layout.text

/-- The definition of a block. -/
def definition (block : Block limit) : Definition := block.layout.definition

theorem terminate_lines (block : Block limit) :
    terminate block.lines = block.text ++ ['\n'] := by
  rw [text, ← block.whole, ← Spot.text_nextLine, Spot.text]
  exact (List.append_nil _).symm

theorem joinLines_lines (block : Block limit) : joinLines block.lines = block.text := by
  have same : terminate block.lines = terminate [block.text] := by
    rw [terminate_lines, terminate_cons, terminate_nil]
  rw [joinLines_eq_of_terminate_eq same]
  exact List.append_nil _

theorem terminate_flatMap_lines (blocks : List (Block limit)) :
    terminate (blocks.flatMap lines) = terminate (blocks.map text) := by
  induction blocks with
  | nil => rfl
  | cons block blocks ih =>
    rw [List.flatMap_cons, terminate_append, terminate_lines, ih, List.map_cons, terminate_cons,
      List.append_assoc]
    rfl

/-- The opening bracket stands in one of the lines. -/
theorem exists_line (block : Block limit) :
    ∃ rest more, block.lines =
      block.opening.spot.lines ++ (block.opening.spot.column ++ '[' :: rest) :: more := by
  obtain ⟨rest, more, eq⟩ := block.opens.exists_line
  refine ⟨rest, more, eq.trans ?_⟩
  simp [Spot.extend]

end Block

end LinkDefinitions
