import LinkDefinitions.CaseFolding.Table
import LinkDefinitions.Text.Basic

/-!
# Case folding

Full case folding, character by character: letters that differ only in case have the same folding.
-/

namespace LinkDefinitions.CaseFolding

/-- The code points that a run folds. -/
def Run.covers (r : Run) (n : Nat) : Bool :=
  r.first ≤ n && n ≤ r.last && (n - r.first) % r.stride == 0

/-- The folding of a character. -/
def fold (c : Char) : Text :=
  match expansions.lookup c.toNat with
  | some image => image.map Char.ofNat
  | none =>
    match runs.find? (·.covers c.toNat) with
    | some r => [Char.ofNat (r.image + (c.toNat - r.first))]
    | none => [c]

/-- The folding of a text. -/
def foldText (t : Text) : Text := t.flatMap fold

@[simp] theorem foldText_cons (c : Char) (t : Text) : foldText (c :: t) = fold c ++ foldText t :=
  rfl

end LinkDefinitions.CaseFolding
