import LinkDefinitions.Entity.Reference
import Mathlib.Data.List.Basic

/-!
# The names in the table

Every name of the table has the shape of a name in a reference (`isName_of_lookup`), so none is out
of reach. The table holds its names as strings, and so their bytes are checked, of which a name has
one for each character.
-/

namespace LinkDefinitions.Entity

variable {name : Text} {value : Text}

/-- The bytes of a string. -/
def bytes (s : String) : List UInt8 := s.toByteArray.data.toList

/-- The character whose code point is a byte. -/
def charOfByte (b : UInt8) : Char := Char.ofNat b.toNat

theorem bytes_ofList (t : Text) : bytes (String.ofList t) = t.flatMap String.utf8EncodeChar := by
  unfold bytes
  rw [String.toByteArray_ofList]
  simp [List.utf8Encode]

/-- A character with a small byte among those that it is encoded with is this byte. -/
theorem utf8EncodeChar_of_small {c : Char} (h : ∀ b ∈ String.utf8EncodeChar c, b.toNat < 0x80) :
    (String.utf8EncodeChar c).map charOfByte = [c] := by
  by_cases single : c.val.toNat ≤ 0x7f
  · have small : (UInt8.ofNat c.val.toNat).toNat = c.toNat :=
      Nat.mod_eq_of_lt (Nat.lt_of_le_of_lt single (by decide))
    unfold String.utf8EncodeChar
    rw [if_pos single, List.map_singleton, charOfByte, small, Char.ofNat_toNat]
  -- The first byte of several is not small.
  · unfold String.utf8EncodeChar at h
    rw [if_neg single] at h
    have far {n : Nat} (above : 0x80 ≤ n) (below : n < 0x100) :
        ¬ (UInt8.ofNat n).toNat < 0x80 := by
      rw [UInt8.toNat_ofNat']
      omega
    split at h
    · exact absurd (h _ List.mem_cons_self) (far (by omega) (by omega))
    · split at h
      · exact absurd (h _ List.mem_cons_self) (far (by omega) (by omega))
      · exact absurd (h _ List.mem_cons_self) (far (by omega) (by omega))

/-- A text all of whose bytes are small has one for each character. -/
theorem map_charOfByte {t : Text} (h : ∀ b ∈ t.flatMap String.utf8EncodeChar, b.toNat < 0x80) :
    (t.flatMap String.utf8EncodeChar).map charOfByte = t := by
  induction t with
  | nil => rfl
  | cons c t ih =>
    simp only [List.flatMap_cons, List.forall_mem_append] at h
    rw [List.flatMap_cons, List.map_append, utf8EncodeChar_of_small h.1, ih h.2]
    rfl

/-- The bytes of a name are those of letters and digits, in the shape of a name. -/
def isNameBytes (bs : List UInt8) : Bool :=
  bs.all (fun b => b.toNat < 0x80) && Reference.isName (bs.map charOfByte)

theorem table_isNameBytes : (table.all fun entry => isNameBytes (bytes entry.1)) = true := by
  decide +kernel

theorem isName_of_lookup (h : lookup name = some value) : Reference.isName name = true := by
  obtain ⟨codes, found, -⟩ := Option.map_eq_some_iff.1 h
  obtain ⟨before, after, split, -⟩ := List.lookup_eq_some_iff.1 found
  have mem : (String.ofList name, codes) ∈ table := by
    rw [split]
    simp
  have shape := List.all_eq_true.1 table_isNameBytes _ mem
  simp only [isNameBytes, bytes_ofList, Bool.and_eq_true, List.all_eq_true,
    decide_eq_true_eq] at shape
  rw [← map_charOfByte shape.1]
  exact shape.2

end LinkDefinitions.Entity
