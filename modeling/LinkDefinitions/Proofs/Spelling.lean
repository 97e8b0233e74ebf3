import LinkDefinitions.Proofs.Entity
import LinkDefinitions.Proofs.Literal
import LinkDefinitions.Proofs.Numeral

/-!
# Spellings

A character of a literal text can be written in several ways (`Spells`): as it is, behind a
backslash, by its code in decimal or in hexadecimal digits, or by one of its names. Each character
may be written in its own way, and whatever stands next to it the literal text is the same
(`unescape_spelled`).
-/

namespace LinkDefinitions

variable {c : Char} {w ds name body value : Text} {most : Nat}

/-- The ways to write a character in a raw text. A code may have zeros in front of it. -/
inductive Spells (c : Char) : Text → Prop
  | plain (backslash : c ≠ '\\') (ampersand : c ≠ '&') : Spells c [c]
  | escaped (mark : isPunctuation c = true) : Spells c ['\\', c]
  | decimal (zeros : Nat) (nonzero : c ≠ '\x00')
      (short : zeros + (Nat.toDigits 10 c.toNat).length ≤ 7) :
      Spells c ("&#".toList ++ (List.replicate zeros '0' ++ Nat.toDigits 10 c.toNat) ++ [';'])
  | hexadecimal (x : Char) (mark : x = 'x' ∨ x = 'X') (zeros : Nat) (ds : Text)
      (nonzero : c ≠ '\x00') (same : ds.map Char.toLower = Nat.toDigits 16 c.toNat)
      (short : zeros + ds.length ≤ 6) :
      Spells c ("&#".toList ++ x :: (List.replicate zeros '0' ++ ds) ++ [';'])
  | named (name : Text) (known : Entity.lookup name = some [c]) :
      Spells c ('&' :: name ++ [';'])

/-! ### References by their form -/

namespace Reference

theorem isCode_of_length {digit : Char → Bool} (digits : ∀ d ∈ ds, digit d = true)
    (nonempty : ds ≠ []) (short : ds.length ≤ most) : isCode digit most ds = true := by
  have pos := List.length_pos_iff.2 nonempty
  simp [isCode, List.all_eq_true.2 digits, pos, short]

theorem ofBody?_decimal (code : isCode isDigit maxDecimalDigits ds = true) :
    ofBody? ('#' :: ds) = some (numeric (numeralValue 10 ds)) := by
  have digits := all_of_isCode code
  unfold ofBody?
  split
  · next other eq =>
    obtain rfl := (List.cons.inj eq).2
    exact absurd (digits 'x' List.mem_cons_self) (by decide)
  · next other eq =>
    obtain rfl := (List.cons.inj eq).2
    exact absurd (digits 'X' List.mem_cons_self) (by decide)
  · next other _ _ eq =>
    obtain rfl := (List.cons.inj eq).2
    exact if_pos code
  · next other => exact absurd rfl (other ds)

theorem ofBody?_hexadecimal {x : Char} (mark : x = 'x' ∨ x = 'X')
    (code : isCode isHexDigit maxHexDigits ds = true) :
    ofBody? ('#' :: x :: ds) = some (numeric (numeralValue 16 ds)) := by
  rcases mark with rfl | rfl <;> exact if_pos code

theorem ofBody?_named (shape : isName name = true) : ofBody? name = some (named name) := by
  have letter (t : Text) : isName ('#' :: t) = false := rfl
  unfold ofBody?
  split
  · next t => exact absurd shape (by rw [letter]; decide)
  · next t => exact absurd shape (by rw [letter]; decide)
  · next t _ _ => exact absurd shape (by rw [letter]; decide)
  · exact if_pos shape

theorem charOfCode_toNat (nonzero : c ≠ '\x00') : charOfCode c.toNat = c := by
  have code : c.toNat ≠ 0 := by
    intro zero
    exact nonzero (Char.toNat_inj.1 zero)
  have valid : c.toNat.isValidChar := c.valid
  rw [charOfCode, if_neg (not_or.2 ⟨code, not_not_intro valid⟩), Char.ofNat_toNat]

end Reference

namespace Literal

open Reference

/-- A reference that stands for something is read where it is written. -/
theorem Token.stands_reference {r : Reference} (form : ofBody? body = some r)
    (known : r.value? = some value) :
    (Token.reference body).Stands ∧ (Token.reference body).value = value := by
  constructor
  · show (ofBody? body).isSome = true
    rw [form]
    rfl
  · show ((ofBody? body).bind value?).getD _ = value
    rw [form, Option.bind_some, known]
    rfl

end Literal

open Literal Reference

/-- Every spelling of a character is a token that stands for it. -/
theorem Spells.exists_token (h : Spells c w) :
    ∃ token : Token, token.Stands ∧ token.source = w ∧ token.value = [c] := by
  cases h with
  | plain backslash ampersand => exact ⟨.plain c, ⟨backslash, ampersand⟩, rfl, rfl⟩
  | escaped mark => exact ⟨.escaped c, mark, rfl, rfl⟩
  | decimal zeros nonzero short =>
    have code : isCode isDigit maxDecimalDigits
        (List.replicate zeros '0' ++ Nat.toDigits 10 c.toNat) = true := by
      refine isCode_of_length (fun d mem => ?_) (by simp) ?_
      · rcases List.mem_append.1 mem with zero | mem
        · rw [List.eq_of_mem_replicate zero]
          decide
        · exact isDigit_of_mem_toDigits _ d mem
      · rw [List.length_append, List.length_replicate]
        exact short
    have known : (numeric (numeralValue 10
        (List.replicate zeros '0' ++ Nat.toDigits 10 c.toNat))).value? = some [c] := by
      rw [numeralValue_zeros, numeralValue_toDigits (by decide) (by decide), value?,
        charOfCode_toNat nonzero]
    obtain ⟨stands, value⟩ := Token.stands_reference (ofBody?_decimal code) known
    exact ⟨_, stands, rfl, value⟩
  | hexadecimal x mark zeros ds nonzero same short =>
    have lower : ∀ d ∈ ds, isHexDigit d.toLower = true := fun d mem =>
      isHexDigit_of_mem_toDigits c.toNat _ (same ▸ List.mem_map_of_mem mem)
    obtain ⟨digits, value⟩ := numeral_of_toLower lower
    have code : isCode isHexDigit maxHexDigits (List.replicate zeros '0' ++ ds) = true := by
      refine isCode_of_length (fun d mem => ?_) ?_ ?_
      · rcases List.mem_append.1 mem with zero | mem
        · rw [List.eq_of_mem_replicate zero]
          decide
        · exact digits d mem
      · rintro empty
        obtain ⟨-, rfl⟩ := List.append_eq_nil_iff.1 empty
        exact Nat.toDigits_ne_nil same.symm
      · rw [List.length_append, List.length_replicate]
        exact short
    have known : (numeric (numeralValue 16 (List.replicate zeros '0' ++ ds))).value? =
        some [c] := by
      rw [numeralValue_zeros, ← value, same, numeralValue_toDigits (by decide) (by decide),
        value?, charOfCode_toNat nonzero]
    obtain ⟨stands, value⟩ := Token.stands_reference (ofBody?_hexadecimal mark code) known
    exact ⟨_, stands, rfl, value⟩
  | named name known =>
    have shape := Entity.isName_of_lookup known
    obtain ⟨stands, value⟩ := Token.stands_reference (ofBody?_named shape) known
    exact ⟨_, stands, rfl, value⟩

theorem exists_tokens_of_spelled {s : Text} {spelled : List Text}
    (h : List.Forall₂ Spells s spelled) :
    ∃ tokens : List Token, (∀ token ∈ tokens, token.Stands) ∧
      tokens.flatMap Token.source = spelled.flatten ∧ tokens.flatMap Token.value = s := by
  induction h with
  | nil => exact ⟨[], by simp, rfl, rfl⟩
  | cons first _ ih =>
    obtain ⟨token, stands, source, value⟩ := first.exists_token
    obtain ⟨tokens, stand, sources, values⟩ := ih
    refine ⟨token :: tokens, List.forall_mem_cons.2 ⟨stands, stand⟩, ?_, ?_⟩
    · rw [List.flatMap_cons, source, sources, List.flatten_cons]
    · rw [List.flatMap_cons, value, values, List.singleton_append]

/-- **Spelling.** Whichever way each character of a text is written, the raw text has it as its
literal text. -/
theorem unescape_spelled {s : Text} {spelled : List Text} (h : List.Forall₂ Spells s spelled) :
    unescape spelled.flatten = s := by
  obtain ⟨tokens, stand, sources, values⟩ := exists_tokens_of_spelled h
  rw [← sources, unescape_sources stand, values]

/-- A text that looks like a reference, with a code, a name or an escape for most of its
characters. -/
theorem unescape_spelled_reference :
    List.Forall₂ Spells "&lt;\\*".toList
        ["&#0038;".toList, "&#X06c;".toList, "t".toList, ";".toList, "&bsol;".toList,
          "\\*".toList] ∧
      unescape "&#0038;&#X06c;t;&bsol;\\*".toList = "&lt;\\*".toList := by
  have spells : List.Forall₂ Spells "&lt;\\*".toList
      ["&#0038;".toList, "&#X06c;".toList, "t".toList, ";".toList, "&bsol;".toList,
        "\\*".toList] := by
    refine .cons (.decimal 2 (by decide) (by decide)) (.cons ?_ (.cons ?_ (.cons ?_ (.cons ?_
      (.cons ?_ .nil)))))
    · exact .hexadecimal 'X' (.inr rfl) 1 "6c".toList (by decide) (by decide) (by decide)
    · exact .plain (by decide) (by decide)
    · exact .plain (by decide) (by decide)
    · exact .named "bsol".toList (by decide +kernel)
    · exact .escaped (by decide)
  exact ⟨spells, unescape_spelled spells⟩

end LinkDefinitions
