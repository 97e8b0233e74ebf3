import LinkDefinitions.Entity.Reference

/-!
# Literal texts

The raw text of a destination or a title may hold backslash escapes and character references. Its
literal text has each of them replaced by what it stands for, in one pass from left to right, so
that an escaped `&` never opens a reference and what a reference stands for is not read again.

`Literal.tokens` cuts a raw text into its escapes, references and single characters, and
`unescape` joins what they stand for.
-/

namespace LinkDefinitions

namespace Literal

/-- A unit of a raw text. -/
inductive Token
  /-- A character that stands for itself. -/
  | plain (c : Char)
  /-- A backslash and the punctuation character that it escapes. -/
  | escaped (c : Char)
  /-- A character reference with its body. -/
  | reference (body : Text)
  deriving DecidableEq, Repr

/-- The characters that a token is written with. -/
def Token.source : Token → Text
  | plain c => [c]
  | escaped c => ['\\', c]
  | reference body => '&' :: (body ++ [';'])

/-- What a token stands for. A reference to an unknown name stays as it is written. -/
def Token.value : Token → Text
  | plain c => [c]
  | escaped c => [c]
  | reference body => ((Reference.ofBody? body).bind Reference.value?).getD ('&' :: (body ++ [';']))

/-- The body of the reference whose `&` stands before the text, if there is one: a run of body
characters that ends at a `;` and has the form of a reference. -/
def referenceBody? (t : Text) : Option Text :=
  let body := t.takeWhile Reference.isBodyChar
  if (t.drop body.length).head? = some ';' ∧ (Reference.ofBody? body).isSome then some body
  else none

/-- The first token of a nonempty text. -/
def firstToken (c : Char) (t : Text) : Token :=
  if c = '\\' then
    match t with
    | d :: _ => if isPunctuation d then .escaped d else .plain c
    | [] => .plain c
  else if c = '&' then
    match referenceBody? t with
    | some body => .reference body
    | none => .plain c
  else .plain c

/-- The tokens of a text. -/
def tokens : Text → List Token
  | [] => []
  | c :: t =>
    let token := firstToken c t
    token :: tokens (t.drop (token.source.length - 1))
  termination_by t => t.length

end Literal

/-- The literal text of a raw text. -/
def unescape (raw : Text) : Text := (Literal.tokens raw).flatMap Literal.Token.value

example : unescape "a\\*b&amp;&#35;&#x1F600;&bogus;\\&amp;".toList =
    "a*b&#😀&bogus;&amp;".toList := by decide +kernel

end LinkDefinitions
