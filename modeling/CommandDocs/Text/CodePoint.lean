/-!
# Code points and text

A text is a list of code points. Besides the Unicode scalar values it can hold
single surrogates: a JSON file may name one by its escape, and such a value is
carried from place to place until some step has to write it as UTF-8. Lengths,
positions and the order of texts all count code points.
-/

namespace CommandDocs

/-- One position of a text. -/
inductive CodePoint where
  /-- A Unicode scalar value. -/
  | scalar (c : Char)
  /-- The surrogate `0xD800 + k`, which has no UTF-8 form. -/
  | surrogate (k : Fin 2048)
  deriving DecidableEq, Inhabited

namespace CodePoint

/-- The number of the code point. -/
def value : CodePoint → Nat
  | scalar c => c.toNat
  | surrogate k => 0xD800 + k.val

/-- The code point of a number; a number past the last one stands for U+0000. -/
def ofValue (n : Nat) : CodePoint :=
  if h : 0xD800 ≤ n ∧ n < 0xE000 then surrogate ⟨n - 0xD800, by omega⟩
  else scalar (Char.ofNat n)

instance : Coe Char CodePoint := ⟨scalar⟩

/-- Surrogates are the only code points that no byte sequence decodes to. -/
def isSurrogate : CodePoint → Bool
  | scalar _ => false
  | surrogate _ => true

/-- One of the ASCII digits `0` to `9`. -/
def isDigit : CodePoint → Bool
  | scalar c => c.isDigit
  | surrogate _ => false

/-- One of the ASCII letters. -/
def isLetter : CodePoint → Bool
  | scalar c => c.isAlpha
  | surrogate _ => false

end CodePoint

/-- A sequence of code points. -/
abbrev Text := List CodePoint

namespace Text

/-- The text of a string literal. -/
def ofString (s : String) : Text := s.toList.map CodePoint.scalar

instance : Coe String Text := ⟨ofString⟩

end Text

end CommandDocs
