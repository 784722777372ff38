import CommandDocs.Number.Shortest
import CommandDocs.Text.Basic

/-!
# Notation of numbers

How a binary number is written: its shortest decimal, positionally for ordinary
magnitudes and with an exponent otherwise, so that it is always recognised as a
number with a fractional part.
-/

namespace CommandDocs

/-- The decisions of a notation that the digits leave open. -/
structure NumberNotation where
  /-- Leading digits of this power of ten and above are written positionally. -/
  leastPositional : Int
  /-- Leading digits below this power of ten are written positionally. -/
  exponentialFrom : Int
  /-- At least this many digits are written in an exponent. -/
  exponentWidth : Nat
  /-- The word for a value that is not a number. -/
  nan : Text
  /-- The word for infinity, to which a minus sign is added. -/
  infinity : Text

namespace NumberNotation

/-- Magnitudes from `10 ^ -4` up to but not including `10 ^ 16` are positional,
and an exponent has a sign and two digits. -/
def plain : NumberNotation := ⟨-4, 16, 2, "nan", "inf"⟩

/-- As the plain notation, with the words that a JSON reader knows. -/
def json : NumberNotation := { plain with nan := "NaN", infinity := "Infinity" }

/-- Lay out a decimal. -/
def layout (f : NumberNotation) (d : Decimal) : Text :=
  let digits := Text.ofNat d.digits
  let point := (digits.length : Int) + d.exponent
  let zeros (n : Int) : Text := List.replicate n.toNat (.scalar '0')
  if f.leastPositional < point && point ≤ f.exponentialFrom then
    if 0 ≤ d.exponent then digits ++ zeros d.exponent ++ ".0"
    else if 0 < point then digits.take point.toNat ++ "." ++ digits.drop point.toNat
    else "0." ++ zeros (-point) ++ digits
  else
    let fraction : Text := if digits.length = 1 then [] else "." ++ digits.drop 1
    let power := point - 1
    let sign : Text := if power < 0 then "-" else "+"
    digits.take 1 ++ fraction ++ "e" ++ sign ++ Text.ofNatPadded f.exponentWidth power.natAbs

/-- Write a number. -/
def write (f : NumberNotation) : Binary64 → Text
  | .nan => f.nan
  | .infinite negative => if negative then "-" ++ f.infinity else f.infinity
  | .finite negative mantissa exponent _ =>
    let magnitude : Text :=
      if mantissa = 0 then "0.0" else f.layout (Decimal.shortest mantissa exponent)
    if negative then "-" ++ magnitude else magnitude

end NumberNotation

end CommandDocs
