import CommandDocs.Number.Binary64

/-!
# Shortest decimals

The decimal that stands for a binary number: the fewest digits that read back as
that number, and of these the nearest to its exact value. The search runs through
grids of one, two, … digits and tests the two neighbours of the value on each.
-/

namespace CommandDocs

/-- The magnitude `digits * 10 ^ exponent`. -/
structure Decimal where
  /-- All digits as one natural number. -/
  digits : Nat
  /-- The power of ten that counts the last digit. -/
  exponent : Int
  deriving DecidableEq

namespace Decimal

-- powers are those of the core library, whatever else is imported
attribute [local instance (1100)] instPowNat

/-- Move trailing zeros of the digits into the exponent. -/
def dropZeros (d : Decimal) : Decimal :=
  if h : d.digits ≠ 0 ∧ d.digits % 10 = 0 then dropZeros ⟨d.digits / 10, d.exponent + 1⟩ else d
termination_by d.digits
decreasing_by omega

/-- Is the fraction less than the power of ten? -/
def ratioLtPow (n d : Nat) (k : Int) : Bool := n * 10 ^ (-k).toNat < d * 10 ^ k.toNat

/-- The least power of ten above a positive fraction. The binary logarithm places
it up to a few steps. -/
def scale (n d : Nat) : Int :=
  let guess := Int.fdiv (Binary64.logOfRatio n d * 30103) 100000
  ([guess, guess + 1, guess + 2].find? (ratioLtPow n d)).getD (guess + 3)

/-- Of the two neighbours of the fraction on the grid of multiples of
`10 ^ exponent`, the nearest that satisfies `p`; the even one when both are
equally near. -/
def nearestNeighbour? (p : Decimal → Bool) (n d : Nat) (exponent : Int) : Option Decimal :=
  let num := n * 10 ^ (-exponent).toNat
  let den := d * 10 ^ exponent.toNat
  let below : Decimal := ⟨num / den, exponent⟩
  let above : Decimal := ⟨num / den + 1, exponent⟩
  match p below, p above with
  | true, true =>
    some (if Binary64.roundQuotient num den = below.digits then below else above)
  | true, false => some below
  | false, true => some above
  | false, false => none

/-- The exact value of `mantissa * 2 ^ exponent`. -/
def exact (mantissa : Nat) (exponent : Int) : Decimal :=
  if 0 ≤ exponent then ⟨mantissa * 2 ^ exponent.toNat, 0⟩
  else ⟨mantissa * 5 ^ (-exponent).toNat, exponent⟩

/-- The shortest decimal for a positive magnitude `mantissa * 2 ^ exponent`. Of
the grids with one to seventeen digits the first with a neighbour that reads back
is taken; the exact value stands in when there is none. -/
def shortest (mantissa : Nat) (exponent : Int) : Decimal :=
  let n := mantissa * 2 ^ exponent.toNat
  let d := 2 ^ (-exponent).toNat
  let target := Binary64.ofRatio false n d
  let readsBack (c : Decimal) : Bool := Binary64.ofDecimal false c.digits c.exponent == target
  let k := scale n d
  let found := (List.range 17).findSome? fun (i : Nat) =>
    nearestNeighbour? readsBack n d (k - i - 1)
  (found.getD (exact mantissa exponent)).dropZeros

end Decimal

end CommandDocs
