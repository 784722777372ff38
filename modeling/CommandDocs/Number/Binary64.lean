/-!
# Binary floating point numbers

Numbers of the 64-bit binary format as exact values. An operation computes its
result as a fraction and rounds once, to the nearest number of the format and to
the even mantissa when two are equally near. Natural numbers and integers do all
of the arithmetic.
-/

namespace CommandDocs

-- powers are those of the core library, whatever else is imported
attribute [local instance (1100)] instPowNat

/-- The pairs that name a finite magnitude `mantissa * 2 ^ exponent` in the only
way the format allows: 53 bits of mantissa, all of them in use above the least
exponent. -/
def IsCanonical (mantissa : Nat) (exponent : Int) : Prop :=
  mantissa < 2 ^ (53 : Nat) ∧ -1074 ≤ exponent ∧ exponent ≤ 971 ∧
    (2 ^ (52 : Nat) ≤ mantissa ∨ exponent = -1074)

instance (mantissa : Nat) (exponent : Int) : Decidable (IsCanonical mantissa exponent) := by
  unfold IsCanonical; infer_instance

/-- A number of the 64-bit binary format. All that is not a number is one value. -/
inductive Binary64 where
  /-- Not a number. -/
  | nan
  /-- Infinity with its sign. -/
  | infinite (negative : Bool)
  /-- A finite number with its sign; zero has two. -/
  | finite (negative : Bool) (mantissa : Nat) (exponent : Int)
      (canonical : IsCanonical mantissa exponent)
  deriving DecidableEq

namespace Binary64

/-- The quotient rounded to the nearest integer, a half to the even one. -/
def roundQuotient (n d : Nat) : Nat :=
  let q := n / d
  let twice := 2 * (n % d)
  if twice < d then q
  else if d < twice then q + 1
  else if q % 2 = 0 then q else q + 1

/-- The integer part of the binary logarithm of a positive fraction. -/
def logOfRatio (n d : Nat) : Int :=
  let k := (n.log2 : Int) - d.log2
  if d * 2 ^ k.toNat ≤ n * 2 ^ (-k).toNat then k else k - 1

/-- The zero of a sign. -/
def zero (negative : Bool) : Binary64 :=
  finite negative 0 (-1074) (by unfold IsCanonical; omega)

/-- The number nearest to `± n / d`. A magnitude past the largest finite number
becomes infinite. -/
def ofRatio (negative : Bool) (n d : Nat) : Binary64 :=
  if n = 0 then zero negative
  else
    let e := max (-1074) (logOfRatio n d - 52)
    let m := roundQuotient (n * 2 ^ (-e).toNat) (d * 2 ^ e.toNat)
    let (mantissa, exponent) := if m = 2 ^ (53 : Nat) then (2 ^ (52 : Nat), e + 1) else (m, e)
    if h : IsCanonical mantissa exponent then finite negative mantissa exponent h
    else infinite negative

/-- The number nearest to `± digits * 10 ^ exponent`. Exponents so large or so
small that the outcome is plain are decided without computing the power. -/
def ofDecimal (negative : Bool) (digits : Nat) (exponent : Int) : Binary64 :=
  if digits = 0 then zero negative
  else if 310 < exponent then infinite negative
  else if exponent + digits.log2 < -1100 then zero negative
  else ofRatio negative (digits * 10 ^ exponent.toNat) (10 ^ (-exponent).toNat)

/-- Neither infinite nor undefined. -/
def isFinite : Binary64 → Bool
  | finite .. => true
  | _ => false

end Binary64

end CommandDocs
