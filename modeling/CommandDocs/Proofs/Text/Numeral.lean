import CommandDocs.Text.Basic
import Mathlib.Algebra.Group.Nat.Defs

/-!
# Decimal numerals

A numeral is a nonempty run of digits that denotes the number it was written for, and
it begins with a zero only for the number zero.
-/

namespace CommandDocs.Text

/-- Digits and nothing else. -/
def IsNumeral (t : Text) : Prop := ∀ c ∈ t, c.isDigit = true

/-- Two runs of digits make one. -/
theorem IsNumeral.append {s t : Text} (hs : s.IsNumeral) (ht : t.IsNumeral) :
    (s ++ t).IsNumeral := by
  intro c hc
  rcases List.mem_append.mp hc with h | h
  · exact hs c h
  · exact ht c h

/-- Zeros are digits. -/
theorem isNumeral_zeros (n : Nat) : IsNumeral (List.replicate n (.scalar '0')) := by
  intro c hc
  rw [List.eq_of_mem_replicate hc]
  rfl

/-- A numeral consists of digits. -/
theorem isNumeral_ofNat (n : Nat) : IsNumeral (ofNat n) := by
  intro c hc
  obtain ⟨d, hd, rfl⟩ := List.mem_map.mp hc
  exact Nat.isDigit_of_mem_toDigits (by decide) (by decide) hd

/-- A numeral has a digit. -/
theorem ofNat_ne_nil (n : Nat) : ofNat n ≠ [] := by
  simp [ofNat]

/-- Reading on from a number multiplies it by a power of ten. -/
theorem toNat_foldl (t : Text) (n : Nat) :
    t.foldl (fun n c => 10 * n + (c.value - 48)) n = n * 10 ^ t.length + toNat t := by
  induction t generalizing n with
  | nil => simp [toNat]
  | cons c t ih =>
    rw [toNat, List.foldl_cons, List.foldl_cons, ih, ih (10 * 0 + _), List.length_cons,
      Nat.pow_succ]
    simp only [Nat.mul_zero, Nat.zero_add, Nat.add_mul, Nat.add_assoc]
    rw [Nat.mul_comm 10 n, Nat.mul_assoc, Nat.mul_comm 10]

/-- The number of one run of digits behind another. -/
theorem toNat_append (s t : Text) : toNat (s ++ t) = toNat s * 10 ^ t.length + toNat t := by
  rw [toNat, List.foldl_append, toNat_foldl]
  rfl

/-- A run of digits denotes less than the power of ten that has one digit more. -/
theorem toNat_lt {t : Text} (ht : t.IsNumeral) : toNat t < 10 ^ t.length := by
  induction t with
  | nil => exact Nat.one_pos
  | cons c t ih =>
    have htail := ih fun d hd => ht d (List.mem_cons_of_mem _ hd)
    have hdigit : toNat [c] ≤ 9 := by
      have hc := ht c (List.mem_cons_self ..)
      cases c with
      | scalar c =>
        have hbounds : 48 ≤ c.toNat ∧ c.toNat ≤ 57 := Char.isDigit_iff_toNat.mp hc
        have hvalue : toNat [.scalar c] = 10 * 0 + (c.toNat - 48) := rfl
        omega
      | surrogate k => cases hc
    calc toNat (c :: t) = toNat [c] * 10 ^ t.length + toNat t := toNat_append [c] t
      _ < toNat [c] * 10 ^ t.length + 10 ^ t.length := Nat.add_lt_add_left htail _
      _ = (toNat [c] + 1) * 10 ^ t.length := by rw [Nat.succ_mul]
      _ ≤ 10 * 10 ^ t.length := Nat.mul_le_mul_right _ (by omega)
      _ = 10 ^ (c :: t).length := by rw [List.length_cons, Nat.pow_succ, Nat.mul_comm]

/-- Zeros denote zero. -/
theorem toNat_zeros (n : Nat) : toNat (List.replicate n (.scalar '0')) = 0 := by
  induction n with
  | zero => rfl
  | succ n ih =>
    rw [List.replicate_succ, ← List.singleton_append, toNat_append, ih, Nat.add_zero]
    exact Nat.zero_mul _

/-- A numeral denotes its number. -/
theorem toNat_ofNat (n : Nat) : toNat (ofNat n) = n := by
  rw [toNat, ofNat, List.foldl_map]
  exact Nat.ofDigitChars_ten_toDigits

/-- Numerals of a number other than zero do not begin with a zero. -/
theorem head?_ofNat {n : Nat} (hn : n ≠ 0) : (ofNat n).head? ≠ some (.scalar '0') := by
  induction n using Nat.strongRecOn with
  | ind n ih =>
    by_cases hsmall : n < 10
    · have hdigit : ∀ k < 10, k ≠ 0 → Nat.digitChar k ≠ '0' := by decide
      rw [ofNat, Nat.toDigits_of_lt_base hsmall]
      simpa using hdigit n hsmall hn
    · obtain ⟨c, tail, hc⟩ := List.exists_cons_of_ne_nil (ofNat_ne_nil (n / 10))
      have hhead := ih (n / 10) (by omega) (by omega)
      have hsplit : ofNat n = ofNat (n / 10) ++ [.scalar (n % 10).digitChar] := by
        rw [ofNat, Nat.toDigits_of_base_le (by decide) (by omega), List.map_append]
        rfl
      rw [hc] at hhead
      rw [hsplit, hc]
      exact hhead

/-- A number below a power of ten has at most that many digits. -/
theorem length_ofNat_le {n k : Nat} (hk : 0 < k) : (ofNat n).length ≤ k ↔ n < 10 ^ k := by
  rw [ofNat, List.length_map]
  exact Nat.length_toDigits_le_iff (by decide) hk

/-- Padding a numeral keeps it a numeral. -/
theorem isNumeral_ofNatPadded (width n : Nat) : IsNumeral (ofNatPadded width n) :=
  (isNumeral_zeros _).append (isNumeral_ofNat n)

/-- Padding a numeral keeps its number. -/
theorem toNat_ofNatPadded (width n : Nat) : toNat (ofNatPadded width n) = n := by
  rw [ofNatPadded, toNat_append, toNat_zeros, toNat_ofNat, Nat.zero_mul, Nat.zero_add]

/-- A padded numeral has a digit. -/
theorem ofNatPadded_ne_nil (width n : Nat) : ofNatPadded width n ≠ [] := by
  simp [ofNatPadded, ofNat_ne_nil]

end CommandDocs.Text
