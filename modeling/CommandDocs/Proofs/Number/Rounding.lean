import CommandDocs.Number.Binary64
import Mathlib.Data.Int.Log
import Mathlib.Data.Rat.Floor
import Mathlib.Algebra.Order.Field.Power
import Mathlib.Algebra.Order.Floor.Semifield
import Mathlib.Tactic.FieldSimp
import Mathlib.Tactic.Linarith
import Mathlib.Tactic.NormNum
import Mathlib.Tactic.Positivity

/-!
# Rounding as a function of the value

Rounding works on a fraction or on a decimal, but its outcome depends on the rational
number alone: both are the nearest number to that rational. A number of the format is
the nearest one to itself.
-/

namespace CommandDocs.Binary64

/-- The integer nearest to a nonnegative rational, a half to the even one. -/
def roundRational (q : ℚ) : ℕ :=
  let floor := ⌊q⌋₊
  if 2 * (q - floor) < 1 then floor
  else if 1 < 2 * (q - floor) then floor + 1
  else if floor % 2 = 0 then floor else floor + 1

/-- The number of the format nearest to `± q` for a nonnegative rational `q`. -/
def nearest (negative : Bool) (q : ℚ) : Binary64 :=
  if q = 0 then zero negative
  else
    let e := max (-1074) (Int.log 2 q - 52)
    let m := roundRational (q / 2 ^ e)
    let (mantissa, exponent) := if m = 2 ^ 53 then (2 ^ 52, e + 1) else (m, e)
    if h : IsCanonical mantissa exponent then finite negative mantissa exponent h
    else infinite negative

/-- A fraction is rounded as the rational it stands for. -/
theorem roundQuotient_eq (n : ℕ) {d : ℕ} (hd : 0 < d) :
    roundQuotient n d = roundRational ((n : ℚ) / d) := by
  have hd' : (0 : ℚ) < d := by exact_mod_cast hd
  have hfloor : ⌊(n : ℚ) / d⌋₊ = n / d := Nat.floor_div_eq_div n d
  have hsplit : (n : ℚ) = d * (n / d : ℕ) + (n % d : ℕ) := by
    exact_mod_cast (Nat.div_add_mod n d).symm
  have hpart : (n : ℚ) / d - (n / d : ℕ) = (n % d : ℕ) / d := by
    rw [eq_div_iff hd'.ne', sub_mul, div_mul_cancel₀ _ hd'.ne']
    linarith
  have hbelow : 2 * (((n % d : ℕ) : ℚ) / d) < 1 ↔ 2 * (n % d) < d := by
    rw [← mul_div_assoc, div_lt_one hd']
    exact_mod_cast Iff.rfl
  have habove : 1 < 2 * (((n % d : ℕ) : ℚ) / d) ↔ d < 2 * (n % d) := by
    rw [← mul_div_assoc, one_lt_div hd']
    exact_mod_cast Iff.rfl
  simp only [roundQuotient, roundRational, hfloor, hpart, hbelow, habove]

/-- An integer rounds to itself. -/
theorem roundRational_natCast (n : ℕ) : roundRational n = n := by
  simp [roundRational]

/-- Less than a half rounds to nothing. -/
theorem roundRational_of_lt {q : ℚ} (h : q < 1 / 2) : roundRational q = 0 := by
  have hfloor : ⌊q⌋₊ = 0 := Nat.floor_eq_zero.mpr (by linarith)
  rw [roundRational, hfloor]
  exact if_pos (by push_cast; linarith)

/-- A power of two with its sign moved to the other side of a comparison. -/
theorem mul_pow_le_iff (n : ℕ) {d : ℕ} (hd : 0 < d) (k : ℤ) :
    d * 2 ^ k.toNat ≤ n * 2 ^ (-k).toNat ↔ (2 : ℚ) ^ k ≤ (n : ℚ) / d := by
  have hd' : (0 : ℚ) < d := by exact_mod_cast hd
  rw [le_div_iff₀ hd', ← Nat.cast_le (α := ℚ)]
  push_cast
  rcases le_total 0 k with hk | hk
  · obtain ⟨i, rfl⟩ := Int.eq_ofNat_of_zero_le hk
    simp [mul_comm]
  · obtain ⟨i, hi⟩ := Int.eq_ofNat_of_zero_le (neg_nonneg.mpr hk)
    obtain rfl : k = -(i : ℤ) := by omega
    have hpow : (0 : ℚ) < 2 ^ i := by positivity
    simp only [neg_neg, Int.toNat_natCast, Int.toNat_neg_natCast, pow_zero, mul_one, zpow_neg,
      zpow_natCast]
    rw [inv_mul_le_iff₀ hpow, mul_comm]

/-- The logarithm of a fraction is the one of the rational it stands for. -/
theorem logOfRatio_eq {n d : ℕ} (hn : 0 < n) (hd : 0 < d) :
    logOfRatio n d = Int.log 2 ((n : ℚ) / d) := by
  have hn' : (0 : ℚ) < n := by exact_mod_cast hn
  have hd' : (0 : ℚ) < d := by exact_mod_cast hd
  have hq : (0 : ℚ) < n / d := by positivity
  have hnlow : (2 : ℚ) ^ n.log2 ≤ n := by exact_mod_cast Nat.log2_self_le hn.ne'
  have hnhigh : (n : ℚ) < 2 ^ (n.log2 + 1) := by exact_mod_cast Nat.lt_log2_self
  have hdlow : (2 : ℚ) ^ d.log2 ≤ d := by exact_mod_cast Nat.log2_self_le hd.ne'
  have hdhigh : (d : ℚ) < 2 ^ (d.log2 + 1) := by exact_mod_cast Nat.lt_log2_self
  -- the difference of the two logarithms is right or one too much
  have hlow : (n.log2 : ℤ) - d.log2 - 1 ≤ Int.log 2 ((n : ℚ) / d) := by
    rw [← Int.zpow_le_iff_le_log one_lt_two hq, le_div_iff₀ hd']
    calc (2 : ℚ) ^ ((n.log2 : ℤ) - d.log2 - 1) * d
        ≤ (2 : ℚ) ^ ((n.log2 : ℤ) - d.log2 - 1) * 2 ^ (d.log2 + 1) := by gcongr
      _ = 2 ^ n.log2 := by
        rw [← zpow_natCast, ← zpow_add₀ two_ne_zero, ← zpow_natCast]
        congr 1
        push_cast
        omega
      _ ≤ n := hnlow
  have hhigh : Int.log 2 ((n : ℚ) / d) < (n.log2 : ℤ) - d.log2 + 1 := by
    rw [← Int.lt_zpow_iff_log_lt one_lt_two hq, div_lt_iff₀ hd']
    calc (n : ℚ) < 2 ^ (n.log2 + 1) := hnhigh
      _ = (2 : ℚ) ^ ((n.log2 : ℤ) - d.log2 + 1) * 2 ^ d.log2 := by
        rw [← zpow_natCast, ← zpow_natCast, ← zpow_add₀ two_ne_zero]
        congr 1
        push_cast
        omega
      _ ≤ (2 : ℚ) ^ ((n.log2 : ℤ) - d.log2 + 1) * d := by gcongr
  simp only [logOfRatio, mul_pow_le_iff n hd]
  by_cases h : (2 : ℚ) ^ ((n.log2 : ℤ) - d.log2) ≤ (n : ℚ) / d
  · rw [if_pos h]
    have hlog : (n.log2 : ℤ) - d.log2 ≤ Int.log 2 ((n : ℚ) / d) :=
      (Int.zpow_le_iff_le_log one_lt_two hq).mp (by push_cast; exact h)
    omega
  · rw [if_neg h]
    have hlog : Int.log 2 ((n : ℚ) / d) < (n.log2 : ℤ) - d.log2 :=
      (Int.lt_zpow_iff_log_lt one_lt_two hq).mp (by push_cast; exact not_le.mp h)
    omega

/-- A fraction with its denominator divided by a power of two of either sign. -/
theorem cast_div_zpow (n d : ℕ) (e : ℤ) :
    ((n * 2 ^ (-e).toNat : ℕ) : ℚ) / ((d * 2 ^ e.toNat : ℕ) : ℚ) = (n : ℚ) / d / 2 ^ e := by
  push_cast
  rcases le_total 0 e with he | he
  · obtain ⟨i, rfl⟩ := Int.eq_ofNat_of_zero_le he
    simp [div_div]
  · obtain ⟨i, hi⟩ := Int.eq_ofNat_of_zero_le (neg_nonneg.mpr he)
    obtain rfl : e = -(i : ℤ) := by omega
    simp [div_eq_mul_inv, mul_right_comm]

/-- A fraction is rounded to the number nearest to its value. -/
theorem ofRatio_eq_nearest (negative : Bool) (n : ℕ) {d : ℕ} (hd : 0 < d) :
    ofRatio negative n d = nearest negative ((n : ℚ) / d) := by
  have hd' : (0 : ℚ) < d := by exact_mod_cast hd
  by_cases hn : n = 0
  · simp [ofRatio, nearest, hn]
  · have hq : (n : ℚ) / d ≠ 0 := by
      have hn' : (n : ℚ) ≠ 0 := by exact_mod_cast hn
      exact div_ne_zero hn' hd'.ne'
    have hden : ∀ e : ℤ, 0 < d * 2 ^ e.toNat := fun e => by positivity
    simp only [ofRatio, nearest, if_neg hn, if_neg hq,
      logOfRatio_eq (Nat.pos_of_ne_zero hn) hd, roundQuotient_eq _ (hden _), cast_div_zpow]

/-- A number of the format is the nearest one to its own magnitude. -/
theorem nearest_of_canonical (negative : Bool) {m : ℕ} {e : ℤ} (h : IsCanonical m e)
    (hm : m ≠ 0) : nearest negative (m * 2 ^ e) = finite negative m e h := by
  obtain ⟨hbound, hleast, -, hfull⟩ := id h
  have hm' : (0 : ℚ) < m := by exact_mod_cast Nat.pos_of_ne_zero hm
  have hpow : (0 : ℚ) < 2 ^ e := by positivity
  have hq : (0 : ℚ) < m * 2 ^ e := mul_pos hm' hpow
  have hhigh : Int.log 2 ((m : ℚ) * 2 ^ e) < 53 + e := by
    rw [← Int.lt_zpow_iff_log_lt one_lt_two hq]
    push_cast
    rw [zpow_add₀ two_ne_zero]
    gcongr
    exact_mod_cast hbound
  have hlow : 2 ^ 52 ≤ m → 52 + e ≤ Int.log 2 ((m : ℚ) * 2 ^ e) := by
    intro hlarge
    rw [← Int.zpow_le_iff_le_log one_lt_two hq]
    push_cast
    rw [zpow_add₀ two_ne_zero]
    gcongr
    exact_mod_cast hlarge
  have hexponent : max (-1074) (Int.log 2 ((m : ℚ) * 2 ^ e) - 52) = e := by
    rcases hfull with hlarge | rfl
    · have := hlow hlarge
      omega
    · omega
  have hmantissa : roundRational ((m : ℚ) * 2 ^ e / 2 ^ e) = m := by
    rw [mul_div_cancel_right₀ _ hpow.ne', roundRational_natCast]
  have hcarry : m ≠ 2 ^ 53 := hbound.ne
  simp only [nearest, if_neg hq.ne', hexponent, hmantissa, if_neg hcarry, dif_pos h]

/-- Past the largest finite number everything is infinite. -/
theorem nearest_of_large (negative : Bool) {q : ℚ} (hq : 0 < q) (h : 1024 ≤ Int.log 2 q) :
    nearest negative q = infinite negative := by
  simp only [nearest, if_neg hq.ne']
  generalize roundRational _ = m
  by_cases hcarry : m = 2 ^ 53
  · simp only [hcarry, if_true]
    exact dif_neg fun hc => by
      obtain ⟨-, -, hmost, -⟩ := hc
      omega
  · simp only [hcarry, if_false]
    exact dif_neg fun hc => by
      obtain ⟨-, -, hmost, -⟩ := hc
      omega

/-- Below half of the least positive number everything is zero. -/
theorem nearest_of_small (negative : Bool) {q : ℚ} (hq : 0 < q) (h : Int.log 2 q < -1075) :
    nearest negative q = zero negative := by
  have hexponent : max (-1074) (Int.log 2 q - 52) = -1074 := by omega
  have hhalf : (-1074 : ℤ) = 1 + -1075 := by norm_num
  have hmantissa : roundRational (q / 2 ^ (-1074 : ℤ)) = 0 := by
    apply roundRational_of_lt
    rw [div_lt_iff₀ (by positivity)]
    calc q < 2 ^ (-1075 : ℤ) := by
          simpa only [Nat.cast_ofNat] using (Int.lt_zpow_iff_log_lt one_lt_two hq).mpr h
      _ = 1 / 2 * 2 ^ (-1074 : ℤ) := by
        rw [hhalf, zpow_add₀ two_ne_zero, zpow_one, ← mul_assoc]
        norm_num
  have hcanonical : IsCanonical 0 (-1074) := by unfold IsCanonical; omega
  have hcarry : (0 : ℕ) ≠ 2 ^ 53 := by norm_num
  simp only [nearest, if_neg hq.ne', hexponent, hmantissa, if_neg hcarry, dif_pos hcanonical, zero]

/-- The magnitude of a decimal. -/
theorem cast_decimal (digits : ℕ) (exponent : ℤ) :
    ((digits * 10 ^ exponent.toNat : ℕ) : ℚ) / ((10 ^ (-exponent).toNat : ℕ) : ℚ) =
      digits * 10 ^ exponent := by
  push_cast
  rcases le_total 0 exponent with he | he
  · obtain ⟨i, rfl⟩ := Int.eq_ofNat_of_zero_le he
    simp
  · obtain ⟨i, hi⟩ := Int.eq_ofNat_of_zero_le (neg_nonneg.mpr he)
    obtain rfl : exponent = -(i : ℤ) := by omega
    simp [div_eq_mul_inv]

/-- The 1024th power of two is less than the 310th power of ten. -/
theorem two_pow_le_ten_pow : (2 : ℚ) ^ (93 * 11 + 1) ≤ 10 ^ (28 * 11 + 2) := by
  rw [pow_add, pow_mul, pow_add, pow_mul]
  gcongr <;> norm_num

/-- A decimal is rounded to the number nearest to its value. The outcomes that are decided
without the power are the right ones. -/
theorem ofDecimal_eq_nearest (negative : Bool) (digits : ℕ) (exponent : ℤ) :
    ofDecimal negative digits exponent = nearest negative (digits * 10 ^ exponent) := by
  by_cases hzero : digits = 0
  · simp [ofDecimal, nearest, hzero]
  have hpos : 0 < digits := Nat.pos_of_ne_zero hzero
  have hdigits : (1 : ℚ) ≤ digits := by exact_mod_cast hpos
  have hq : (0 : ℚ) < digits * 10 ^ exponent := mul_pos (by linarith) (by positivity)
  rw [ofDecimal, if_neg hzero]
  by_cases hlarge : 310 < exponent
  · have hlog : ((93 * 11 + 1 : ℕ) : ℤ) ≤ Int.log 2 ((digits : ℚ) * 10 ^ exponent) := by
      rw [← Int.zpow_le_iff_le_log one_lt_two hq, Nat.cast_ofNat, zpow_natCast]
      calc (2 : ℚ) ^ (93 * 11 + 1) ≤ 10 ^ (28 * 11 + 2) := two_pow_le_ten_pow
        _ = 1 * 10 ^ ((28 * 11 + 2 : ℕ) : ℤ) := by rw [one_mul, zpow_natCast]
        _ ≤ digits * 10 ^ exponent := by
          gcongr
          · norm_num
          · omega
    rw [if_pos hlarge, nearest_of_large negative hq (by omega)]
  rw [if_neg hlarge]
  by_cases hsmall : exponent + digits.log2 < -1100
  · rw [if_pos hsmall, nearest_of_small negative hq]
    rw [← Int.lt_zpow_iff_log_lt one_lt_two hq]
    have hhigh : (digits : ℚ) < 2 ^ ((digits.log2 : ℤ) + 1) := by
      exact_mod_cast Nat.lt_log2_self (n := digits)
    have hten : (10 : ℚ) ^ exponent ≤ 2 ^ exponent := by
      have hnonneg : 0 ≤ -exponent := by omega
      obtain ⟨i, hi⟩ := Int.eq_ofNat_of_zero_le hnonneg
      obtain rfl : exponent = -(i : ℤ) := by omega
      rw [zpow_neg, zpow_neg, zpow_natCast, zpow_natCast]
      gcongr
      norm_num
    calc (digits : ℚ) * 10 ^ exponent < 2 ^ ((digits.log2 : ℤ) + 1) * 10 ^ exponent := by
          gcongr
      _ ≤ 2 ^ ((digits.log2 : ℤ) + 1) * 2 ^ exponent := by gcongr
      _ = 2 ^ ((digits.log2 : ℤ) + 1 + exponent) := (zpow_add₀ two_ne_zero _ _).symm
      _ ≤ ((2 : ℕ) : ℚ) ^ (-1075 : ℤ) := by
        rw [Nat.cast_ofNat]
        exact zpow_le_zpow_right₀ one_le_two (by omega)
  · rw [if_neg hsmall, ofRatio_eq_nearest negative _ (by positivity), cast_decimal]

end CommandDocs.Binary64
