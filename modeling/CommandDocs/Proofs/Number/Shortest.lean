import CommandDocs.Number.Shortest
import CommandDocs.Proofs.Number.Rounding

/-!
# Shortest decimals read back

The decimal that stands for a number is read as that number again, whichever grid of
the search it comes from.
-/

namespace CommandDocs

namespace Decimal

/-- The rational that a decimal denotes. -/
def toRat (c : Decimal) : ℚ := c.digits * 10 ^ c.exponent

/-- Moving zeros into the exponent keeps the value. -/
theorem toRat_dropZeros (c : Decimal) : c.dropZeros.toRat = c.toRat := by
  induction c using dropZeros.induct with
  | case1 c h ih =>
    rw [dropZeros, dif_pos h, ih, toRat, toRat]
    have hwhole : c.digits = 10 * (c.digits / 10) := by omega
    have hdigits : (c.digits : ℚ) = 10 * (c.digits / 10 : ℕ) := by exact_mod_cast hwhole
    have hten : (10 : ℚ) ≠ 0 := by norm_num
    simp only [zpow_add₀ hten, zpow_one]
    rw [hdigits]
    ring
  | case2 c h => rw [dropZeros, dif_neg h]

/-- The exact decimal has the value of the number. -/
theorem toRat_exact (m : ℕ) (e : ℤ) : (exact m e).toRat = m * 2 ^ e := by
  by_cases he : 0 ≤ e
  · obtain ⟨i, rfl⟩ := Int.eq_ofNat_of_zero_le he
    simp [exact, toRat]
  · have hnonneg : 0 ≤ -e := by omega
    obtain ⟨i, hi⟩ := Int.eq_ofNat_of_zero_le hnonneg
    obtain rfl : e = -(i : ℤ) := by omega
    have hten : (10 : ℚ) = 5 * 2 := by norm_num
    rw [exact, if_neg he, toRat]
    simp only [neg_neg, Int.toNat_natCast, zpow_neg, zpow_natCast]
    push_cast
    rw [hten, mul_pow]
    field_simp

/-- A neighbour that is chosen passes the test. -/
theorem nearestNeighbour?_eq_some {p : Decimal → Bool} {n d : ℕ} {exponent : ℤ} {c : Decimal}
    (h : nearestNeighbour? p n d exponent = some c) : p c = true := by
  simp only [nearestNeighbour?] at h
  split at h
  · rename_i hbelow habove
    split at h
    · cases h
      exact hbelow
    · cases h
      exact habove
  · rename_i hbelow habove
    cases h
    exact hbelow
  · rename_i hbelow habove
    cases h
    exact habove
  · cases h

end Decimal

namespace Binary64

/-- The sign of the nearest number is the given one. -/
theorem nearest_congr_sign {q : ℚ} {m : ℕ} {e : ℤ} {h : IsCanonical m e} (negative : Bool)
    (hq : nearest false q = finite false m e h) : nearest negative q = finite negative m e h := by
  by_cases hzero : q = 0
  · rw [nearest, if_pos hzero, zero, finite.injEq] at hq
    rw [nearest, if_pos hzero, zero, finite.injEq]
    exact ⟨rfl, hq.2⟩
  · simp only [nearest, if_neg hzero] at hq ⊢
    generalize (if _ = 2 ^ 53 then _ else _ : ℕ × ℤ) = pair at hq ⊢
    by_cases hcanonical : IsCanonical pair.1 pair.2
    · rw [dif_pos hcanonical, finite.injEq] at hq
      rw [dif_pos hcanonical, finite.injEq]
      exact ⟨rfl, hq.2⟩
    · rw [dif_neg hcanonical] at hq
      cases hq

end Binary64

namespace Decimal

open Binary64

/-- The shortest decimal for a number rounds to it. -/
theorem nearest_shortest {m : ℕ} {e : ℤ} (h : IsCanonical m e) (hm : m ≠ 0) :
    nearest false (shortest m e).toRat = finite false m e h := by
  have htarget : ofRatio false (m * 2 ^ e.toNat) (2 ^ (-e).toNat) = finite false m e h := by
    rw [ofRatio_eq_nearest false _ (by positivity)]
    have hvalue := cast_div_zpow m 1 (-e)
    rw [neg_neg, one_mul] at hvalue
    rw [hvalue, Nat.cast_one, div_one, zpow_neg, div_inv_eq_mul]
    exact nearest_of_canonical false h hm
  simp only [shortest, toRat_dropZeros, htarget]
  cases hfound : (List.range 17).findSome? fun (i : ℕ) => nearestNeighbour?
      (fun c => ofDecimal false c.digits c.exponent == finite false m e h)
      (m * 2 ^ e.toNat) (2 ^ (-e).toNat)
      (scale (m * 2 ^ e.toNat) (2 ^ (-e).toNat) - i - 1) with
  | none =>
    rw [Option.getD_none, toRat_exact]
    exact nearest_of_canonical false h hm
  | some c =>
    obtain ⟨i, -, hi⟩ := List.exists_of_findSome?_eq_some hfound
    have hback : ofDecimal false c.digits c.exponent = finite false m e h :=
      eq_of_beq (nearestNeighbour?_eq_some hi)
    rw [ofDecimal_eq_nearest] at hback
    rw [Option.getD_some, toRat, hback]

/-- The shortest decimal for a number is read as the number, with either sign. -/
theorem ofDecimal_shortest (negative : Bool) {m : ℕ} {e : ℤ} (h : IsCanonical m e)
    (hm : m ≠ 0) : ofDecimal negative (shortest m e).digits (shortest m e).exponent =
      finite negative m e h := by
  rw [ofDecimal_eq_nearest]
  exact nearest_congr_sign negative (nearest_shortest h hm)

/-- The shortest decimal for a positive number is not zero. -/
theorem digits_shortest_ne_zero {m : ℕ} {e : ℤ} (h : IsCanonical m e) (hm : m ≠ 0) :
    (shortest m e).digits ≠ 0 := by
  intro hzero
  have hback := ofDecimal_shortest false h hm
  rw [ofDecimal, if_pos hzero, zero, finite.injEq] at hback
  exact hm hback.2.1.symm

end Decimal

end CommandDocs
