import CommandDocs.Proofs.Text.CodePoint
import CommandDocs.Text.Basic

/-!
# The order of texts

Texts are ordered by the numbers of their code points, and any two of them can be compared.
What is sorted by distinct keys therefore comes in one order, however it stood before.
-/

namespace CommandDocs

/-- Code points with the same number are the same. -/
theorem CodePoint.eq_of_value_eq {x y : CodePoint} (h : x.value = y.value) : x = y := by
  rw [← ofValue_value x, h, ofValue_value]

namespace Text

variable {a b c : Text}

/-- The order at the first code points, or behind equal ones. -/
theorem le_cons_cons {x y : CodePoint} :
    le (x :: a) (y :: b) = true ↔ x.value < y.value ∨ x.value = y.value ∧ le a b = true := by
  rw [le, Bool.or_eq_true, Bool.and_eq_true, decide_eq_true_iff, beq_iff_eq]

/-- What precedes a predecessor precedes. -/
theorem le_trans (hab : le a b = true) (hbc : le b c = true) : le a c = true := by
  induction a generalizing b c with
  | nil => rw [le]
  | cons x a ih =>
    cases b with
    | nil => cases hab
    | cons y b =>
      cases c with
      | nil => cases hbc
      | cons z c =>
        rw [le_cons_cons] at hab hbc ⊢
        rcases hab with hxy | ⟨hxy, hab⟩
        · exact Or.inl (by omega)
        · rcases hbc with hyz | ⟨hyz, hbc⟩
          · exact Or.inl (by omega)
          · exact Or.inr ⟨hxy.trans hyz, ih hab hbc⟩

/-- Of two texts one precedes the other. -/
theorem le_total (a b : Text) : (le a b || le b a) = true := by
  rw [Bool.or_eq_true]
  induction a generalizing b with
  | nil => exact Or.inl (by rw [le])
  | cons x a ih =>
    cases b with
    | nil => exact Or.inr (by rw [le])
    | cons y b =>
      rw [le_cons_cons, le_cons_cons]
      rcases Nat.lt_trichotomy x.value y.value with hlt | heq | hgt
      · exact Or.inl (Or.inl hlt)
      · exact (ih b).imp (fun h => Or.inr ⟨heq, h⟩) (fun h => Or.inr ⟨heq.symm, h⟩)
      · exact Or.inr (Or.inl hgt)

/-- Texts that precede each other are the same. -/
theorem le_antisymm (hab : le a b = true) (hba : le b a = true) : a = b := by
  induction a generalizing b with
  | nil =>
    cases b with
    | nil => rfl
    | cons y b => cases hba
  | cons x a ih =>
    cases b with
    | nil => cases hab
    | cons y b =>
      rw [le_cons_cons] at hab hba
      rcases hab with hxy | ⟨hxy, hab⟩
      · omega
      · rcases hba with hyx | ⟨-, hba⟩
        · omega
        · rw [CodePoint.eq_of_value_eq hxy, ih hab hba]

variable {α : Type} {key : α → Text} {xs ys : List α}

/-- Sorting puts the keys in order. -/
theorem pairwise_sortOn (key : α → Text) (xs : List α) :
    (sortOn key xs).Pairwise fun x y => le (key x) (key y) = true := by
  have htrans (x y z : α) (hxy : le (key x) (key y) = true) (hyz : le (key y) (key z) = true) :
      le (key x) (key z) = true := le_trans hxy hyz
  have htotal (x y : α) : (le (key x) (key y) || le (key y) (key x)) = true := le_total _ _
  exact List.pairwise_mergeSort htrans htotal xs

/-- Sorting loses nothing and adds nothing. -/
theorem sortOn_perm (key : α → Text) (xs : List α) : (sortOn key xs).Perm xs :=
  List.mergeSort_perm xs _

/-- What is told apart by its keys is sorted in one order. -/
theorem sortOn_eq_of_perm (h : xs.Perm ys) (hkey : ∀ x ∈ xs, ∀ y ∈ xs, key x = key y → x = y) :
    sortOn key xs = sortOn key ys := by
  refine List.Perm.eq_of_pairwise ?_ (pairwise_sortOn key xs) (pairwise_sortOn key ys)
    ((sortOn_perm key xs).trans (h.trans (sortOn_perm key ys).symm))
  intro x y hx hy hxy hyx
  exact hkey x ((sortOn_perm key xs).mem_iff.mp hx) y
    (h.mem_iff.mpr ((sortOn_perm key ys).mem_iff.mp hy)) (le_antisymm hxy hyx)

end Text

end CommandDocs
