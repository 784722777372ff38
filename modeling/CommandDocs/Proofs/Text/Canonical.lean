import CommandDocs.Text.Canonical

/-!
# Canonical texts

No code point before U+00C0 has a decomposition, none before U+0300 is a mark, and none before
U+0300 is the second one of a composite. A text of the first kind is therefore canonical as it
stands.
-/

namespace CommandDocs

namespace CodePoint

variable {c d : CodePoint}

/-- The marks begin at U+0300. -/
theorem le_of_mem_combiningClasses :
    CanonicalTable.combiningClasses.toList.all (fun r => 0x300 ≤ r.1) = true := by
  decide +kernel

/-- The code points with a decomposition begin at U+00C0. -/
theorem le_of_mem_decompositions :
    CanonicalTable.decompositions.toList.all (fun entry => 0xC0 ≤ entry.1) = true := by
  decide +kernel

/-- Composites are made with code points from U+0300 on. -/
theorem le_of_mem_composites :
    CanonicalTable.composites.toList.all (fun entry => 0x300 ≤ entry.2.1) = true := by
  decide +kernel

/-- A code point before the marks is a starter. -/
theorem combiningClass_of_lt (h : c.value < 0x300) : c.combiningClass = 0 := by
  have hnone : (CanonicalTable.combiningClasses.find? fun r =>
      r.1 ≤ c.value && c.value ≤ r.2.1) = none := by
    rw [← Array.find?_toList, List.find?_eq_none]
    intro r hr
    have hmark := of_decide_eq_true (List.all_eq_true.mp le_of_mem_combiningClasses r hr)
    simp only [Bool.and_eq_true, decide_eq_true_eq]
    omega
  unfold combiningClass
  rw [hnone]

/-- A code point before U+00C0 stays as it is. -/
theorem decompose_of_lt (h : c.value < 0xC0) : c.decompose = [c] := by
  have hnone : (CanonicalTable.decompositions.find? (·.1 == c.value)) = none := by
    rw [← Array.find?_toList, List.find?_eq_none]
    intro entry hentry
    have hlow := of_decide_eq_true (List.all_eq_true.mp le_of_mem_decompositions entry hentry)
    simp only [beq_iff_eq]
    omega
  have hhangul : decide (hangulSyllable ≤ c.value) = false := by
    refine decide_eq_false ?_
    rw [hangulSyllable]
    omega
  rw [decompose]
  simp only [hhangul, hnone, Bool.false_and, Bool.false_eq_true, if_false]

/-- With a code point before the marks nothing is composed. -/
theorem compose?_of_lt (h : d.value < 0x300) : c.compose? d = none := by
  have hnone : (CanonicalTable.composites.find? fun entry =>
      entry.1 == c.value && entry.2.1 == d.value) = none := by
    rw [← Array.find?_toList, List.find?_eq_none]
    intro entry hentry
    have hlow := of_decide_eq_true (List.all_eq_true.mp le_of_mem_composites entry hentry)
    simp only [Bool.and_eq_true, beq_iff_eq]
    omega
  have hvowel : decide (hangulVowel ≤ d.value) = false := by
    refine decide_eq_false ?_
    rw [hangulVowel]
    omega
  have htrail : decide (hangulTrail < d.value) = false := by
    refine decide_eq_false ?_
    rw [hangulTrail]
    omega
  rw [compose?]
  simp only [hvowel, htrail, hnone, Bool.and_false, Bool.false_and, Bool.false_eq_true, if_false,
    Option.map_none]

end CodePoint

namespace Text

variable {t : Text}

/-- Starters are in canonical order. -/
theorem orderMarks_of_lt (h : ∀ c ∈ t, c.value < 0x300) : orderMarks t = t := by
  induction t with
  | nil => rfl
  | cons c rest ih =>
    rw [List.forall_mem_cons] at h
    rw [orderMarks, ih h.2]
    cases rest with
    | nil => rfl
    | cons d rest =>
      have hd := CodePoint.combiningClass_of_lt (h.2 d (List.mem_cons_self ..))
      simp only [insertMark, hd, bne_self_eq_false, Bool.and_false, Bool.false_eq_true, if_false]

/-- Before the marks nothing is composed. -/
theorem composeBehind_of_lt (starter : CodePoint) (h : ∀ c ∈ t, c.value < 0x300) :
    composeBehind starter [] t = starter :: t := by
  induction t generalizing starter with
  | nil => rfl
  | cons c rest ih =>
    rw [List.forall_mem_cons] at h
    unfold composeBehind
    rw [CodePoint.compose?_of_lt h.1, CodePoint.combiningClass_of_lt h.1, ih c h.2]
    rfl

/-- A text of code points before U+00C0 is canonical. -/
theorem normalize_of_lt (h : ∀ c ∈ t, c.value < 0xC0) : t.normalize = t := by
  have hlow : ∀ c ∈ t, c.value < 0x300 := fun c hc => Nat.lt_trans (h c hc) (by omega)
  have hdecompose : t.flatMap CodePoint.decompose = t := by
    induction t with
    | nil => rfl
    | cons c rest ih =>
      rw [List.forall_mem_cons] at h hlow
      rw [List.flatMap_cons, CodePoint.decompose_of_lt h.1, ih h.2 hlow.2, List.singleton_append]
  rw [normalize, hdecompose, orderMarks_of_lt hlow]
  cases t with
  | nil => rfl
  | cons c rest => exact composeBehind_of_lt c (List.forall_mem_cons.mp hlow).2

end Text

end CommandDocs
