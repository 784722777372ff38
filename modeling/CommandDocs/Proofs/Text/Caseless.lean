import CommandDocs.Proofs.Text.CodePoint
import CommandDocs.Text.Lowercase
import Mathlib.Data.List.Forall2

/-!
# Texts without their case

Two texts differ in case only when they are the same without it: every code point is replaced by
its lower case form, and the long s U+017F by an s. An ASCII character then stands for itself and
for its capital. Only the letter k stands for something else as well, the Kelvin sign, and only
the letter s for the long s.
-/

namespace CommandDocs

namespace CodePoint

variable {c d : CodePoint} {letter : Char}

/-- The code point without its case: its lower case form, and an s for the long s U+017F. -/
def caseless (c : CodePoint) : Text := if c.value = 0x17F then [.scalar 's'] else c.lower

/-- A code point has one code point without its case. Only the capital I with a dot has two. -/
theorem caseless_cases (c : CodePoint) :
    (∃ d, c.caseless = [d]) ∨ c.caseless = [.scalar 'i', .ofValue 0x307] := by
  rw [caseless]
  split
  · exact Or.inl ⟨_, rfl⟩
  · rw [lower]
    split
    · exact Or.inr rfl
    · dsimp only
      split
      · exact Or.inl ⟨_, rfl⟩
      · exact Or.inl ⟨_, rfl⟩

/-- Where the lower case form is one code point, it is the code point itself, or the table has the
distance between the two. -/
theorem eq_or_exists_shift_of_lower (h : c.lower = [d]) :
    c = d ∨ ∃ s ∈ CaseTable.shifts.toList,
      s.first ≤ c.value ∧ c.value ≤ s.last ∧ d = ofValue (c.value + s.shift).toNat := by
  rw [lower] at h
  split at h
  · cases h
  · dsimp only at h
    split at h
    · exact Or.inl (List.singleton_inj.mp h)
    · rename_i s hs
      have hcovers := Array.find?_some hs
      simp only [Bool.and_eq_true, decide_eq_true_eq] at hcovers
      exact Or.inr ⟨s, Array.mem_toList_iff.mpr (Array.mem_of_find?_eq_some hs), hcovers.1.1,
        hcovers.1.2, (List.singleton_inj.mp h).symm⟩

/-- Only the ASCII capitals and the Kelvin sign U+212A have lower case forms in ASCII. -/
theorem ascii_of_shift : ∀ s ∈ CaseTable.shifts.toList,
    s.first = 0x41 ∧ s.last = 0x5A ∧ s.shift = 32 ∨ 0x80 ≤ s.first ∧
      (s.first = 0x212A ∧ s.last = 0x212A ∧ s.shift = 0x6B - 0x212A ∨
        0x80 ≤ s.first + s.shift) := by
  decide +kernel

/-- The ASCII capitals, named by their numbers. -/
theorem ofValue_eq_toUpper : ∀ n < 0x5B, 0x41 ≤ n →
    ofValue n = .scalar (Char.ofNat (n + 32)).toUpper := by
  decide

/-- The ASCII characters in lower case, named by their numbers. -/
theorem ofValue_eq_toLower : ∀ n < 0x80,
    ofValue (if 0x41 ≤ n ∧ n ≤ 0x5A then n + 32 else n) = .scalar (Char.ofNat n).toLower := by
  decide +kernel

/-- The lower case form of an ASCII character is the one that ASCII has for it. -/
theorem lower_ascii (h : letter.toNat < 0x80) :
    lower (.scalar letter) = [.scalar letter.toLower] := by
  have hvalue : (scalar letter).value = letter.toNat := rfl
  have hform := ofValue_eq_toLower _ h
  rw [Char.ofNat_toNat] at hform
  rw [lower, hvalue, if_neg (by omega), ← hform]
  dsimp only
  split
  · rename_i hnone
    have hcapitals : CaseTable.shifts.toList.head? = some ⟨0x41, 0x5A, 1, 32⟩ := rfl
    have hmem := Array.mem_toList_iff.mp (List.mem_of_mem_head? hcapitals)
    have hnot := Array.find?_eq_none.mp hnone _ hmem
    simp only [Nat.mod_one, beq_self_eq_true, Bool.and_true, Bool.and_eq_true,
      decide_eq_true_eq] at hnot
    rw [if_neg hnot, ← hvalue, ofValue_value]
  · rename_i s hs
    have hcovers := Array.find?_some hs
    simp only [Bool.and_eq_true, decide_eq_true_eq] at hcovers
    have hmem := Array.mem_toList_iff.mpr (Array.mem_of_find?_eq_some hs)
    rcases ascii_of_shift s hmem with ⟨h41, h5A, h32⟩ | ⟨hbeyond, -⟩
    · rw [if_pos (by omega), h32]
      rfl
    · omega

/-- An ASCII character other than k is the lower case form of itself or of its capital. -/
theorem eq_or_eq_toUpper_of_lower (hlow : 0 < letter.toNat) (hhigh : letter.toNat < 0x80)
    (hk : letter ≠ 'k') (h : c.lower = [.scalar letter]) :
    c = .scalar letter ∨ c = .scalar letter.toUpper := by
  rcases eq_or_exists_shift_of_lower h with hself | ⟨s, hs, hfirst, hlast, hform⟩
  · exact Or.inl hself
  have hvalue : letter.toNat = (c.value + s.shift).toNat := by
    have hnumber : letter.toNat = (ofValue (c.value + s.shift).toNat).value := congrArg value hform
    rcases value_ofValue (c.value + s.shift).toNat with hsome | hzero <;> omega
  rcases ascii_of_shift s hs with ⟨h41, h5A, h32⟩ | ⟨-, ⟨h212A, h212A', h6B⟩ | hbeyond⟩
  · have hcapital : c.value + 32 = letter.toNat := by omega
    right
    rw [← ofValue_value c, ofValue_eq_toUpper _ (by omega) (by omega), hcapital, Char.ofNat_toNat]
  · have hkelvin : letter.toNat = 'k'.toNat := by
      rw [show 'k'.toNat = 0x6B from rfl]
      omega
    exact absurd (Char.toNat_inj.mp hkelvin) hk
  · omega

/-- Without its case an ASCII character is in lower case. -/
theorem caseless_ascii (h : letter.toNat < 0x80) :
    caseless (.scalar letter) = [.scalar letter.toLower] := by
  have hvalue : (scalar letter).value = letter.toNat := rfl
  rw [caseless, hvalue, if_neg (by omega), lower_ascii h]

/-- An ASCII character other than k stands for itself and for its capital, and s for the long s,
too. -/
theorem cases_of_caseless (hlow : 0 < letter.toNat) (hhigh : letter.toNat < 0x80)
    (hk : letter ≠ 'k') (h : c.caseless = [.scalar letter]) :
    c = .scalar letter ∨ c = .scalar letter.toUpper ∨ letter = 's' ∧ c = .scalar 'ſ' := by
  rw [caseless] at h
  split at h
  · rename_i hlong
    have hs : letter = 's' := by simpa using h.symm
    rw [← ofValue_value c, hlong]
    exact Or.inr (Or.inr ⟨hs, rfl⟩)
  · rcases eq_or_eq_toUpper_of_lower hlow hhigh hk h with hself | hcapital
    · exact Or.inl hself
    · exact Or.inr (Or.inl hcapital)

end CodePoint

namespace Text

/-- The text without its case. -/
def caseless (t : Text) : Text := t.flatMap CodePoint.caseless

/-- Without its case an ASCII text is in lower case. -/
theorem caseless_ofString {s : String} (h : s.toList.all fun letter => letter.toNat < 0x80) :
    caseless (ofString s) = (s.toList.map Char.toLower).map CodePoint.scalar := by
  simp only [List.all_eq_true, decide_eq_true_eq] at h
  rw [caseless, ofString, List.flatMap_map, List.map_map, ← List.flatMap_pure_eq_map]
  exact List.flatMap_congr fun letter hletter => CodePoint.caseless_ascii (h letter hletter)

/-- A text is made of given code points without its case when each of them comes from one code
point. No i must be among them, since a capital I with a dot also begins with it. -/
theorem caseless_eq_iff {t letters : Text} (hi : .scalar 'i' ∉ letters) :
    t.caseless = letters ↔ List.Forall₂ (fun c letter => c.caseless = [letter]) t letters := by
  induction t generalizing letters with
  | nil =>
    rw [List.forall₂_nil_left_iff, caseless, List.flatMap_nil]
    exact eq_comm
  | cons c rest ih =>
    rw [List.forall₂_cons_left_iff, caseless, List.flatMap_cons, ← caseless]
    rcases c.caseless_cases with ⟨d, hd⟩ | htwo
    · rw [hd, List.singleton_append]
      constructor
      · rintro rfl
        have hrest : .scalar 'i' ∉ caseless rest := fun h => hi (List.mem_cons_of_mem _ h)
        exact ⟨d, caseless rest, rfl, (ih hrest).mp rfl, rfl⟩
      · rintro ⟨letter, letters, hletter, hletters, rfl⟩
        have hrest : .scalar 'i' ∉ letters := fun h => hi (List.mem_cons_of_mem _ h)
        rw [(ih hrest).mpr hletters, List.singleton_inj.mp hletter]
    · rw [htwo]
      refine iff_of_false (fun h => hi ?_) ?_
      · rw [← h]
        exact List.mem_cons_self ..
      · rintro ⟨letter, letters, hletter, -⟩
        simp at hletter

end Text

end CommandDocs
