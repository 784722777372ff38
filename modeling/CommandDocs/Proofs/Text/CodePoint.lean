import CommandDocs.Text.CodePoint

/-!
# Code points and their numbers

A code point is determined by its number, and every number below the end of the code points names
one.
-/

namespace CommandDocs

/-- The number of a code point names it. -/
theorem CodePoint.ofValue_value (c : CodePoint) : ofValue c.value = c := by
  cases c with
  | scalar c =>
    have hscalar : ¬(0xD800 ≤ c.toNat ∧ c.toNat < 0xE000) := by
      have hvalid : c.toNat < 0xD800 ∨ 0xDFFF < c.toNat ∧ c.toNat < 0x110000 := c.valid
      omega
    rw [value, ofValue, dif_neg hscalar, Char.ofNat_toNat]
  | surrogate k =>
    have hsurrogate : 0xD800 ≤ 0xD800 + k.val ∧ 0xD800 + k.val < 0xE000 := by omega
    rw [value, ofValue, dif_pos hsurrogate]
    simp

/-- A number below the end of the code points is that of the code point it names. -/
theorem CodePoint.value_ofValue_of_lt {n : Nat} (h : n < 0x110000) : (ofValue n).value = n := by
  rw [ofValue]
  split
  · simp only [value]
    omega
  · rename_i hscalar
    have hvalid : n.isValidChar := by
      rw [Nat.isValidChar]
      omega
    rw [value, Char.ofNat, dif_pos hvalid]
    rfl

/-- A code point that is named by a number has this number, or it is U+0000. -/
theorem CodePoint.value_ofValue (n : Nat) : (ofValue n).value = n ∨ (ofValue n).value = 0 := by
  by_cases hn : n < 0x110000
  · exact Or.inl (value_ofValue_of_lt hn)
  · have hscalar : ¬(0xD800 ≤ n ∧ n < 0xE000) := by omega
    have hinvalid : ¬n.isValidChar := by
      rw [Nat.isValidChar]
      omega
    rw [ofValue, dif_neg hscalar, value, Char.ofNat, dif_neg hinvalid]
    exact Or.inr rfl

/-- A text that holds no surrogate. -/
def Text.IsUnicode (t : Text) : Prop := ∀ c ∈ t, c.isSurrogate = false

instance (t : Text) : Decidable t.IsUnicode :=
  inferInstanceAs (Decidable (∀ c ∈ t, c.isSurrogate = false))

/-- Every code point of the text satisfies the condition. -/
def Text.Satisfies (P : CodePoint → Prop) (t : Text) : Prop := ∀ c ∈ t, P c

/-- Two texts satisfy a condition together exactly when each of them does. -/
@[simp]
theorem Text.satisfies_append {P : CodePoint → Prop} {s t : Text} :
    Text.Satisfies P (s ++ t) ↔ s.Satisfies P ∧ t.Satisfies P := List.forall_mem_append

/-- The empty text is Unicode. -/
@[simp]
theorem Text.isUnicode_nil : IsUnicode [] := fun _ hc => nomatch hc

/-- Two texts are Unicode together exactly when each of them is. -/
@[simp]
theorem Text.isUnicode_append {s t : Text} : IsUnicode (s ++ t) ↔ s.IsUnicode ∧ t.IsUnicode :=
  List.forall_mem_append

/-- The text of a literal is Unicode. -/
@[simp]
theorem Text.isUnicode_ofString (s : String) : IsUnicode (ofString s) := by
  intro c hc
  obtain ⟨char, -, rfl⟩ := List.mem_map.mp hc
  rfl

end CommandDocs
