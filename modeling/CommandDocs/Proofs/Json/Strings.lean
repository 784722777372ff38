import CommandDocs.Json.Printer
import CommandDocs.Json.Reader
import CommandDocs.Proofs.Text.CodePoint

/-!
# Strings read back

The writer escapes what a string cannot hold, and the reader undoes every escape. The reader
joins two surrogates that are written by their numbers; the writer uses numbers for control
characters only, so every text is read as it was written.
-/

namespace CommandDocs.Json

/-- The four digits of a control character name it. -/
theorem hexCodePoint?_ofNatHex : ∀ n < 0x20,
    (match Text.ofNatHex 4 n with
      | [a, b, c, d] => hexCodePoint? a b c d
      | _ => none) = some (CodePoint.ofValue n) := by
  decide

/-- The code points that are escaped by a letter or by themselves. -/
def HasShortEscape (c : CodePoint) : Prop :=
  c = .scalar '\x22' ∨ c = .scalar '\\' ∨ c = .scalar '\n' ∨ c = .scalar '\r' ∨ c = .scalar '\t' ∨
    c = .scalar '\x0c' ∨ c = .scalar '\x08'

/-- Any other code point is escaped by its number when it is a control character, and stands
for itself otherwise. -/
theorem escape_of_not_hasShortEscape {c : CodePoint} (h : ¬HasShortEscape c) :
    escape c = if c.value < 0x20 then ("\\u" : Text) ++ Text.ofNatHex 4 c.value else [c] := by
  simp only [HasShortEscape, not_or] at h
  obtain ⟨hquote, hbackslash, hnewline, hreturn, htab, hfeed, hbackspace⟩ := h
  rw [escape, if_neg hquote, if_neg hbackslash, if_neg hnewline, if_neg hreturn, if_neg htab,
    if_neg hfeed, if_neg hbackspace]

/-- The number of a control character is read as that character. -/
theorem readCharacters_of_control {c : CodePoint} (hcontrol : c.value < 0x20) (rest : Text) :
    readCharacters (("\\u" : Text) ++ Text.ofNatHex 4 c.value ++ rest) =
      prepend ⟨c, true⟩ (readCharacters rest) := by
  have hdigits := hexCodePoint?_ofNatHex c.value hcontrol
  rw [CodePoint.ofValue_value] at hdigits
  generalize Text.ofNatHex 4 c.value = digits at hdigits ⊢
  split at hdigits
  · rename_i x y z w
    have hfront : ("\\u" : Text) ++ [x, y, z, w] ++ rest =
        .scalar '\\' :: .scalar 'u' :: x :: y :: z :: w :: rest := rfl
    rw [hfront, readCharacters, hdigits]
  · cases hdigits

/-- A code point that stands for itself is read as such. -/
theorem readCharacters_of_self {c : CodePoint} (hshort : ¬HasShortEscape c)
    (hcontrol : ¬c.value < 0x20) (rest : Text) :
    readCharacters (c :: rest) = prepend ⟨c, false⟩ (readCharacters rest) := by
  have hquote : c ≠ .scalar '\x22' := fun h => hshort (Or.inl h)
  have hbackslash : c ≠ .scalar '\\' := fun h => hshort (Or.inr (Or.inl h))
  rw [readCharacters.eq_def]
  split
  · rename_i h
    cases h
  · rename_i h
    cases h
    exact absurd rfl hquote
  · rename_i h
    cases h
    exact absurd rfl hbackslash
  · rename_i h
    cases h
    exact absurd rfl hbackslash
  · rename_i h
    cases h
    rw [if_neg hcontrol]

/-- An escape is read as the code point it stands for. Only a control character is read as one
that was written by its number. -/
theorem readCharacters_escape (c : CodePoint) : ∃ isNumbered,
    (isNumbered = true → c.value < 0x20) ∧
      ∀ rest, readCharacters (escape c ++ rest) =
        prepend ⟨c, isNumbered⟩ (readCharacters rest) := by
  by_cases hshort : HasShortEscape c
  · refine ⟨false, Bool.false_ne_true.elim, fun rest => ?_⟩
    rcases hshort with rfl | rfl | rfl | rfl | rfl | rfl | rfl <;> rfl
  rw [escape_of_not_hasShortEscape hshort]
  by_cases hcontrol : c.value < 0x20
  · rw [if_pos hcontrol]
    exact ⟨true, fun _ => hcontrol, readCharacters_of_control hcontrol⟩
  · rw [if_neg hcontrol]
    exact ⟨false, Bool.false_ne_true.elim, readCharacters_of_self hshort hcontrol⟩

/-- Escaped characters are read up to the closing quote, none of them as a surrogate that was
written by its number. -/
theorem readCharacters_flatMap_escape (t rest : Text) : ∃ characters : List Character,
    characters.map Character.codePoint = t ∧
      (∀ c ∈ characters, c.isNumbered = true → c.codePoint.value < 0x20) ∧
      readCharacters (t.flatMap escape ++ .scalar '\x22' :: rest) = .ok (characters, rest) := by
  induction t with
  | nil => exact ⟨[], rfl, fun _ h => absurd h List.not_mem_nil, rfl⟩
  | cons c t ih =>
    obtain ⟨characters, rfl, hnumbered, hread⟩ := ih
    obtain ⟨isNumbered, hcontrol, hescape⟩ := readCharacters_escape c
    refine ⟨⟨c, isNumbered⟩ :: characters, rfl, ?_, ?_⟩
    · exact List.forall_mem_cons.mpr ⟨hcontrol, hnumbered⟩
    · rw [List.flatMap_cons, List.append_assoc, hescape, hread]
      rfl

/-- Where no surrogate was written by its number nothing is joined. -/
theorem joinSurrogates_eq_map {characters : List Character}
    (h : ∀ c ∈ characters, c.isNumbered = true → c.codePoint.value < 0x20) :
    joinSurrogates characters = characters.map Character.codePoint := by
  induction characters using joinSurrogates.induct with
  | case1 => rfl
  | case2 c => rfl
  | case3 c d rest hpair ih =>
    rw [areSurrogatePair, Bool.and_eq_true, Bool.and_eq_true, decide_eq_true_iff] at hpair
    have hcontrol := h c List.mem_cons_self hpair.1.1
    omega
  | case4 c d rest hpair ih =>
    rw [List.forall_mem_cons] at h
    rw [joinSurrogates, if_neg hpair, ih h.2]
    rfl

/-- A string is read behind its opening quote as the text that was written. -/
theorem readString_writeText (t rest : Text) :
    readString (t.flatMap escape ++ .scalar '\x22' :: rest) = .ok (t, rest) := by
  obtain ⟨characters, htext, hnumbered, hread⟩ := readCharacters_flatMap_escape t rest
  rw [readString, hread]
  dsimp only
  rw [joinSurrogates_eq_map hnumbered, htext]

end CommandDocs.Json
