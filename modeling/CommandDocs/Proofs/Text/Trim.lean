import CommandDocs.Text.Basic
import CommandDocs.Text.Blank
import Mathlib.Data.List.DropRight

/-!
# Trimming

What trimming does to a text that is put together from pieces. Blanks on either
side change nothing, and a piece that does not end in a blank stays whole together
with all that stands before it.
-/

namespace CommandDocs.Text

/-- A blank text holds nothing but blanks. -/
theorem isBlank_iff {t : Text} : t.isBlank = true ↔ ∀ c ∈ t, c.isBlank = true := by
  rw [isBlank, List.all_eq_true]

/-- A text that begins with something other than a blank is not trimmed there. -/
theorem trimStart_cons {c : CodePoint} (hc : c.isBlank = false) (t : Text) :
    trimStart (c :: t) = c :: t := by
  rw [trimStart, dropStartWhile, List.dropWhile_cons_of_neg (by simp [hc])]

/-- Blanks in front are trimmed. -/
theorem trimStart_append {a : Text} (ha : a.isBlank = true) (t : Text) :
    trimStart (a ++ t) = trimStart t := by
  rw [trimStart, dropStartWhile, List.dropWhile_append_of_pos (isBlank_iff.mp ha)]
  rfl

/-- Something that is no blank stops the trimming in front. -/
theorem trimStart_append_of_not_isBlank {t : Text} (ht : ¬t.isBlank = true) (s : Text) :
    trimStart (t ++ s) = trimStart t ++ s := by
  have hne : t.dropWhile CodePoint.isBlank ≠ [] := by
    intro hnil
    exact ht (isBlank_iff.mpr (List.dropWhile_eq_nil_iff.mp hnil))
  rw [trimStart, dropStartWhile, List.dropWhile_append, if_neg (by simpa using hne)]
  rfl

/-- Blanks behind are trimmed. -/
theorem trimEnd_append {b : Text} (hb : b.isBlank = true) (t : Text) :
    trimEnd (t ++ b) = trimEnd t := by
  have hall : ∀ c ∈ b.reverse, c.isBlank = true := by
    intro c hc
    exact isBlank_iff.mp hb c (List.mem_reverse.mp hc)
  rw [trimEnd, dropEndWhile, List.reverse_append, List.dropWhile_append_of_pos hall]
  rfl

/-- Whatever stands before a nonempty text that does not end in a blank is kept. -/
theorem trimEnd_append_self {t : Text} (ht : t.trimEnd = t) (hne : t ≠ []) (a : Text) :
    trimEnd (a ++ t) = a ++ t := by
  have hlast := (List.rdropWhile_eq_self_iff (p := CodePoint.isBlank)).mp ht
  refine (List.rdropWhile_eq_self_iff (p := CodePoint.isBlank)).mpr fun hl => ?_
  rw [List.getLast_append_of_ne_nil _ hne]
  exact hlast hne

/-- Blanks in front make no difference to trimming. -/
theorem trim_append_left {a : Text} (ha : a.isBlank = true) (t : Text) :
    trim (a ++ t) = trim t := by
  rw [trim, trimStart_append ha, trim]

/-- A blank text is trimmed to nothing. -/
theorem trim_of_isBlank {t : Text} (ht : t.isBlank = true) : t.trim = [] := by
  have h := trim_append_left ht []
  rw [List.append_nil] at h
  exact h

/-- Blanks behind make no difference to trimming. -/
theorem trim_append_right {b : Text} (hb : b.isBlank = true) (t : Text) :
    trim (t ++ b) = trim t := by
  by_cases ht : t.isBlank = true
  · rw [trim_append_left ht, trim_of_isBlank hb, trim_of_isBlank ht]
  · -- Something in `t` stops the trimming from the left, so it never reaches `b`.
    rw [trim, trimStart_append_of_not_isBlank ht, trimEnd_append hb, trim]

/-- A text that is trimmed to nothing is blank. -/
theorem isBlank_of_trim {t : Text} (ht : t.trim = []) : t.isBlank = true := by
  have hrest := List.rdropWhile_eq_nil_iff.mp ht
  refine isBlank_iff.mpr fun c hc => ?_
  rw [← List.takeWhile_append_dropWhile (p := CodePoint.isBlank) (l := t)] at hc
  rcases List.mem_append.mp hc with hfront | hback
  · exact List.mem_takeWhile_imp hfront
  · exact hrest c hback

/-- Trimming is how a nonblank text is told from a blank one. -/
theorem isBlank_eq_false_of_trim {t : Text} (ht : t.trim = t) (hne : t ≠ []) :
    t.isBlank = false := by
  by_contra hcon
  rw [Bool.not_eq_false] at hcon
  rw [trim_of_isBlank hcon] at ht
  exact hne ht.symm

/-- A trimmed text does not begin with a blank. -/
theorem trimStart_of_trim {t : Text} (ht : t.trim = t) : t.trimStart = t := by
  have hsub : t.trimStart.Sublist t := List.dropWhile_sublist CodePoint.isBlank
  have hpre : t.trim <+: t.trimStart := List.rdropWhile_prefix CodePoint.isBlank _
  have hle := hpre.length_le
  rw [ht] at hle
  exact hsub.eq_of_length_le hle

/-- A trimmed text does not end in a blank. -/
theorem trimEnd_of_trim {t : Text} (ht : t.trim = t) : t.trimEnd = t := by
  have h : t.trimStart.trimEnd = t := ht
  rw [trimStart_of_trim ht] at h
  exact h

/-- A text that begins with a mark which is no blank still does when trimmed. -/
theorem trim_cons {c : CodePoint} (hc : c.isBlank = false) (t : Text) :
    ∃ rest, trim (c :: t) = c :: rest := by
  have hpre : trim (c :: t) <+: trimStart (c :: t) := List.rdropWhile_prefix CodePoint.isBlank _
  rw [trimStart_cons hc] at hpre
  cases htrim : trim (c :: t) with
  | nil =>
    have hblank := isBlank_iff.mp (isBlank_of_trim htrim) c (List.mem_cons_self ..)
    rw [hc] at hblank
    contradiction
  | cons d rest =>
    rw [htrim, List.cons_prefix_cons] at hpre
    exact ⟨rest, by rw [hpre.1]⟩

/-- Trimming the end takes away blanks and nothing else. -/
theorem exists_blanks_trimEnd (t : Text) :
    ∃ back : Text, back.isBlank = true ∧ t = t.trimEnd ++ back := by
  refine ⟨(t.reverse.takeWhile CodePoint.isBlank).reverse,
    isBlank_iff.mpr fun c hc => List.mem_takeWhile_imp (List.mem_reverse.mp hc), ?_⟩
  have hsplit := List.takeWhile_append_dropWhile (p := CodePoint.isBlank) (l := t.reverse)
  rw [trimEnd, dropEndWhile, ← List.reverse_append, hsplit, List.reverse_reverse]

/-- Trimming takes away blanks at both ends and nothing else. -/
theorem exists_blanks_trim (t : Text) :
    ∃ front back : Text, front.isBlank = true ∧ back.isBlank = true ∧
      t = front ++ (t.trim ++ back) := by
  obtain ⟨back, hback, hend⟩ := exists_blanks_trimEnd t.trimStart
  refine ⟨t.takeWhile CodePoint.isBlank, back,
    isBlank_iff.mpr fun c hc => List.mem_takeWhile_imp hc, hback, ?_⟩
  rw [trim, ← hend]
  exact (List.takeWhile_append_dropWhile (p := CodePoint.isBlank) (l := t)).symm

/-- Trimming the end of a text keeps a trimmed text at its beginning. -/
theorem prefix_trimEnd_append {mark : Text} (hmark : mark.trimEnd = mark) (t : Text) :
    mark <+: trimEnd (mark ++ t) := by
  obtain ⟨back, hback, ht⟩ := exists_blanks_trimEnd t
  rw [ht, ← List.append_assoc, trimEnd_append hback]
  by_cases hnil : t.trimEnd = []
  · rw [hnil, List.append_nil]
    exact ⟨[], by rw [List.append_nil, hmark]⟩
  · have hself : t.trimEnd.trimEnd = t.trimEnd := List.rdropWhile_idempotent CodePoint.isBlank t
    rw [trimEnd_append_self hself hnil]
    exact List.prefix_append _ _

/-- A text opens with a trimmed mark when the mark stands behind the blanks in front. -/
theorem startsWith_trim_iff {t mark : Text} (hmark : mark.trim = mark) :
    t.trim.startsWith mark = true ↔ mark <+: t.trimStart := by
  rw [startsWith, List.isPrefixOf_iff_prefix]
  constructor
  · exact fun h => h.trans (List.rdropWhile_prefix CodePoint.isBlank _)
  · rintro ⟨rest, hrest⟩
    rw [trim, ← hrest]
    exact prefix_trimEnd_append (trimEnd_of_trim hmark) rest

/-- What stands behind the blanks in front of a text opens every longer one there. -/
theorem trimStart_prefix_append (t more : Text) : t.trimStart <+: (t ++ more).trimStart := by
  by_cases ht : t.isBlank = true
  · have hnil : t.trimStart = [] := List.dropWhile_eq_nil_iff.mpr (isBlank_iff.mp ht)
    rw [hnil]
    exact List.nil_prefix
  · rw [trimStart_append_of_not_isBlank ht]
    exact List.prefix_append _ _

/-- A trimmed mark that opens the trimmed text opens every longer one, trimmed. -/
theorem startsWith_trim_append {t mark : Text} (hmark : mark.trim = mark)
    (h : t.trim.startsWith mark = true) (more : Text) :
    (t ++ more).trim.startsWith mark = true := by
  rw [startsWith_trim_iff hmark] at h ⊢
  exact h.trans (trimStart_prefix_append t more)

/-- A mark in front of a text of two parts stands in the first part, or in the second behind
blanks, or it begins in the first and is completed by the second. -/
theorem prefix_trimStart_append_cases {mark t s : Text} (h : mark <+: (t ++ s).trimStart) :
    mark <+: t.trimStart ∨ (t.isBlank = true ∧ mark <+: s.trimStart) ∨
      ∃ rest, rest ≠ [] ∧ t.trimStart ≠ [] ∧ mark = t.trimStart ++ rest ∧ rest <+: s := by
  by_cases ht : t.isBlank = true
  · rw [trimStart_append ht] at h
    exact Or.inr (Or.inl ⟨ht, h⟩)
  · rw [trimStart_append_of_not_isBlank ht] at h
    obtain ⟨z, hz⟩ := h
    rcases List.append_eq_append_iff.mp hz with ⟨more, hfirst, -⟩ | ⟨rest, hmark, hs⟩
    · exact Or.inl ⟨more, hfirst.symm⟩
    · by_cases hrest : rest = []
      · rw [hmark, hrest, List.append_nil]
        exact Or.inl (List.prefix_refl _)
      · have hne : t.trimStart ≠ [] := fun hnil =>
          ht (isBlank_iff.mpr (List.dropWhile_eq_nil_iff.mp hnil))
        exact Or.inr (Or.inr ⟨rest, hrest, hne, hmark, ⟨z, hs.symm⟩⟩)

/-- A trimmed text has no outer blanks left. -/
theorem trim_trim (t : Text) : t.trim.trim = t.trim := by
  by_cases ht : t.isBlank = true
  · rw [trim_of_isBlank ht]
    rfl
  · have hend : t.trim.trimEnd = t.trim := List.rdropWhile_idempotent CodePoint.isBlank t.trimStart
    -- What stands first in the trimmed text stands first behind the blanks in front.
    have hstart : t.trim.trimStart = t.trim := by
      cases htrim : t.trim with
      | nil => exact absurd (isBlank_of_trim htrim) ht
      | cons c rest =>
        refine trimStart_cons ?_ rest
        have hprefix : t.trim <+: t.trimStart := List.rdropWhile_prefix CodePoint.isBlank _
        obtain ⟨back, hback⟩ := hprefix
        have hhead := List.head?_dropWhile_not (p := CodePoint.isBlank) (l := t)
        have hfirst : t.dropWhile CodePoint.isBlank = c :: (rest ++ back) := by
          rw [← List.cons_append, ← htrim, hback]
          rfl
        simpa [hfirst] using hhead
    rw [trim, hstart, hend]

/-- Whatever stands between two trimmed texts that are not empty, nothing is trimmed. -/
theorem trim_append_append {s t : Text} (hs : s.trim = s) (hsne : s ≠ []) (ht : t.trim = t)
    (htne : t ≠ []) (between : Text) : trim (s ++ between ++ t) = s ++ between ++ t := by
  have hblank : ¬s.isBlank = true := by
    rw [isBlank_eq_false_of_trim hs hsne]
    exact Bool.false_ne_true
  rw [trim, List.append_assoc, trimStart_append_of_not_isBlank hblank, trimStart_of_trim hs,
    ← List.append_assoc, trimEnd_append_self (trimEnd_of_trim ht) htne]

end CommandDocs.Text
