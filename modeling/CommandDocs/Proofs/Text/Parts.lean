import CommandDocs.Proofs.Text.CodePoint
import CommandDocs.Text.Basic
import CommandDocs.Text.Blank
import CommandDocs.Text.Lines
import Mathlib.Data.List.DropRight

/-!
# Parts of a text

Trimming a text, taking its lines or splitting it gives texts with no code points but those
of the text. What holds of every code point of some texts holds of the text that is put
together from them.
-/

namespace CommandDocs.Text

variable {P : CodePoint → Prop}

/-- A text with no code points but those of another one satisfies what that one does. -/
theorem Satisfies.of_subset {s t : Text} (ht : t.Satisfies P) (h : s ⊆ t) : s.Satisfies P :=
  fun c hc => ht c (h hc)

/-- A code point in front of a text. -/
theorem isUnicode_cons {c : CodePoint} {t : Text} :
    IsUnicode (c :: t) ↔ c.isSurrogate = false ∧ t.IsUnicode := List.forall_mem_cons

/-- Trimming leaves code points of the text. -/
theorem trim_subset (t : Text) : t.trim ⊆ t :=
  List.Subset.trans (List.rdropWhile_prefix CodePoint.isBlank _).subset
    (List.dropWhile_sublist CodePoint.isBlank).subset

/-- A line is part of its text. -/
theorem subset_of_mem_lines {t line : Text} (h : line ∈ t.lines) : line ⊆ t := by
  fun_induction lines t generalizing line with
  | case1 => cases h
  | case2 rest ih =>
    rcases List.mem_cons.mp h with rfl | h
    · exact List.nil_subset _
    · exact fun d hd => List.mem_cons_of_mem _ (List.mem_cons_of_mem _ (ih h hd))
  | case3 c rest _ _ ih =>
    rcases List.mem_cons.mp h with rfl | h
    · exact List.nil_subset _
    · exact List.subset_cons_of_subset _ (ih h)
  | case4 c rest _ _ _ ih =>
    rw [List.mem_singleton.mp h]
    exact List.cons_subset_cons _ (List.nil_subset _)
  | case5 c rest _ _ first others hrest ih =>
    rw [hrest, List.forall_mem_cons] at ih
    rcases List.mem_cons.mp h with rfl | h
    · exact List.cons_subset_cons _ ih.1
    · exact List.subset_cons_of_subset _ (ih.2 _ h)

/-- A piece between separators is part of its text. -/
theorem subset_of_mem_splitOn {separator : CodePoint} {t piece : Text}
    (h : piece ∈ t.splitOn separator) : piece ⊆ t := by
  fun_induction splitOn separator t generalizing piece with
  | case1 =>
    rw [List.mem_singleton.mp h]
    exact List.nil_subset _
  | case2 rest ih =>
    rcases List.mem_cons.mp h with rfl | h
    · exact List.nil_subset _
    · exact List.subset_cons_of_subset _ (ih h)
  | case3 c rest _ _ ih =>
    rw [List.mem_singleton.mp h]
    exact List.cons_subset_cons _ (List.nil_subset _)
  | case4 c rest _ first others hrest ih =>
    rw [hrest, List.forall_mem_cons] at ih
    rcases List.mem_cons.mp h with rfl | h
    · exact List.cons_subset_cons _ ih.1
    · exact List.subset_cons_of_subset _ (ih.2 _ h)

/-- Newlines that are made the same make no surrogate. -/
theorem IsUnicode.unifyNewlines {t : Text} (ht : t.IsUnicode) : t.unifyNewlines.IsUnicode := by
  fun_induction Text.unifyNewlines t with
  | case1 => exact isUnicode_nil
  | case2 rest ih =>
    rw [isUnicode_cons, isUnicode_cons] at ht
    exact isUnicode_cons.mpr ⟨rfl, ih ht.2.2⟩
  | case3 rest _ ih => exact isUnicode_cons.mpr ⟨rfl, ih (isUnicode_cons.mp ht).2⟩
  | case4 c rest _ _ ih =>
    exact isUnicode_cons.mpr ⟨(isUnicode_cons.mp ht).1, ih (isUnicode_cons.mp ht).2⟩

/-- What stands before a character that is no newline has its own newlines. -/
theorem unifyNewlines_append {c : CodePoint} (hc : c ≠ .scalar '\n') (t rest : Text) :
    unifyNewlines (t ++ c :: rest) = t.unifyNewlines ++ unifyNewlines (c :: rest) := by
  fun_induction Text.unifyNewlines t with
  | case1 => rfl
  | case2 more ih => rw [List.cons_append, List.cons_append, unifyNewlines, ih, List.cons_append]
  | case3 more hmore ih =>
    have hnext : ∀ behind, more ++ c :: rest ≠ .scalar '\n' :: behind := by
      intro behind h
      cases more with
      | nil =>
        cases h
        exact hc rfl
      | cons d more =>
        cases h
        exact hmore more rfl
    rw [List.cons_append, unifyNewlines.eq_3 _ hnext, ih, List.cons_append]
  | case4 d more _ hreturn ih =>
    rw [List.cons_append, unifyNewlines.eq_4 _ _ (fun _ hd _ => hreturn hd) hreturn, ih,
      List.cons_append]

/-- Texts are joined to a text that satisfies what they and the separator do. -/
theorem satisfies_join {separator : Text} {pieces : List Text}
    (hseparator : separator.Satisfies P) (hpieces : ∀ piece ∈ pieces, piece.Satisfies P) :
    (join separator pieces).Satisfies P := by
  induction pieces with
  | nil => exact List.forall_mem_nil P
  | cons piece rest ih =>
    rw [List.forall_mem_cons] at hpieces
    have hrest := ih hpieces.2
    rw [join] at hrest ⊢
    cases rest with
    | nil =>
      rw [List.intercalate_singleton]
      exact hpieces.1
    | cons next others =>
      rw [List.intercalate_cons_cons, satisfies_append, satisfies_append]
      exact ⟨⟨hpieces.1, hseparator⟩, hrest⟩

/-- A marker occurs in a text when the text has it as a part in one piece. -/
theorem hasInfix_iff {marker t : Text} : hasInfix marker t = true ↔ marker <:+: t := by
  induction t with
  | nil => rw [hasInfix, List.isEmpty_iff, List.infix_nil]
  | cons c rest ih =>
    rw [hasInfix, Bool.or_eq_true, List.isPrefixOf_iff_prefix, ih, List.infix_cons_iff]

end CommandDocs.Text
