import CommandDocs.Proofs.Text.Lines
import CommandDocs.Proofs.Text.Trim

/-!
# Line endings

The same text with `\r\n` for every newline. It has the same lines, and trimming it gives
the trimmed text with the other line ending.
-/

namespace CommandDocs.Text

/-- The text with a carriage return before every newline. -/
def crlf (t : Text) : Text := replaceEach (.scalar '\n') "\r\n" t

/-- Parts of a text are changed apart from each other. -/
theorem crlf_append (s t : Text) : crlf (s ++ t) = crlf s ++ crlf t :=
  List.flatMap_append

/-- A newline becomes two code points. -/
theorem crlf_newline_cons (t : Text) :
    crlf (.scalar '\n' :: t) = .scalar '\r' :: .scalar '\n' :: crlf t := rfl

/-- Every other code point stays. -/
theorem crlf_cons {c : CodePoint} (hc : c ≠ .scalar '\n') (t : Text) :
    crlf (c :: t) = c :: crlf t := by
  rw [crlf, replaceEach, List.flatMap_cons, if_neg hc]
  rfl

/-- A text without newlines stays. -/
theorem crlf_of_not_mem {t : Text} (ht : CodePoint.scalar '\n' ∉ t) : crlf t = t := by
  induction t with
  | nil => rfl
  | cons c rest ih =>
    have hc : c ≠ .scalar '\n' := fun h => ht (h ▸ List.mem_cons_self ..)
    rw [crlf_cons hc, ih fun h => ht (List.mem_cons_of_mem _ h)]

/-- The lines of a text do not depend on its line ending. -/
theorem lines_crlf {t : Text} (ht : CodePoint.scalar '\r' ∉ t) : lines (crlf t) = lines t := by
  induction t with
  | nil => rfl
  | cons c rest ih =>
    have hreturn : c ≠ .scalar '\r' := fun h => ht (h ▸ List.mem_cons_self ..)
    have hrest := ih fun h => ht (List.mem_cons_of_mem _ h)
    by_cases hc : c = .scalar '\n'
    · subst hc
      rw [crlf_newline_cons, lines.eq_2, hrest, lines.eq_3 _ _ fun _ h _ => hreturn h,
        if_pos (by decide)]
    · rw [crlf_cons hc, lines.eq_3 _ _ fun _ h _ => hreturn h,
        lines.eq_3 _ _ fun _ h _ => hreturn h, hrest]

/-- A blank stays blank, a newline being two of them. -/
theorem isBlank_crlf_singleton {c : CodePoint} (h : c.isBlank = true) :
    isBlank (crlf [c]) = true := by
  by_cases hc : c = .scalar '\n'
  · rw [hc]
    decide
  · rw [crlf_cons hc]
    simpa [isBlank, crlf, replaceEach] using h

/-- Trimming takes away the same blanks in front. -/
theorem trimStart_crlf (t : Text) : trimStart (crlf t) = crlf (trimStart t) := by
  induction t with
  | nil => rfl
  | cons c rest ih =>
    by_cases hblank : c.isBlank = true
    · have hsplit := crlf_append [c] rest
      have hone : isBlank [c] = true := by simpa [isBlank] using hblank
      have hdrop := trimStart_append hone rest
      rw [List.singleton_append] at hsplit hdrop
      rw [hsplit, trimStart_append (isBlank_crlf_singleton hblank), ih, hdrop]
    · have hstop := Bool.eq_false_iff.mpr hblank
      have hc : c ≠ .scalar '\n' := by
        rintro rfl
        exact hblank (by decide)
      rw [crlf_cons hc, trimStart_cons hstop, trimStart_cons hstop, crlf_cons hc]

/-- It takes away the same blanks behind; the induction is on the text from its end. -/
theorem trimEnd_crlf (t : Text) : trimEnd (crlf t) = crlf (trimEnd t) := by
  induction t using List.reverseRecOn with
  | nil => rfl
  | append_singleton init c ih =>
    by_cases hblank : c.isBlank = true
    · have hone : isBlank [c] = true := by simpa [isBlank] using hblank
      rw [crlf_append, trimEnd_append (isBlank_crlf_singleton hblank), ih, trimEnd_append hone]
    · have hc : c ≠ .scalar '\n' := by
        rintro rfl
        exact hblank (by decide)
      have hself : trimEnd [c] = [c] := by simp [trimEnd, dropEndWhile, hblank]
      have hsame : crlf [c] = [c] := crlf_cons hc []
      rw [crlf_append, hsame, trimEnd_append_self hself (by simp),
        trimEnd_append_self hself (by simp), crlf_append, hsame]

/-- Trimming takes away the same blanks under either line ending. -/
theorem trim_crlf (t : Text) : trim (crlf t) = crlf (trim t) := by
  rw [trim, trimStart_crlf, trimEnd_crlf, trim]

end CommandDocs.Text
