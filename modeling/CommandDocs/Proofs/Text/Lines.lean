import CommandDocs.Text.Basic
import CommandDocs.Text.Lines

/-!
# Lines and pieces

Texts that are put together from lines or from pieces between separators are taken
apart into the same lines and pieces again.
-/

namespace CommandDocs.Text

/-- A text without any character that ends a line. -/
def IsUnbroken (t : Text) : Prop := ∀ c ∈ t, c.isLineBreak = false

instance (t : Text) : Decidable t.IsUnbroken :=
  inferInstanceAs (Decidable (∀ c ∈ t, c.isLineBreak = false))

/-- A character that ends no line goes to the front of the first line. -/
theorem lines_cons {c : CodePoint} (hc : c.isLineBreak = false) (t : Text) :
    lines (c :: t) = match lines t with
      | [] => [[c]]
      | line :: others => (c :: line) :: others := by
  have hr : c ≠ .scalar '\r' := by
    intro h
    subst h
    exact absurd hc (by decide)
  have hbreak : ¬c.isLineBreak = true := by simp [hc]
  exact (lines.eq_3 _ _ (fun _ h _ => hr h)).trans (if_neg hbreak)

/-- An unbroken text before a newline is the first line. -/
theorem lines_append_newline {line : Text} (hline : line.IsUnbroken) (t : Text) :
    lines (line ++ CodePoint.scalar '\n' :: t) = line :: lines t := by
  induction line with
  | nil =>
    rw [List.nil_append, lines.eq_3 _ _ (fun _ h _ => by cases h), if_pos (by decide)]
  | cons c rest ih =>
    have hc := hline c (List.mem_cons_self ..)
    have hrest : IsUnbroken rest := fun d hd => hline d (List.mem_cons_of_mem _ hd)
    rw [List.cons_append, lines_cons hc, ih hrest]

/-- No line of a text holds a character that ends a line. -/
theorem isUnbroken_of_mem_lines {t line : Text} (h : line ∈ lines t) : line.IsUnbroken := by
  induction t generalizing line with
  | nil => cases h
  | cons c rest ih =>
    by_cases hc : c.isLineBreak = true
    · -- behind a break of either form stand lines of the rest
      have hline : line = [] ∨ line ∈ lines rest := by
        rw [lines.eq_def] at h
        split at h
        · cases h
        · rename_i more heq
          obtain ⟨-, rfl⟩ := List.cons.inj heq
          have hbreak : lines (.scalar '\n' :: more) = [] :: lines more :=
            lines_append_newline (List.forall_mem_nil _) more
          rw [hbreak]
          exact (List.mem_cons.mp h).imp_right (List.mem_cons_of_mem _)
        · rename_i heq
          obtain ⟨rfl, rfl⟩ := List.cons.inj heq
          rw [if_pos hc] at h
          exact List.mem_cons.mp h
      rcases hline with rfl | hrest
      · exact List.forall_mem_nil _
      · exact ih hrest
    · have hplain : c.isLineBreak = false := Bool.eq_false_iff.mpr hc
      rw [lines_cons hplain] at h
      split at h
      · rw [List.mem_singleton.mp h]
        exact List.forall_mem_cons.mpr ⟨hplain, List.forall_mem_nil _⟩
      · rename_i first others hlines
        rw [hlines] at ih
        rcases List.mem_cons.mp h with rfl | hothers
        · exact List.forall_mem_cons.mpr ⟨hplain, ih (List.mem_cons_self ..)⟩
        · exact ih (List.mem_cons_of_mem _ hothers)

/-- The first line and its newline stand before the others. -/
theorem unlines_cons (line : Text) (ls : List Text) :
    unlines (line :: ls) = line ++ CodePoint.scalar '\n' :: unlines ls := by
  simp [unlines, ofString]

/-- Lines that are written together are written one group after the other. -/
theorem unlines_append (ls ms : List Text) : unlines (ls ++ ms) = unlines ls ++ unlines ms := by
  simp [unlines]

/-- Unbroken lines that are written one after the other are read back. -/
theorem lines_unlines {ls : List Text} (hls : ∀ line ∈ ls, line.IsUnbroken) :
    lines (unlines ls) = ls := by
  induction ls with
  | nil => rfl
  | cons line rest ih =>
    have hline := hls line (List.mem_cons_self ..)
    have hrest := ih fun l hl => hls l (List.mem_cons_of_mem _ hl)
    rw [unlines_cons, lines_append_newline hline, hrest]

/-- Joining by newlines with an empty last piece ends every line. -/
theorem join_newline_concat (ls : List Text) :
    join "\n" (ls ++ [[]]) = unlines ls := by
  induction ls with
  | nil => rfl
  | cons line rest ih =>
    have hjoin : join "\n" (line :: (rest ++ [[]])) = line ++ "\n" ++ join "\n" (rest ++ [[]]) := by
      cases rest <;> simp [join, List.intercalate, List.intersperse]
    rw [List.cons_append, hjoin, ih]
    simp [unlines]

/-- A piece without the separator is the first one before it. -/
theorem splitOn_append_separator {separator : CodePoint} {piece : Text} (hp : separator ∉ piece)
    (t : Text) : splitOn separator (piece ++ separator :: t) = piece :: splitOn separator t := by
  induction piece with
  | nil => rw [List.nil_append, splitOn, if_pos rfl]
  | cons c rest ih =>
    have hc : c ≠ separator := fun h => hp (h ▸ List.mem_cons_self ..)
    have hrest : separator ∉ rest := fun h => hp (List.mem_cons_of_mem _ h)
    rw [List.cons_append, splitOn, if_neg hc, ih hrest]

/-- The pieces are those into which lists are split. -/
theorem splitOn_eq_splitOn (separator : CodePoint) (t : Text) :
    splitOn separator t = List.splitOn separator t := by
  induction t with
  | nil => rfl
  | cons c rest ih =>
    rw [splitOn, ih, List.splitOn_eq_splitOnP, List.splitOn_eq_splitOnP,
      List.splitOnP_cons_eq_if_modifyHead]
    simp only [beq_iff_eq]
    cases hpieces : List.splitOnP (· == separator) rest with
    | nil => exact (List.splitOnP_ne_nil _ _ hpieces).elim
    | cons piece pieces => rfl

/-- No piece holds the separator. -/
theorem not_mem_of_mem_splitOn {separator : CodePoint} {t piece : Text}
    (h : piece ∈ splitOn separator t) : separator ∉ piece := by
  fun_induction splitOn separator t generalizing piece with
  | case1 =>
    rw [List.mem_singleton.mp h]
    exact List.not_mem_nil
  | case2 rest ih =>
    rcases List.mem_cons.mp h with rfl | h
    · exact List.not_mem_nil
    · exact ih h
  | case3 c rest hc hrest ih =>
    rw [List.mem_singleton.mp h, List.mem_singleton]
    exact fun heq => hc heq.symm
  | case4 c rest hc first others hrest ih =>
    rw [hrest, List.forall_mem_cons] at ih
    rcases List.mem_cons.mp h with rfl | h
    · rw [List.mem_cons, not_or]
      exact ⟨fun heq => hc heq.symm, ih.1⟩
    · exact ih.2 _ h

/-- The pieces of a text are the only ones without the separator that it joins to the text. -/
theorem splitOn_eq_iff {separator : CodePoint} {t : Text} {pieces : List Text} :
    splitOn separator t = pieces ↔
      pieces ≠ [] ∧ (∀ piece ∈ pieces, separator ∉ piece) ∧ join [separator] pieces = t := by
  constructor
  · rintro rfl
    refine ⟨?_, fun piece => not_mem_of_mem_splitOn, ?_⟩
    · rw [splitOn_eq_splitOn]
      exact List.splitOn_ne_nil separator t
    · rw [splitOn_eq_splitOn]
      exact List.intercalate_splitOn separator
  · rintro ⟨hne, hpieces, rfl⟩
    rw [splitOn_eq_splitOn]
    exact List.splitOn_intercalate separator hpieces hne

/-- There is always a piece. -/
theorem splitOn_ne_nil (separator : CodePoint) (t : Text) : splitOn separator t ≠ [] :=
  (splitOn_eq_iff.mp rfl).1

/-- Two pieces and more are joined by the separator behind the first one. -/
theorem join_cons_cons (separator : CodePoint) (piece next : Text) (others : List Text) :
    join [separator] (piece :: next :: others) =
      piece ++ separator :: join [separator] (next :: others) := by
  rw [join, List.intercalate_cons_cons, List.append_assoc, List.singleton_append]
  rfl

/-- Two texts have their pieces together, where the last piece of the one and the first piece of
the other are one. -/
theorem splitOn_append {separator : CodePoint} {s t last first : Text} {init rest : List Text}
    (hs : splitOn separator s = init ++ [last]) (ht : splitOn separator t = first :: rest) :
    splitOn separator (s ++ t) = init ++ (last ++ first) :: rest := by
  obtain ⟨-, hsplit, rfl⟩ := splitOn_eq_iff.mp hs
  obtain ⟨-, hsplit', rfl⟩ := splitOn_eq_iff.mp ht
  rw [List.forall_mem_append, List.forall_mem_singleton] at hsplit
  rw [List.forall_mem_cons] at hsplit'
  clear hs ht
  induction init with
  | nil =>
    refine splitOn_eq_iff.mpr ⟨by simp, ?_, ?_⟩
    · rw [List.nil_append, List.forall_mem_cons, List.mem_append, not_or]
      exact ⟨⟨hsplit.2, hsplit'.1⟩, hsplit'.2⟩
    · cases rest <;> simp [join]
  | cons piece init ih =>
    rw [List.forall_mem_cons] at hsplit
    have hjoin : join [separator] (piece :: init ++ [last]) =
        piece ++ separator :: join [separator] (init ++ [last]) := by
      cases init <;> exact join_cons_cons ..
    rw [hjoin, List.append_assoc, List.cons_append, splitOn_append_separator hsplit.1.1,
      ih ⟨hsplit.1.2, hsplit.2⟩]
    rfl

end CommandDocs.Text
