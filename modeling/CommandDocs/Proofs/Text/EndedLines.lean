import CommandDocs.Proofs.Text.Lines
import CommandDocs.Proofs.Text.Parts
import CommandDocs.Proofs.Text.Trim
import Mathlib.Data.List.Basic

/-!
# Ended lines and the open line

The lines of a text that a break has ended are there whatever follows the text. What stands
behind the last break is the beginning of a line that can go on. Behind a newline there is no
such beginning, so that texts which end in one have their lines one text after the other.
-/

namespace CommandDocs.Text

/-- The lines of a text that a break ends. -/
def endedLines : Text → List Text
  | [] => []
  | .scalar '\r' :: .scalar '\n' :: rest => [] :: endedLines rest
  | c :: rest =>
    if c.isLineBreak then [] :: endedLines rest
    else match endedLines rest with
      | [] => []
      | line :: others => (c :: line) :: others

/-- What stands behind the last line break. -/
def openLine : Text → Text
  | [] => []
  | c :: rest =>
    if c.isLineBreak then openLine rest
    else match endedLines rest with
      | [] => c :: openLine rest
      | _ :: _ => openLine rest

/-- A line break begins a new line. -/
theorem openLine_of_break {c : CodePoint} (hc : c.isLineBreak = true) (rest : Text) :
    openLine (c :: rest) = openLine rest := by
  rw [openLine, if_pos hc]

/-- The open line holds no line break. -/
theorem isUnbroken_openLine (s : Text) : (openLine s).IsUnbroken := by
  fun_induction openLine s with
  | case1 => simp [IsUnbroken]
  | case2 c rest hc ih => exact ih
  | case3 c rest hc hnone ih =>
    exact List.forall_mem_cons.mpr ⟨Bool.eq_false_iff.mpr hc, ih⟩
  | case4 c rest hc line others hsome ih => exact ih

/-- The lines of a longer text are the ended lines and then the lines from the open one on.
A newline behind the text would belong to a carriage return at its end, if there is one. -/
theorem lines_append (s : Text) {more : Text} (hmore : more.head? ≠ some (.scalar '\n')) :
    lines (s ++ more) = endedLines s ++ lines (openLine s ++ more) := by
  fun_induction endedLines s with
  | case1 => rfl
  | case2 rest ih =>
    rw [List.cons_append, List.cons_append, lines.eq_2, ih, List.cons_append,
      openLine_of_break (by decide), openLine_of_break (by decide)]
  | case3 c rest hpair hbreak ih =>
    have hnext : ∀ others, c = .scalar '\r' → rest ++ more = .scalar '\n' :: others → False := by
      intro others hc heq
      cases rest with
      | nil => exact hmore (by rw [← List.nil_append more, heq]; rfl)
      | cons d rest => exact hpair rest hc (by rw [(List.cons.inj heq).1])
    rw [List.cons_append, lines.eq_3 _ _ hnext, if_pos hbreak, ih, List.cons_append,
      openLine_of_break hbreak]
  | case4 c rest hpair hbreak hnone ih =>
    have hc : c.isLineBreak = false := Bool.eq_false_iff.mpr hbreak
    have hopen : openLine (c :: rest) = c :: openLine rest := by
      rw [openLine, if_neg hbreak, hnone]
    rw [List.cons_append, lines_cons hc, ih, hnone, hopen, List.nil_append, List.nil_append,
      List.cons_append, lines_cons hc]
  | case5 c rest hpair hbreak line others hsome ih =>
    have hc : c.isLineBreak = false := Bool.eq_false_iff.mpr hbreak
    have hopen : openLine (c :: rest) = openLine rest := by
      rw [openLine, if_neg hbreak, hsome]
    rw [List.cons_append, lines_cons hc, ih, hsome, hopen]
    rfl

/-- A text that is not empty has a line. -/
theorem lines_ne_nil {t : Text} (ht : t ≠ []) : lines t ≠ [] := by
  rw [lines.eq_def]
  split
  · contradiction
  · exact List.cons_ne_nil _ _
  · split
    · exact List.cons_ne_nil _ _
    · split <;> exact List.cons_ne_nil _ _

/-- The first line stands in front of the text. -/
theorem prefix_of_lines {t first : Text} {others : List Text} (h : lines t = first :: others) :
    first <+: t := by
  induction t generalizing first others with
  | nil => cases h
  | cons c rest ih =>
    by_cases hc : c.isLineBreak = true
    · -- A break leaves the first line empty, in both forms.
      have hnil : first = [] := by
        rw [lines.eq_def] at h
        split at h
        · cases h
        · exact (List.cons.inj h).1.symm
        · rename_i heq
          rw [← (List.cons.inj heq).1, if_pos hc] at h
          exact (List.cons.inj h).1.symm
      rw [hnil]
      exact List.nil_prefix
    · rw [lines_cons (Bool.eq_false_iff.mpr hc)] at h
      split at h
      · rw [← (List.cons.inj h).1, List.cons_prefix_cons]
        exact ⟨rfl, List.nil_prefix⟩
      · rename_i line more hsome
        rw [← (List.cons.inj h).1, List.cons_prefix_cons]
        exact ⟨rfl, ih hsome⟩

/-- An unbroken text goes on in the first line of what follows it. -/
theorem lines_append_of_isUnbroken {last : Text} (hlast : last.IsUnbroken) {t first : Text}
    {others : List Text} (h : lines t = first :: others) :
    lines (last ++ t) = (last ++ first) :: others := by
  induction last with
  | nil => exact h
  | cons c rest ih =>
    have hc := hlast c (List.mem_cons_self ..)
    have hrest : IsUnbroken rest := fun d hd => hlast d (List.mem_cons_of_mem _ hd)
    rw [List.cons_append, lines_cons hc, ih hrest, List.cons_append]

/-- An unbroken text that is not empty is one line. -/
theorem lines_of_isUnbroken {last : Text} (hlast : last.IsUnbroken) (hne : last ≠ []) :
    lines last = [last] := by
  obtain ⟨init, c, rfl⟩ := (List.eq_nil_or_concat' last).resolve_left hne
  have hc : c.isLineBreak = false := hlast c (by simp)
  have hinit : IsUnbroken init := fun d hd => hlast d (List.mem_append_left _ hd)
  have hone : lines [c] = [c] :: [] := by rw [lines_cons hc, lines]
  exact lines_append_of_isUnbroken hinit hone

/-! ### Texts that end in a newline -/

/-- Nothing stands behind the last newline of the text. -/
def IsEnded (t : Text) : Prop := ∀ c ∈ t.getLast?, c = .scalar '\n'

instance (t : Text) : Decidable t.IsEnded :=
  inferInstanceAs (Decidable (∀ c ∈ t.getLast?, c = .scalar '\n'))

/-- Whatever stands before it, an ended text that is not empty ends the whole. -/
theorem IsEnded.append_left {t : Text} (ht : t.IsEnded) (hne : t ≠ []) (s : Text) :
    IsEnded (s ++ t) := by
  intro c hc
  rw [List.getLast?_append_of_ne_nil s hne] at hc
  exact ht c hc

/-- Ended texts form an ended text. -/
theorem IsEnded.append {s t : Text} (hs : s.IsEnded) (ht : t.IsEnded) : IsEnded (s ++ t) := by
  by_cases hne : t = []
  · rw [hne, List.append_nil]
    exact hs
  · exact ht.append_left hne s

/-- A trimmed text is not ended. -/
theorem not_isEnded_of_trim {t : Text} (ht : t.trim = t) (hne : t ≠ []) : ¬t.IsEnded := by
  intro hended
  have hlast := (List.rdropWhile_eq_self_iff (p := CodePoint.isBlank)).mp (trimEnd_of_trim ht) hne
  rw [hended _ (List.getLast?_eq_getLast_of_ne_nil hne)] at hlast
  exact hlast rfl

/-- A break ends an empty line. Before a newline a carriage return adds nothing to it. -/
theorem lines_cons_of_break {c : CodePoint} (hc : c.isLineBreak = true) (t : Text) :
    lines (c :: t) =
      if c = .scalar '\r' ∧ t.head? = some (.scalar '\n') then lines t else [] :: lines t := by
  split
  · rename_i hpair
    obtain ⟨rfl, hnewline⟩ := hpair
    obtain ⟨rest, rfl⟩ : ∃ rest, t = .scalar '\n' :: rest := by
      cases t with
      | nil => cases hnewline
      | cons d rest => exact ⟨rest, by rw [Option.some.inj hnewline]⟩
    have hbreak : lines (.scalar '\n' :: rest) = [] :: lines rest :=
      lines_append_newline (List.forall_mem_nil _) rest
    rw [lines.eq_2, hbreak]
  · rename_i hpair
    rw [lines.eq_3, if_pos hc]
    intro rest hreturn hrest
    exact hpair ⟨hreturn, by rw [hrest]; rfl⟩

/-- Behind a newline the lines begin anew. -/
theorem lines_append_newline_append (s t : Text) :
    lines (s ++ .scalar '\n' :: t) = lines (s ++ [.scalar '\n']) ++ lines t := by
  have hnone : IsUnbroken [] := List.forall_mem_nil _
  induction s with
  | nil =>
    have hone : lines [.scalar '\n'] = [[]] := rfl
    rw [List.nil_append, List.nil_append, hone]
    exact lines_append_newline hnone t
  | cons c rest ih =>
    by_cases hc : c.isLineBreak = true
    · -- Whether a newline comes next does not depend on what stands behind the text.
      have hhead : (rest ++ CodePoint.scalar '\n' :: t).head? =
          (rest ++ [CodePoint.scalar '\n']).head? := by
        cases rest <;> rfl
      rw [List.cons_append, List.cons_append, lines_cons_of_break hc, lines_cons_of_break hc,
        hhead, ih]
      split <;> rfl
    · have hplain : c.isLineBreak = false := Bool.eq_false_iff.mpr hc
      have hline : lines (rest ++ [CodePoint.scalar '\n']) ≠ [] := lines_ne_nil (by simp)
      obtain ⟨first, others, hsome⟩ := List.exists_cons_of_ne_nil hline
      rw [List.cons_append, List.cons_append, lines_cons hplain, lines_cons hplain, ih, hsome]
      rfl

/-- Behind an ended text the lines begin anew. -/
theorem lines_append_of_isEnded {s : Text} (hs : s.IsEnded) (t : Text) :
    lines (s ++ t) = lines s ++ lines t := by
  rcases List.eq_nil_or_concat' s with rfl | ⟨init, c, rfl⟩
  · rfl
  · have hc : c = .scalar '\n' := hs c (by simp)
    rw [hc, List.append_assoc, List.singleton_append, lines_append_newline_append]

/-- Lines that are written one after the other form an ended text. -/
theorem isEnded_unlines (ls : List Text) : (unlines ls).IsEnded := by
  induction ls with
  | nil => exact fun c hc => nomatch hc
  | cons line rest ih =>
    have hnewline : IsEnded [CodePoint.scalar '\n'] := by decide
    rw [unlines_cons, List.append_cons]
    exact (hnewline.append_left (List.cons_ne_nil _ _) line).append ih

/-- Two pieces and more are joined by a newline behind the first one. -/
theorem join_newline_cons_cons (piece next : Text) (others : List Text) :
    join "\n" (piece :: next :: others) =
      piece ++ CodePoint.scalar '\n' :: join "\n" (next :: others) :=
  join_cons_cons (.scalar '\n') piece next others

/-- Lines are joined by newlines, and one more ends the last of them. -/
theorem join_append_newline {ls : List Text} (hne : ls ≠ []) :
    join "\n" ls ++ [CodePoint.scalar '\n'] = unlines ls := by
  induction ls with
  | nil => contradiction
  | cons line rest ih =>
    cases rest with
    | nil => rw [join, List.intercalate_singleton, unlines_cons, unlines, List.map_nil,
        List.flatten_nil]
    | cons next others =>
      rw [join_newline_cons_cons, List.append_assoc, List.cons_append,
        ih (List.cons_ne_nil next others), unlines_cons line]

/-- Unbroken pieces between newlines are the lines of the text, as long as the last one is not
empty. -/
theorem lines_join_newline {pieces : List Text} (hpieces : ∀ piece ∈ pieces, piece.IsUnbroken)
    (hlast : ∀ piece ∈ pieces.getLast?, piece ≠ []) : lines (join "\n" pieces) = pieces := by
  induction pieces with
  | nil => rfl
  | cons piece rest ih =>
    rw [List.forall_mem_cons] at hpieces
    cases rest with
    | nil =>
      have hne : piece ≠ [] := hlast piece rfl
      rw [join, List.intercalate_singleton]
      exact lines_of_isUnbroken hpieces.1 hne
    | cons next others =>
      rw [List.getLast?_cons_cons] at hlast
      rw [join_newline_cons_cons, lines_append_newline hpieces.1, ih hpieces.2 hlast]

/-- A trimmed text in which nothing but newlines ends a line has the pieces between them as its
lines. -/
theorem lines_eq_splitOn {t : Text} (ht : t.trim = t) (hne : t ≠ [])
    (hbreaks : t.Satisfies fun c => c = .scalar '\n' ∨ c.isLineBreak = false) :
    lines t = splitOn (.scalar '\n') t := by
  obtain ⟨-, hpieces, hjoin⟩ := splitOn_eq_iff.mp (rfl : splitOn (.scalar '\n') t = _)
  have hnewline : ("\n" : Text) = [CodePoint.scalar '\n'] := by decide
  rw [← hnewline] at hjoin
  have hunbroken : ∀ piece ∈ splitOn (.scalar '\n') t, piece.IsUnbroken := by
    intro piece hpiece c hc
    refine (hbreaks c (subset_of_mem_splitOn hpiece hc)).resolve_left fun heq => ?_
    exact hpieces piece hpiece (heq ▸ hc)
  have hlast : ∀ piece ∈ (splitOn (.scalar '\n') t).getLast?, piece ≠ [] := by
    rintro piece hpiece rfl
    -- An empty piece at the end would stand behind a newline at the end.
    obtain ⟨init, hinit⟩ := List.getLast?_eq_some_iff.mp hpiece
    rw [hinit, join_newline_concat] at hjoin
    exact not_isEnded_of_trim ht hne (hjoin ▸ isEnded_unlines init)
  conv_lhs => rw [← hjoin]
  exact lines_join_newline hunbroken hlast

end CommandDocs.Text
