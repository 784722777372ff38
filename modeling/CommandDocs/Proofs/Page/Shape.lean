import CommandDocs.Page.Extraction
import CommandDocs.Proofs.Page.Texts

/-!
# The shape of what is read

Whatever a page looks like, the title, the description and the cells of the forms are single lines
without outer blanks, the summary is one short line, and no line of the example is a fence. Cells
hold neither bars nor bold marks.
-/

namespace CommandDocs

namespace Page

open Text

variable {lines : List Text} {start : Nat} {description title t line : Text}

/-- A cell as it stands in a form. -/
structure IsTidyCell (cell : Text) : Prop where
  /-- It has no outer blanks. -/
  trimmed : cell.trim = cell
  /-- It is a single line. -/
  unbroken : cell.IsUnbroken
  /-- No bar is left in it. -/
  unbarred : cellBar ∉ cell
  /-- No bold mark is left in it. -/
  unmarked : hasInfix boldMark cell = false

/-- What every page says is of this shape. -/
structure Extraction.IsTidy (page : Extraction) : Prop where
  /-- The title is a single line without outer blanks. -/
  title : page.title.trim = page.title ∧ page.title.IsUnbroken
  /-- So is the description. -/
  description : page.description.trim = page.description ∧ page.description.IsUnbroken
  /-- The summary is a single line. -/
  summary : page.summary.IsUnbroken
  /-- There is a summary when there is a title or a description, and only then. -/
  summary_ne_nil : page.summary ≠ [] ↔ page.title ≠ [] ∨ page.description ≠ []
  /-- A summary of the description is short. -/
  summary_length : page.description ≠ [] → page.summary.length ≤ 103
  /-- Without a description the summary is the title. -/
  summary_title : page.description = [] → page.summary = page.title
  /-- The cells of every form are tidy. -/
  rows : ∀ row ∈ page.rows, IsTidyCell row.form ∧ IsTidyCell row.description
  /-- The example has no outer blanks. -/
  exampleCode : page.exampleCode.trim = page.exampleCode
  /-- No line of the example is a fence. -/
  code : ∀ line ∈ page.exampleCode.splitOn (.scalar '\n'), isFence line = false

/-! ### Titles and descriptions -/

/-- The title has no outer blanks. -/
theorem trim_findTitle (lines : List Text) (start : Nat) :
    (findTitle lines start).value.trim = (findTitle lines start).value := by
  rcases findTitle_cases lines start with
    ⟨-, hreading⟩ | ⟨before, heading, rest, -, -, -, hreading⟩
  · rw [hreading]
    rfl
  · rw [hreading]
    exact trim_trim _

/-- Texts that are joined make a text that is not empty. -/
theorem join_ne_nil {separator piece : Text} {pieces : List Text} (hpiece : piece ≠ []) :
    join separator (piece :: pieces) ≠ [] := by
  cases pieces <;> simp [join, hpiece]

/-- Trimmed texts are joined to a trimmed text, whatever is put between them. -/
theorem trim_join {separator : Text} {pieces : List Text}
    (h : ∀ piece ∈ pieces, piece.trim = piece ∧ piece ≠ []) :
    (join separator pieces).trim = join separator pieces := by
  induction pieces with
  | nil => rfl
  | cons piece rest ih =>
    rw [List.forall_mem_cons] at h
    obtain ⟨⟨htrim, hne⟩, hrest⟩ := h
    cases rest with
    | nil => simpa [join] using htrim
    | cons next others =>
      have hjoin : join separator (piece :: next :: others) =
          piece ++ separator ++ join separator (next :: others) := by
        simp [join, List.intercalate]
      rw [hjoin]
      exact trim_append_append htrim hne (ih hrest)
        (join_ne_nil (hrest next (List.mem_cons_self ..)).2) separator

/-- The description has no outer blanks: no line of its paragraph is blank. -/
theorem trim_readDescription (lines : List Text) (start : Nat) :
    (readDescription lines start).value.trim = (readDescription lines start).value := by
  obtain ⟨blanks, paragraph, rest, -, -, hparagraph, -, -, hreading⟩ :=
    readDescription_cases lines start
  rw [hreading]
  refine trim_join fun piece hpiece => ?_
  obtain ⟨line, hline, rfl⟩ := List.mem_map.mp hpiece
  refine ⟨trim_trim line, fun hnil => ?_⟩
  have hprose := hparagraph line hline
  rw [endsParagraph, isBlank_of_trim hnil] at hprose
  cases hprose

/-! ### Summaries -/

/-- A sentence is cut to the limit, and three full stops mark the cut. -/
theorem length_shorten_le (t : Text) : (shorten t).length ≤ 103 := by
  have hellipsis : ellipsis.length = 3 := by decide
  rw [shorten]
  split
  · rw [List.length_append, List.length_take, summaryLimit, hellipsis]
    omega
  · rename_i hshort
    rw [summaryLimit] at hshort
    omega

/-- A sentence is not cut to nothing. -/
theorem shorten_ne_nil (ht : t ≠ []) : shorten t ≠ [] := by
  rw [shorten]
  split
  · have hellipsis : ellipsis ≠ [] := by decide
    exact List.append_ne_nil_of_right_ne_nil _ hellipsis
  · exact ht

/-- The first sentence is not empty, since a blank one is replaced. -/
theorem firstSentence_ne_nil (hdescription : description ≠ []) :
    firstSentence description title ≠ [] := by
  rw [firstSentence]
  split
  · split
    · exact hdescription
    · rename_i htitle
      simpa using htitle
  · rename_i hsentence
    intro hnil
    rw [hnil] at hsentence
    exact hsentence rfl

/-- Without a description the summary is the title. -/
theorem summarize_of_eq_nil (h : description = []) (title : Text) :
    summarize description title = title := by
  rw [h]
  rfl

/-- A description is summarized by its first sentence. -/
theorem summarize_of_ne_nil (h : description ≠ []) (title : Text) :
    summarize description title = shorten (firstSentence description title) := by
  rw [summarize, if_neg (by simpa using h)]

/-- Its summary is short. -/
theorem length_summarize_le (h : description ≠ []) (title : Text) :
    (summarize description title).length ≤ 103 := by
  rw [summarize_of_ne_nil h]
  exact length_shorten_le _

/-- There is a summary when there is anything to summarize. -/
theorem summarize_ne_nil_iff :
    summarize description title ≠ [] ↔ title ≠ [] ∨ description ≠ [] := by
  by_cases h : description = []
  · rw [summarize_of_eq_nil h]
    simp [h]
  · rw [summarize_of_ne_nil h]
    exact ⟨fun _ => Or.inr h, fun _ => shorten_ne_nil (firstSentence_ne_nil h)⟩

/-! ### Cells -/

/-- The cells of every form on a page of unbroken lines are tidy. -/
theorem isTidyCell_of_mem_rows (hlines : ∀ line ∈ lines, line.IsUnbroken) :
    ∀ row ∈ syntaxRows ((findTableBlock lines start).value.getD []),
      IsTidyCell row.form ∧ IsTidyCell row.description := by
  intro row hrow
  obtain ⟨line, hline, form, hform, description, hdescription, rfl⟩ :=
    exists_cells_of_mem_rows hrow
  have htidy : ∀ cell ∈ cells line, IsTidyCell (plainCell cell) := by
    intro cell hcell
    refine ⟨trim_plainCell cell, ?_, ?_, hasInfix_plainCell cell⟩
    · exact satisfies_of_mem_cells (fun c hc _ => hlines line hline c hc) hcell
    · have hbars : (plainCell cell).Satisfies (· ≠ cellBar) :=
        satisfies_of_mem_cells (fun _ _ hc => hc) hcell
      exact fun hbar => hbars cellBar hbar rfl
  exact ⟨htidy form hform, htidy description hdescription⟩

/-! ### Examples -/

/-- The pieces of blanks are blank. -/
theorem isBlank_of_mem_splitOn {separator : CodePoint} {piece : Text} (ht : t.isBlank = true)
    (h : piece ∈ t.splitOn separator) : piece.isBlank = true :=
  isBlank_iff.mpr fun c hc => isBlank_iff.mp ht c (subset_of_mem_splitOn h hc)

/-- Blanks in front of a text do not change its pieces otherwise than by blanks. -/
theorem exists_piece_append_left {separator : CodePoint} {front : Text}
    (hfront : front.isBlank = true) (h : line ∈ t.splitOn separator) :
    ∃ piece ∈ (front ++ t).splitOn separator, piece.trim = line.trim := by
  obtain ⟨init, last, hinit⟩ :=
    (List.eq_nil_or_concat' (front.splitOn separator)).resolve_left (splitOn_ne_nil separator _)
  obtain ⟨first, rest, hrest⟩ := List.exists_cons_of_ne_nil (splitOn_ne_nil separator t)
  have hlast : last.isBlank = true :=
    isBlank_of_mem_splitOn hfront (hinit ▸ List.mem_concat_self)
  rw [splitOn_append hinit hrest]
  rw [hrest] at h
  rcases List.mem_cons.mp h with rfl | h
  · exact ⟨last ++ line, by simp, trim_append_left hlast line⟩
  · exact ⟨line, by simp [h], rfl⟩

/-- Nor do blanks behind it. -/
theorem exists_piece_append_right {separator : CodePoint} {back : Text}
    (hback : back.isBlank = true) (h : line ∈ t.splitOn separator) :
    ∃ piece ∈ (t ++ back).splitOn separator, piece.trim = line.trim := by
  obtain ⟨init, last, hinit⟩ :=
    (List.eq_nil_or_concat' (t.splitOn separator)).resolve_left (splitOn_ne_nil separator _)
  obtain ⟨first, rest, hrest⟩ := List.exists_cons_of_ne_nil (splitOn_ne_nil separator back)
  have hfirst : first.isBlank = true :=
    isBlank_of_mem_splitOn hback (hrest ▸ List.mem_cons_self ..)
  rw [splitOn_append hinit hrest]
  rw [hinit] at h
  rcases List.mem_append.mp h with h | h
  · exact ⟨line, by simp [h], rfl⟩
  · rw [List.mem_singleton.mp h]
    exact ⟨last ++ first, by simp, trim_append_right hfirst last⟩

/-- Each piece of a trimmed text is a piece of the text, up to blanks. -/
theorem exists_piece_of_mem_splitOn_trim {separator : CodePoint}
    (h : line ∈ t.trim.splitOn separator) :
    ∃ piece ∈ t.splitOn separator, piece.trim = line.trim := by
  obtain ⟨front, back, hfront, hback, ht⟩ := exists_blanks_trim t
  obtain ⟨inner, hinner, hline⟩ := exists_piece_append_right hback h
  obtain ⟨piece, hpiece, hsame⟩ := exists_piece_append_left hfront hinner
  rw [← ht] at hpiece
  exact ⟨piece, hpiece, hsame.trans hline⟩

/-- The example has no outer blanks. -/
theorem trim_findExample (lines : List Text) (start : Nat) :
    (findExample lines start).value.trim = (findExample lines start).value := by
  obtain ⟨code, -, -, hvalue⟩ := exists_code_of_findExample lines start
  rw [hvalue, trim_trim]

/-- The pieces of joined lines of code are these lines, or there is no code. -/
theorem isFence_of_mem_splitOn_join {code : List Text} (hunbroken : ∀ l ∈ code, l.IsUnbroken)
    (hcode : ∀ l ∈ code, isFence l = false)
    (hline : line ∈ (join "\n" code).splitOn (.scalar '\n')) : isFence line = false := by
  cases code with
  | nil =>
    rw [List.mem_singleton.mp hline]
    decide
  | cons first others =>
    have hnewline : ("\n" : Text) = [CodePoint.scalar '\n'] := by decide
    have hpieces : ∀ l ∈ first :: others, CodePoint.scalar '\n' ∉ l := by
      intro l hl hmem
      have hbreak := hunbroken l hl _ hmem
      cases hbreak
    rw [hnewline, splitOn_eq_iff.mpr ⟨List.cons_ne_nil first others, hpieces, rfl⟩] at hline
    exact hcode line hline

/-- The example is the code between two fences, so no line of it is a fence. -/
theorem isFence_of_mem_findExample (hlines : ∀ line ∈ lines, line.IsUnbroken)
    (hline : line ∈ (findExample lines start).value.splitOn (.scalar '\n')) :
    isFence line = false := by
  obtain ⟨code, hcode, hfences, hvalue⟩ := exists_code_of_findExample lines start
  rw [hvalue] at hline
  obtain ⟨piece, hpiece, htrim⟩ := exists_piece_of_mem_splitOn_trim hline
  -- Whether a line is a fence is seen from the trimmed line, and the piece has the same one.
  rw [isFence, ← htrim]
  exact isFence_of_mem_splitOn_join (fun l hl => hlines l (hcode hl)) hfences hpiece

/-! ### The whole page -/

/-- Extraction gives every page this shape. -/
theorem extract_isTidy (t : Text) : (extract t).IsTidy := by
  have hspace : IsUnbroken " " := by decide
  have hstops : IsUnbroken ellipsis := by decide
  have hlines : ∀ line ∈ t.lines, line.IsUnbroken := fun line => isUnbroken_of_mem_lines
  have htitle : (findTitle t.lines 0).value.IsUnbroken := satisfies_findTitle hlines
  have hdescription : (readDescription t.lines (titleEnd t.lines)).value.IsUnbroken :=
    satisfies_readDescription hspace hlines
  rw [extract_eq]
  constructor <;> dsimp only
  · exact ⟨trim_findTitle t.lines 0, htitle⟩
  · exact ⟨trim_readDescription t.lines _, hdescription⟩
  · exact satisfies_summarize hstops hdescription htitle
  · exact summarize_ne_nil_iff
  · exact fun hne => length_summarize_le hne _
  · exact fun hnil => summarize_of_eq_nil hnil _
  · exact isTidyCell_of_mem_rows hlines
  · exact trim_findExample t.lines _
  · exact fun line => isFence_of_mem_findExample hlines

end Page

end CommandDocs
