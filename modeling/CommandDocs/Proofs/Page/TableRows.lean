import CommandDocs.Proofs.Page.LineNumbers
import CommandDocs.Proofs.Text.Lines
import CommandDocs.Proofs.Text.Parts

/-!
# Rows of a syntax table

The table of a page is its first run of rows, and every data row contributes to the forms on its
own: one form when at least two of the pieces between its bars are not blank, and nothing
otherwise. Bold marks are removed from the two cells after they have been chosen. A cell that
holds nothing else is therefore chosen as well, and is empty in the form.
-/

namespace CommandDocs.Page

open Text

variable {line cell t : Text} {pieces : List Text} {row : SyntaxRow}

/-! ### Cells without bold marks -/

/-- Without pairs of asterisks a text is part of what it was. -/
theorem withoutPairedAsterisks_subset (t : Text) : withoutPairedAsterisks t ⊆ t := by
  fun_induction withoutPairedAsterisks t with
  | case1 => exact List.nil_subset _
  | case2 rest ih => exact fun d hd => List.mem_cons_of_mem _ (List.mem_cons_of_mem _ (ih hd))
  | case3 c rest _ ih => exact List.cons_subset_cons _ ih

/-- What begins with an asterisk when the pairs are removed began with one before. -/
theorem exists_asterisk_of_withoutPairedAsterisks {more : Text}
    (h : withoutPairedAsterisks t = .scalar '*' :: more) : ∃ rest, t = .scalar '*' :: rest := by
  rw [withoutPairedAsterisks.eq_def] at h
  split at h
  · cases h
  · exact ⟨_, rfl⟩
  · exact ⟨_, by rw [(List.cons.inj h).1]⟩

/-- Removing the pairs from the left brings no two asterisks together. -/
theorem hasInfix_withoutPairedAsterisks (t : Text) :
    hasInfix boldMark (withoutPairedAsterisks t) = false := by
  fun_induction withoutPairedAsterisks t with
  | case1 => decide
  | case2 rest ih => exact ih
  | case3 c rest hpair ih =>
    rw [hasInfix, ih, Bool.or_false, Bool.eq_false_iff]
    intro hmark
    -- The second asterisk would be the first one of the rest, and would have been removed.
    obtain ⟨more, hmore⟩ := List.isPrefixOf_iff_prefix.mp hmark
    obtain ⟨hc, hsecond⟩ := List.cons.inj hmore
    obtain ⟨others, rfl⟩ := exists_asterisk_of_withoutPairedAsterisks hsecond.symm
    exact hpair others hc.symm rfl

/-- A cell of a form has code points of its cell on the page. -/
theorem plainCell_subset (cell : Text) : plainCell cell ⊆ cell :=
  List.Subset.trans (trim_subset _) (withoutPairedAsterisks_subset cell)

/-- It has no outer blanks. -/
theorem trim_plainCell (cell : Text) : (plainCell cell).trim = plainCell cell := trim_trim _

/-- It holds no bold mark. -/
theorem hasInfix_plainCell (cell : Text) : hasInfix boldMark (plainCell cell) = false := by
  rw [Bool.eq_false_iff]
  intro hmark
  obtain ⟨front, back, -, -, hparts⟩ := exists_blanks_trim (withoutPairedAsterisks cell)
  have hinfix : plainCell cell <:+: withoutPairedAsterisks cell :=
    ⟨front, back, by rw [List.append_assoc]; exact hparts.symm⟩
  have hbold := hasInfix_iff.mpr ((hasInfix_iff.mp hmark).trans hinfix)
  rw [hasInfix_withoutPairedAsterisks] at hbold
  cases hbold

/-- Nothing but blanks and bold marks. -/
inductive IsMarkupOnly : Text → Prop
  /-- The empty text. -/
  | nil : IsMarkupOnly []
  /-- A blank in front. -/
  | blank {c : CodePoint} {rest : Text} (hc : c.isBlank = true) (h : IsMarkupOnly rest) :
      IsMarkupOnly (c :: rest)
  /-- A bold mark in front. -/
  | mark {rest : Text} (h : IsMarkupOnly rest) :
      IsMarkupOnly (.scalar '*' :: .scalar '*' :: rest)

/-- Only such a text is blank without its pairs of asterisks. -/
theorem isBlank_withoutPairedAsterisks_iff (t : Text) :
    (withoutPairedAsterisks t).isBlank = true ↔ IsMarkupOnly t := by
  fun_induction withoutPairedAsterisks t with
  | case1 => exact ⟨fun _ => .nil, fun _ => rfl⟩
  | case2 rest ih =>
    rw [ih]
    constructor
    · exact .mark
    · intro h
      cases h with
      | blank hc _ => exact absurd hc (by decide)
      | mark h => exact h
  | case3 c rest hpair ih =>
    rw [isBlank, List.all_cons, Bool.and_eq_true, ← isBlank, ih]
    constructor
    · exact fun h => .blank h.1 h.2
    · intro h
      cases h with
      | blank hc h => exact ⟨hc, h⟩
      | mark _ => exact (hpair _ rfl rfl).elim

instance (t : Text) : Decidable (IsMarkupOnly t) :=
  decidable_of_iff _ (isBlank_withoutPairedAsterisks_iff t)

/-- A cell is empty in a form when it holds nothing but blanks and bold marks. -/
theorem plainCell_eq_nil_iff : plainCell cell = [] ↔ IsMarkupOnly cell := by
  rw [← isBlank_withoutPairedAsterisks_iff]
  exact ⟨isBlank_of_trim, trim_of_isBlank⟩

/-! ### What a row contributes -/

/-- The cells of a form are the first two on its row. -/
theorem syntaxRow?_eq_some_iff :
    syntaxRow? line = some row ↔ ∃ form description others,
      cells line = form :: description :: others ∧
        row = ⟨plainCell form, plainCell description⟩ := by
  rw [syntaxRow?]
  split
  · rename_i form description others hcells
    constructor
    · rintro ⟨⟩
      exact ⟨form, description, others, hcells, rfl⟩
    · rintro ⟨form', description', others', hsame, rfl⟩
      rw [hcells] at hsame
      cases hsame
      rfl
  · rename_i hfew
    constructor
    · rintro ⟨⟩
    · rintro ⟨form, description, others, hcells, -⟩
      exact (hfew form description others hcells).elim

/-- The pieces of a line between its bars. -/
structure IsDivided (line : Text) (pieces : List Text) : Prop where
  /-- There is at least one piece. -/
  ne_nil : pieces ≠ []
  /-- No piece holds a bar. -/
  separated : ∀ piece ∈ pieces, cellBar ∉ piece
  /-- With a bar between neighbours the pieces are the line. -/
  joined : join [cellBar] pieces = line

/-- A line has only these pieces. -/
theorem isDivided_iff : IsDivided line pieces ↔ line.splitOn cellBar = pieces := by
  rw [splitOn_eq_iff]
  exact ⟨fun h => ⟨h.ne_nil, h.separated, h.joined⟩, fun h => ⟨h.1, h.2.1, h.2.2⟩⟩

/-- What a data row contributes to the forms. -/
inductive Contributes (line : Text) : List SyntaxRow → Prop
  /-- The first two pieces that are not blank give a form, whatever stands behind them. -/
  | form {before between after : List Text} {form description : Text}
      (hdivided : IsDivided line (before ++ form :: (between ++ description :: after)))
      (hbefore : ∀ piece ∈ before, piece.isBlank = true) (hform : form.isBlank = false)
      (hbetween : ∀ piece ∈ between, piece.isBlank = true)
      (hdescription : description.isBlank = false) :
      Contributes line [⟨plainCell form.trim, plainCell description.trim⟩]
  /-- Fewer than two such pieces give nothing. -/
  | nothing {pieces : List Text} (hdivided : IsDivided line pieces)
      (hfew : (pieces.filter (!·.isBlank)).length < 2) : Contributes line []

/-- The cells of a line are those of its pieces that are not blank. -/
theorem cells_of_isDivided (h : IsDivided line pieces) :
    cells line = (pieces.filter (!·.isBlank)).map (·.trim) := by
  rw [cells, isDivided_iff.mp h]

/-- The first nonblank piece of some. -/
theorem filter_append_cons {before after : List Text} {piece : Text}
    (hbefore : ∀ l ∈ before, l.isBlank = true) (hpiece : piece.isBlank = false) :
    (before ++ piece :: after).filter (!·.isBlank) = piece :: after.filter (!·.isBlank) := by
  have hnone : before.filter (!·.isBlank) = [] := by
    rw [List.filter_eq_nil_iff]
    intro l hl
    simp [hbefore l hl]
  rw [List.filter_append, hnone, List.nil_append, List.filter_cons_of_pos (by simp [hpiece])]

/-- A data row contributes what is read from it. -/
theorem contributes_syntaxRow? (line : Text) : Contributes line (syntaxRow? line).toList := by
  have hdivided : IsDivided line (line.splitOn cellBar) := isDivided_iff.mpr rfl
  rw [syntaxRow?, cells_of_isDivided hdivided]
  cases hfilter : (line.splitOn cellBar).filter (!·.isBlank) with
  | nil => exact .nothing hdivided (by simp [hfilter])
  | cons form others =>
    cases others with
    | nil => exact .nothing hdivided (by simp [hfilter])
    | cons description others =>
      obtain ⟨before, rest, hsplit, hbefore, hform, hrest⟩ := List.filter_eq_cons_iff.mp hfilter
      obtain ⟨between, after, rfl, hbetween, hdescription, -⟩ := List.filter_eq_cons_iff.mp hrest
      rw [hsplit] at hdivided
      exact .form hdivided (by simpa using hbefore) (by simpa using hform)
        (by simpa using hbetween) (by simpa using hdescription)

/-- It contributes nothing else. -/
theorem Contributes.eq_syntaxRow? {rows : List SyntaxRow} (h : Contributes line rows) :
    (syntaxRow? line).toList = rows := by
  cases h with
  | form hdivided hbefore hform hbetween hdescription =>
    have hcells := cells_of_isDivided hdivided
    rw [filter_append_cons hbefore hform, filter_append_cons hbetween hdescription] at hcells
    rw [syntaxRow?, hcells]
    rfl
  | nothing hdivided hfew =>
    have hcells := cells_of_isDivided hdivided
    rw [Option.toList_eq_nil_iff, Option.eq_none_iff_forall_ne_some]
    intro row hrow
    obtain ⟨form, description, others, htwo, -⟩ := syntaxRow?_eq_some_iff.mp hrow
    have hlength := congrArg List.length (hcells.symm.trans htwo)
    simp only [List.length_map, List.length_cons] at hlength
    omega

/-! ### The forms of a table -/

/-- The cells of a line are not blank. -/
theorem isBlank_of_mem_cells (h : cell ∈ cells line) : cell.isBlank = false := by
  obtain ⟨piece, hpiece, rfl⟩ := List.mem_map.mp h
  have hkept : piece.isBlank = false := by simpa using (List.mem_filter.mp hpiece).2
  rw [Bool.eq_false_iff] at hkept ⊢
  intro hblank
  have hnil : piece.trim = [] := by rw [← trim_trim, trim_of_isBlank hblank]
  exact hkept (isBlank_of_trim hnil)

/-- What can be empty in the forms of a table. Each form is read from the first two cells of a data
row, neither of which is blank. A part of the form is empty exactly when its cell holds nothing but
blanks and bold marks. -/
theorem emptyCells_of_mem_syntaxRows {block : List Text} (h : row ∈ syntaxRows block) :
    ∃ line ∈ block.drop 2, ∃ form description others,
      cells line = form :: description :: others ∧
        (form.isBlank = false ∧ description.isBlank = false) ∧
        row = ⟨plainCell form, plainCell description⟩ ∧
        (row.form = [] ↔ IsMarkupOnly form) ∧
        (row.description = [] ↔ IsMarkupOnly description) := by
  obtain ⟨line, hline, hread⟩ := List.mem_filterMap.mp h
  obtain ⟨form, description, others, hcells, rfl⟩ := syntaxRow?_eq_some_iff.mp hread
  have hform : form ∈ cells line := by simp [hcells]
  have hdescription : description ∈ cells line := by simp [hcells]
  exact ⟨line, hline, form, description, others, hcells,
    ⟨isBlank_of_mem_cells hform, isBlank_of_mem_cells hdescription⟩, rfl, plainCell_eq_nil_iff,
    plainCell_eq_nil_iff⟩

/-- A table with a cell in bold type in which nothing is written. -/
def tableWithEmptyBold : List Text :=
  ["| Syntax | Description |", "|---|---|", "| **** | Runs the simulation. |",
    "| **run;** | ** Runs it. |"]

/-- The other row of this table has no such cell. -/
theorem emptyCells_tableWithEmptyBold :
    ⟨"run;", "Runs it."⟩ ∈ syntaxRows tableWithEmptyBold ∧
      ∃ line ∈ tableWithEmptyBold.drop 2, ∃ form description others,
        cells line = form :: description :: others ∧
          (form.isBlank = false ∧ description.isBlank = false) ∧
          (⟨"run;", "Runs it."⟩ : SyntaxRow) = ⟨plainCell form, plainCell description⟩ ∧
          (("run;" : Text) = [] ↔ IsMarkupOnly form) ∧
          (("Runs it." : Text) = [] ↔ IsMarkupOnly description) := by
  have hrow : ⟨"run;", "Runs it."⟩ ∈ syntaxRows tableWithEmptyBold := by decide
  exact ⟨hrow, emptyCells_of_mem_syntaxRows hrow⟩

/-- The cell with nothing in bold type is not blank, so its row counts, with an empty form. -/
theorem form_of_tableWithEmptyBold :
    ⟨[], "Runs the simulation."⟩ ∈ syntaxRows tableWithEmptyBold := by
  decide

/-- Rows that stand behind each other contribute one after the other. -/
theorem syntaxRows_append (header separator : Text) (xs ys : List Text) :
    syntaxRows (header :: separator :: (xs ++ ys)) =
      syntaxRows (header :: separator :: xs) ++ syntaxRows (header :: separator :: ys) :=
  List.filterMap_append

/-- The only row of a table contributes its form, if it has one. -/
theorem syntaxRows_singleton (header separator line : Text) :
    syntaxRows [header, separator, line] = (syntaxRow? line).toList := by
  rw [syntaxRows, List.drop_succ_cons, List.drop_succ_cons, List.drop_zero]
  cases hrow : syntaxRow? line <;> simp [hrow]

/-- The table of a page is exact. The block that is found is the first run of rows from the start
on, all of it and nothing else, and none is found exactly when no line from the start on is a row.
Behind the header and the separator the data rows contribute one after the other and each for
itself: a row with at least two cells that are not blank its one form, any other row nothing. -/
theorem table_exact :
    (∀ lines start,
      (∀ block j, findTableBlock lines start = ⟨some block, j⟩ ↔
        ∃ i, IsFirstRun lines start i j ∧ block = lines.extract i j) ∧
      (findTableBlock lines start = ⟨none, start⟩ ↔
        ∀ k line, start ≤ k → lines[k]? = some line → isTableRow line = false)) ∧
    ∀ header separator,
      (∀ xs ys, syntaxRows (header :: separator :: (xs ++ ys)) =
        syntaxRows (header :: separator :: xs) ++ syntaxRows (header :: separator :: ys)) ∧
      ∀ line rows, syntaxRows [header, separator, line] = rows ↔ Contributes line rows := by
  refine ⟨fun lines start => ⟨fun block j => findTableBlock_eq_some_iff,
    findTableBlock_eq_none_iff⟩, fun header separator =>
      ⟨syntaxRows_append header separator, fun line rows => ?_⟩⟩
  rw [syntaxRows_singleton]
  constructor
  · rintro rfl
    exact contributes_syntaxRow? line
  · exact fun h => h.eq_syntaxRow?

end CommandDocs.Page
