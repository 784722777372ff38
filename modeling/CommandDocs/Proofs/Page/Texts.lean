import CommandDocs.Page.Description
import CommandDocs.Page.Title
import CommandDocs.Proofs.Page.TableRows

/-!
# Where the texts of a page come from

The title, the description, the forms and the example are cut out of the lines of a page, and put
together with nothing but spaces and newlines; a summary can have full stops behind it. What holds
of every code point of the lines, and of these, holds of every code point that is read.
-/

namespace CommandDocs.Page

open Text

variable {lines : List Text} {start : Nat} {P : CodePoint → Prop}

/-- The title has the code points of its line. -/
theorem satisfies_findTitle (hlines : ∀ line ∈ lines, line.Satisfies P) :
    (findTitle lines start).value.Satisfies P := by
  rw [findTitle]
  split
  · exact List.forall_mem_nil P
  · rename_i heading rest hbehind
    have hmem : heading ∈ lines :=
      List.mem_of_mem_drop (List.mem_of_mem_drop (hbehind ▸ List.mem_cons_self ..))
    have hsigns : heading.trim.dropStartWhile (· == CodePoint.scalar '#') ⊆ heading.trim :=
      (List.dropWhile_sublist _).subset
    have htext : headingText heading ⊆ heading :=
      List.Subset.trans (List.Subset.trans (trim_subset _) hsigns) (trim_subset heading)
    exact (hlines heading hmem).of_subset htext

/-- The description has the code points of its lines, and spaces. -/
theorem satisfies_readDescription (hspace : Satisfies P " ")
    (hlines : ∀ line ∈ lines, line.Satisfies P) :
    (readDescription lines start).value.Satisfies P := by
  refine satisfies_join hspace fun piece hpiece => ?_
  obtain ⟨line, hline, rfl⟩ := List.mem_map.mp hpiece
  have hmem : line ∈ lines :=
    List.mem_of_mem_drop (List.mem_of_mem_drop (List.takeWhile_subset _ hline))
  exact (hlines line hmem).of_subset (trim_subset line)

/-- A sentence that is cut is followed by full stops. -/
theorem satisfies_shorten {t : Text} (hstops : ellipsis.Satisfies P) (ht : t.Satisfies P) :
    (shorten t).Satisfies P := by
  rw [shorten]
  split
  · exact satisfies_append.mpr ⟨ht.of_subset (List.take_subset _ _), hstops⟩
  · exact ht

/-- The summary has the code points of the description and of the title. -/
theorem satisfies_summarize {description title : Text} (hstops : ellipsis.Satisfies P)
    (hdescription : description.Satisfies P) (htitle : title.Satisfies P) :
    (summarize description title).Satisfies P := by
  rw [summarize]
  split
  · exact htitle
  refine satisfies_shorten hstops ?_
  rw [firstSentence]
  split
  · split
    · exact hdescription
    · exact htitle
  · exact hdescription.of_subset (List.takeWhile_subset _)

/-- A cell has the code points of its row, without the bars. -/
theorem satisfies_of_mem_cells {line cell : Text} (hline : ∀ c ∈ line, c ≠ cellBar → P c)
    (hcell : cell ∈ cells line) : (plainCell cell).Satisfies P := by
  obtain ⟨piece, hpiece, rfl⟩ := List.mem_map.mp hcell
  have hmem : piece ∈ line.splitOn cellBar := (List.mem_filter.mp hpiece).1
  have hsubset : plainCell piece.trim ⊆ piece :=
    List.Subset.trans (plainCell_subset _) (trim_subset piece)
  intro c hc
  refine hline c (subset_of_mem_splitOn hmem (hsubset hc)) ?_
  rintro rfl
  exact not_mem_of_mem_splitOn hmem (hsubset hc)

/-- The rows of a table are lines of the page. -/
theorem subset_of_findTableBlock {block : List Text}
    (h : (findTableBlock lines start).value = some block) : block ⊆ lines := by
  rw [findTableBlock] at h
  split at h
  · cases h
  · cases h
    exact fun row hrow =>
      List.mem_of_mem_drop (List.mem_of_mem_drop (List.takeWhile_subset _ hrow))

/-- A form is read from two cells on one line of the page. -/
theorem exists_cells_of_mem_rows {row : SyntaxRow}
    (hrow : row ∈ syntaxRows ((findTableBlock lines start).value.getD [])) :
    ∃ line ∈ lines, ∃ form ∈ cells line, ∃ description ∈ cells line,
      row = ⟨plainCell form, plainCell description⟩ := by
  obtain ⟨line, hline, hread⟩ := List.mem_filterMap.mp hrow
  obtain ⟨form, description, others, hcells, rfl⟩ := syntaxRow?_eq_some_iff.mp hread
  refine ⟨line, ?_, form, by simp [hcells], description, by simp [hcells], rfl⟩
  cases hblock : (findTableBlock lines start).value with
  | none =>
    rw [hblock] at hline
    cases hline
  | some block =>
    rw [hblock] at hline
    exact subset_of_findTableBlock hblock (List.mem_of_mem_drop hline)

/-- The example is made of lines of the page between two fences, or of none. -/
theorem exists_code_of_findExample (lines : List Text) (start : Nat) :
    ∃ code, code ⊆ lines ∧ (∀ line ∈ code, isFence line = false) ∧
      (findExample lines start).value = Text.trim (join "\n" code) := by
  rcases findExample_cases lines start with ⟨-, hreading⟩ |
    ⟨before, label, between, opening, code, closing, rest, hparts, -, -, ⟨hcode, -⟩, hreading⟩
  · exact ⟨[], List.nil_subset _, List.forall_mem_nil _, by rw [hreading]; rfl⟩
  · refine ⟨code, fun line hline => ?_, hcode, by rw [hreading]⟩
    refine List.mem_of_mem_drop (i := start) ?_
    rw [hparts]
    simp [hline]

/-- The example has the code points of its lines, and newlines. -/
theorem satisfies_findExample (hnewline : Satisfies P "\n")
    (hlines : ∀ line ∈ lines, line.Satisfies P) :
    (findExample lines start).value.Satisfies P := by
  obtain ⟨code, hcode, -, hvalue⟩ := exists_code_of_findExample lines start
  have hjoin : (join "\n" code).Satisfies P :=
    satisfies_join hnewline fun line hline => hlines line (hcode hline)
  rw [hvalue]
  exact hjoin.of_subset (trim_subset _)

end CommandDocs.Page
