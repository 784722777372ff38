import CommandDocs.Page.Extraction
import CommandDocs.Proofs.Page.Texts

/-!
# Unicode pages

What is read from a page is cut out of the page, and put together with nothing but spaces,
newlines and full stops. A Unicode page therefore says nothing that is not Unicode.
-/

namespace CommandDocs

variable {lines : List Text} {start : Nat} {t : Text}

/-- All texts of a page are Unicode. -/
structure Page.Extraction.IsUnicode (page : Page.Extraction) : Prop where
  /-- The title is. -/
  title : page.title.IsUnicode
  /-- The description is. -/
  description : page.description.IsUnicode
  /-- The summary is. -/
  summary : page.summary.IsUnicode
  /-- The forms and what is said about them are. -/
  rows : ∀ row ∈ page.rows, row.form.IsUnicode ∧ row.description.IsUnicode
  /-- The example is. -/
  exampleCode : page.exampleCode.IsUnicode
  /-- The body is. -/
  body : page.body.IsUnicode

namespace Page

/-- The forms of a page have no texts but those of its lines. -/
theorem isUnicode_syntaxRows (hlines : ∀ line ∈ lines, line.IsUnicode) :
    ∀ row ∈ syntaxRows ((findTableBlock lines start).value.getD []),
      row.form.IsUnicode ∧ row.description.IsUnicode := by
  intro row hrow
  obtain ⟨line, hline, form, hform, description, hdescription, rfl⟩ :=
    exists_cells_of_mem_rows hrow
  have hcell : ∀ cell ∈ cells line, (plainCell cell).IsUnicode := fun cell =>
    satisfies_of_mem_cells fun c hc _ => hlines line hline c hc
  exact ⟨hcell form hform, hcell description hdescription⟩

/-- The body is part of the page, trimmed where it is cut. -/
theorem isUnicode_withoutRelatedLinks (ht : t.IsUnicode) : (withoutRelatedLinks t).IsUnicode := by
  rw [withoutRelatedLinks]
  split
  · exact ht
  · exact fun c hc => ht c (List.take_subset _ _ (Text.trim_subset _ hc))

/-- What a Unicode page says is Unicode. -/
theorem isUnicode_extract (ht : t.IsUnicode) : (extract t).IsUnicode := by
  have hlines : ∀ line ∈ t.lines, line.IsUnicode := fun line hline c hc =>
    ht c (Text.subset_of_mem_lines hline hc)
  have htitle : (findTitle t.lines 0).value.IsUnicode := satisfies_findTitle hlines
  have hdescription : (readDescription t.lines (findTitle t.lines 0).next).value.IsUnicode :=
    satisfies_readDescription (Text.isUnicode_ofString " ") hlines
  simp only [extract]
  constructor
  · exact htitle
  · exact hdescription
  · exact satisfies_summarize (Text.isUnicode_ofString "...") hdescription htitle
  · dsimp only
    exact isUnicode_syntaxRows hlines
  · dsimp only
    exact satisfies_findExample (Text.isUnicode_ofString "\n") hlines
  · exact isUnicode_withoutRelatedLinks ht

end Page

end CommandDocs
