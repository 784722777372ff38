import CommandDocs.Proofs.Page.Layout

/-!
# Reading a written page

Extraction is a left inverse of writing a page zone by zone. Each reader is taken in
turn: from the first line behind the zone before it, it finds the content of its own
zone and hands on the first line behind it, whichever zones are absent.
-/

namespace CommandDocs.Page

open Text

variable {page : Layout} {ls gap : List Text} {start : Nat}

/-! ### Marks of single lines -/

/-- A mark at the beginning of a line is still there when the line is trimmed. -/
theorem startsWith_trim {line : Text} {c : CodePoint} (hc : c.isBlank = false)
    (h : line.startsWith [c] = true) : line.trim.startsWith [c] = true := by
  cases line with
  | nil => cases h
  | cons d rest =>
    have hd : c = d := by simpa [startsWith] using h
    rw [hd] at hc ⊢
    obtain ⟨more, hmore⟩ := trim_cons hc rest
    rw [hmore]
    simp [startsWith]

/-- A heading line is recognized. -/
theorem isHeading_line {h : Heading} (hlevel : 1 ≤ h.level) : isHeading h.line = true := by
  refine startsWith_trim (c := .scalar '#') (by decide) ?_
  obtain ⟨k, hk⟩ : ∃ k, h.level = k + 1 := ⟨h.level - 1, by omega⟩
  simp [Heading.line, hk, List.replicate_succ, startsWith]

/-- The text of a heading line is read back. -/
theorem headingText_line {h : Heading} (hlevel : 1 ≤ h.level) (htrim : h.text.trim = h.text)
    (hne : h.text ≠ []) : headingText h.line = h.text := by
  have hsigns : h.line.trim = h.line := by
    obtain ⟨k, hk⟩ : ∃ k, h.level = k + 1 := ⟨h.level - 1, by omega⟩
    have hstart : h.line.trimStart = h.line := by
      rw [Heading.line, hk, List.replicate_succ, List.cons_append]
      exact trimStart_cons (by decide) _
    have hend := trimEnd_append_self (trimEnd_of_trim htrim) hne
      (List.replicate h.level (CodePoint.scalar '#') ++ [CodePoint.scalar ' '])
    rw [List.append_assoc, List.singleton_append] at hend
    rw [trim, hstart]
    exact hend
  have hdrop : h.line.dropStartWhile (· == CodePoint.scalar '#') =
      CodePoint.scalar ' ' :: h.text := by
    rw [dropStartWhile, Heading.line, List.dropWhile_append_of_pos]
    · exact List.dropWhile_cons_of_neg (by decide)
    · intro c hc
      rw [List.eq_of_mem_replicate hc]
      decide
  rw [headingText, hsigns, hdrop, ← List.singleton_append, trim_append_left (by decide), htrim]

/-- Prose ends no paragraph. -/
theorem IsProseLine.endsParagraph {line : Text} (h : IsProseLine line) :
    endsParagraph line = false := by
  obtain ⟨htrim, hne, hrow, hfence, hlabel⟩ := h
  simp only [Page.endsParagraph, isTableRow, isFence, htrim, hrow, hfence, hlabel,
    isBlank_eq_false_of_trim htrim hne, Bool.or_self]

/-! ### Rows -/

/-- A text without bold marks has no pair of asterisks to lose. -/
theorem withoutPairedAsterisks_of_plain {t : Text} (h : hasInfix boldMark t = false) :
    withoutPairedAsterisks t = t := by
  induction t with
  | nil => rfl
  | cons c rest ih =>
    rw [hasInfix, Bool.or_eq_false_iff] at h
    rw [withoutPairedAsterisks.eq_3, ih h.2]
    intro more hc hrest
    subst hc
    subst hrest
    exact absurd h.1 (by simp [boldMark, ofString])

/-- A plain cell is left as it is. -/
theorem IsPlainCell.plainCell {cell : Text} (h : IsPlainCell cell) : plainCell cell = cell := by
  rw [Page.plainCell, withoutPairedAsterisks_of_plain h.2.2.2, h.1]

/-- The form on a written row is read back. -/
theorem syntaxRow?_rowLine {row : SyntaxRow} (hform : IsPlainCell row.form)
    (hdesc : IsPlainCell row.description) : syntaxRow? (rowLine row) = some row := by
  have hspaced : ∀ cell, IsPlainCell cell →
      cellBar ∉ (CodePoint.scalar ' ' :: cell ++ [CodePoint.scalar ' ']) ∧
        trim (CodePoint.scalar ' ' :: cell ++ [CodePoint.scalar ' ']) = cell := by
    intro cell hcell
    constructor
    · simp only [List.mem_append, List.mem_cons, List.not_mem_nil, or_false, not_or]
      exact ⟨⟨by decide, hcell.2.2.1⟩, by decide⟩
    · rw [trim_append_right (by decide), ← List.singleton_append, trim_append_left (by decide)]
      exact hcell.1
  have hkept : ∀ cell, IsPlainCell cell →
      isBlank (CodePoint.scalar ' ' :: cell ++ [CodePoint.scalar ' ']) = false := by
    intro cell hcell
    by_contra hcon
    rw [Bool.not_eq_false] at hcon
    exact hcell.2.1 (((hspaced cell hcell).2).symm.trans (trim_of_isBlank hcon))
  have hline : rowLine row = [] ++ cellBar ::
      ((CodePoint.scalar ' ' :: row.form ++ [CodePoint.scalar ' ']) ++ cellBar ::
        ((CodePoint.scalar ' ' :: row.description ++ [CodePoint.scalar ' ']) ++
          cellBar :: [])) := by
    simp [rowLine, cellBar, ofString]
  have hcells : cells (rowLine row) = [row.form, row.description] := by
    rw [cells, hline, splitOn_append_separator (by simp),
      splitOn_append_separator (hspaced _ hform).1, splitOn_append_separator (hspaced _ hdesc).1]
    have hnil : splitOn cellBar [] = [[]] := rfl
    have hblank : isBlank [] = true := rfl
    simp only [hnil, List.filter_cons, hblank, hkept _ hform, hkept _ hdesc, Bool.not_true,
      Bool.not_false, Bool.false_eq_true, reduceIte, List.filter_nil, List.map_cons, List.map_nil,
      (hspaced _ hform).2, (hspaced _ hdesc).2]
  simp only [syntaxRow?, hcells, hform.plainCell, hdesc.plainCell]

/-- The forms of a written table are read back. -/
theorem syntaxRows_tableZone {table : TableLayout}
    (hcells : ∀ row ∈ table.rows, IsPlainCell row.form ∧ IsPlainCell row.description) :
    syntaxRows (table.header :: table.separator :: table.rows.map rowLine) = table.rows := by
  rw [syntaxRows, List.drop_succ_cons, List.drop_succ_cons, List.drop_zero]
  generalize table.rows = rows at hcells
  induction rows with
  | nil => rfl
  | cons row rest ih =>
    have hrow := hcells row (List.mem_cons_self ..)
    rw [List.map_cons, List.filterMap_cons, syntaxRow?_rowLine hrow.1 hrow.2,
      ih fun r hr => hcells r (List.mem_cons_of_mem _ hr)]

/-! ### Blank lines between the zones -/

/-- Lines that are written between two zones: empty ones. -/
def IsGap (gap : List Text) : Prop := ∀ line ∈ gap, line = []

/-- Without the last of its lines, a zone and what follows it are the zone, a gap, and
the rest without the last of its lines. The gap separates the zone from the rest. -/
theorem exists_gap (zone rest : List Text) :
    ∃ gap, IsGap gap ∧ (zoneLines zone ++ rest).dropLast = zone ++ (gap ++ rest.dropLast) ∧
      (zone = [] → gap = []) ∧
      (zone ≠ [] → ∀ line ∈ (gap ++ rest.dropLast).head?, line = []) := by
  by_cases hz : zone = []
  · refine ⟨[], ?_, ?_, fun _ => rfl, fun h => absurd hz h⟩
    · simp [IsGap]
    · simp [zoneLines, hz]
  · have hlines : zoneLines zone = zone ++ [[]] := by simp [zoneLines, hz]
    by_cases hr : rest = []
    · refine ⟨[], ?_, ?_, fun _ => rfl, ?_⟩
      · simp [IsGap]
      · rw [hlines, hr, List.append_nil, List.dropLast_concat]
        simp
      · simp [hr]
    · refine ⟨[[]], ?_, ?_, fun h => absurd h hz, ?_⟩
      · simp [IsGap]
      · rw [hlines, List.dropLast_append_of_ne_nil hr, List.append_assoc]
      · simp

/-- A zone without the blank line behind it. -/
theorem dropLast_zoneLines (zone : List Text) : (zoneLines zone).dropLast = zone := by
  cases zone with
  | nil => rfl
  | cons line more => exact List.dropLast_concat

/-- A line of a gap is blank, and it is neither a row nor a label. -/
theorem IsGap.forall_eq_false {p : Text → Bool} (hgap : IsGap gap) (hp : p [] = false) :
    ∀ line ∈ gap, p line = false := by
  intro line hline
  rw [hgap line hline, hp]

/-- The lines of a gap are blank. -/
theorem IsGap.isBlank (hgap : IsGap gap) : ∀ line ∈ gap, line.isBlank = true := by
  intro line hline
  rw [hgap line hline]
  rfl

/-! ### One reader after the other -/

/-- The title is read, and the description is looked for behind it. -/
theorem findTitle_lines (hpage : page.IsReadable) :
    (findTitle page.lines.dropLast 0).value = (page.title.map Heading.text).getD [] ∧
      ∃ gap, IsGap gap ∧
        page.lines.dropLast.drop (findTitle page.lines.dropLast 0).next =
          gap ++ page.afterTitle.dropLast := by
  obtain ⟨gap, hgap, hlines, habsent, -⟩ := exists_gap page.titleZone page.afterTitle
  cases ht : page.title with
  | none =>
    have hno : ∀ line ∈ page.lines.dropLast.drop 0, isHeading line = false := by
      intro line hline
      exact hpage.untitled ht line (List.dropLast_subset _ (List.mem_of_mem_drop hline))
    have hzone : page.titleZone = [] := by simp [Layout.titleZone, ht]
    rw [findTitle_of_forall_not hno]
    refine ⟨rfl, gap, hgap, ?_⟩
    rw [List.drop_zero, Layout.lines, hlines, hzone, List.nil_append]
  | some heading =>
    obtain ⟨hlevel, htrim, hne⟩ := hpage.title heading ht
    have hzone : page.titleZone = [heading.line] := by simp [Layout.titleZone, ht]
    have hdrop : page.lines.dropLast.drop 0 =
        [] ++ heading.line :: (gap ++ page.afterTitle.dropLast) := by
      rw [List.drop_zero, Layout.lines, hlines, hzone, List.singleton_append, List.nil_append]
    rw [findTitle_of_heading hdrop (by simp) (isHeading_line hlevel)]
    refine ⟨headingText_line hlevel htrim hne, gap, hgap, ?_⟩
    have hsplit : page.lines.dropLast.drop 0 =
        [heading.line] ++ (gap ++ page.afterTitle.dropLast) := by
      rw [hdrop, List.singleton_append, List.nil_append]
    exact drop_add_length hsplit

/-- The first line behind an absent description ends every paragraph and is not blank:
it belongs to a table or to an example. -/
theorem head?_afterDescription (hpage : page.IsReadable) (hd : page.description = []) :
    ∀ line ∈ page.afterDescription.dropLast.head?,
      endsParagraph line = true ∧ line.isBlank = false := by
  obtain ⟨gap, -, hlines, habsent, -⟩ := exists_gap page.tableZone page.afterTable
  rw [Layout.afterDescription, hlines]
  cases ht : page.table with
  | some table =>
    have hrow : isTableRow table.header = true :=
      startsWith_trim (by decide) (hpage.table table ht).1
    have hzone : page.tableZone = table.header :: table.separator :: table.rows.map rowLine := by
      simp [Layout.tableZone, ht]
    intro line hline
    rw [hzone, List.cons_append, List.head?_cons, Option.mem_some_iff] at hline
    rw [← hline]
    refine ⟨by simp [endsParagraph, hrow], ?_⟩
    by_contra hcon
    rw [Bool.not_eq_false] at hcon
    rw [isTableRow, trim_of_isBlank hcon] at hrow
    cases hrow
  | none =>
    have hzone : page.tableZone = [] := by simp [Layout.tableZone, ht]
    rw [hzone, habsent hzone, List.nil_append, List.nil_append]
    obtain ⟨gap, -, hlines, habsent, -⟩ := exists_gap page.exampleZone (zoneLines page.linksZone)
    rw [Layout.afterTable, hlines]
    cases he : page.exampleCode with
    | some code =>
      have hzone : page.exampleZone = exampleLabel :: codeFence :: (code ++ [codeFence]) := by
        simp [Layout.exampleZone, he]
      intro line hline
      rw [hzone, List.cons_append, List.head?_cons, Option.mem_some_iff] at hline
      rw [← hline]
      decide
    | none =>
      have hzone : page.exampleZone = [] := by simp [Layout.exampleZone, he]
      have hlinks : page.links = none := by
        simpa [ht, he] using hpage.undescribed hd
      simp [hzone, habsent hzone, Layout.linksZone, hlinks, zoneLines]

/-- The description is read, and the table is looked for behind it. -/
theorem readDescription_lines (hpage : page.IsReadable) (hgap : IsGap gap)
    (hdrop : ls.drop start = gap ++ page.afterTitle.dropLast) :
    (readDescription ls start).value = Text.join " " page.description ∧
      ∃ gap, IsGap gap ∧
        ls.drop (readDescription ls start).next = gap ++ page.afterDescription.dropLast := by
  obtain ⟨between, hbetween, hlines, habsent, hpresent⟩ :=
    exists_gap page.description page.afterDescription
  have hparts : ls.drop start =
      gap ++ (page.description ++ (between ++ page.afterDescription.dropLast)) := by
    rw [hdrop, Layout.afterTitle, hlines]
  have hends : ∀ line ∈ (between ++ page.afterDescription.dropLast).head?,
      endsParagraph line = true := by
    by_cases hd : page.description = []
    · rw [habsent hd, List.nil_append]
      exact fun line hline => (head?_afterDescription hpage hd line hline).1
    · intro line hline
      rw [hpresent hd line hline]
      decide
  have hkept : page.description = [] →
      ∀ line ∈ (between ++ page.afterDescription.dropLast).head?, line.isBlank = false := by
    intro hd
    rw [habsent hd, List.nil_append]
    exact fun line hline => (head?_afterDescription hpage hd line hline).2
  have hprose : page.description.map (·.trim) = page.description := by
    rw [List.map_congr_left fun line hline => (hpage.description line hline).1, List.map_id']
  rw [readDescription_of_paragraph hparts hgap.isBlank
    (fun line hline => (hpage.description line hline).endsParagraph) hends hkept, hprose]
  refine ⟨rfl, between, hbetween, ?_⟩
  exact drop_add_length (drop_add_length hparts)

/-- The table is read, and the example is looked for behind it or, without a table,
from where the table was looked for. -/
theorem findTableBlock_lines (hpage : page.IsReadable) (hgap : IsGap gap)
    (hdrop : ls.drop start = gap ++ page.afterDescription.dropLast) :
    syntaxRows ((findTableBlock ls start).value.getD []) =
        (page.table.map TableLayout.rows).getD [] ∧
      ∃ gap, IsGap gap ∧
        ls.drop (if (findTableBlock ls start).value.isSome then (findTableBlock ls start).next
          else start) = gap ++ page.afterTable.dropLast := by
  obtain ⟨between, hbetween, hlines, habsent, hpresent⟩ :=
    exists_gap page.tableZone page.afterTable
  cases ht : page.table with
  | none =>
    have hzone : page.tableZone = [] := by simp [Layout.tableZone, ht]
    have hrest : ls.drop start = gap ++ page.afterTable.dropLast := by
      rw [hdrop, Layout.afterDescription, hlines, hzone, habsent hzone]
      rfl
    have hno : ∀ line ∈ ls.drop start, isTableRow line = false := by
      intro line hline
      rw [hrest] at hline
      rcases List.mem_append.mp hline with hblank | hlater
      · exact hgap.forall_eq_false (by decide) line hblank
      · exact hpage.untabled ht line (List.dropLast_subset _ hlater)
    rw [findTableBlock_of_forall_not hno]
    exact ⟨rfl, gap, hgap, hrest⟩
  | some table =>
    have hzone : page.tableZone = table.header :: table.separator :: table.rows.map rowLine := by
      simp [Layout.tableZone, ht]
    have hne : page.tableZone ≠ [] := by simp [hzone]
    have hparts : ls.drop start =
        gap ++ (page.tableZone ++ (between ++ page.afterTable.dropLast)) := by
      rw [hdrop, Layout.afterDescription, hlines]
    have hrows : ∀ line ∈ page.tableZone, isTableRow line = true := by
      intro line hline
      rw [hzone] at hline
      rcases List.mem_cons.mp hline with rfl | hline
      · exact startsWith_trim (by decide) (hpage.table table ht).1
      rcases List.mem_cons.mp hline with rfl | hline
      · exact startsWith_trim (by decide) (hpage.table table ht).2
      · obtain ⟨row, -, rfl⟩ := List.mem_map.mp hline
        exact startsWith_trim (c := cellBar) (by decide)
          (by simp [rowLine, startsWith, cellBar, ofString])
    have hends : ∀ line ∈ (between ++ page.afterTable.dropLast).head?,
        isTableRow line = false := by
      intro line hline
      rw [hpresent hne line hline]
      decide
    rw [findTableBlock_of_block hparts (hgap.forall_eq_false (by decide)) hrows hne hends]
    refine ⟨?_, between, hbetween, ?_⟩
    · rw [Option.getD_some, hzone]
      exact syntaxRows_tableZone (hpage.cells table ht)
    · exact drop_add_length (drop_add_length hparts)

/-- The example is read. -/
theorem findExample_lines (hpage : page.IsReadable) (hgap : IsGap gap)
    (hdrop : ls.drop start = gap ++ page.afterTable.dropLast) :
    (findExample ls start).value =
      Text.trim (Text.join "\n" (page.exampleCode.getD [])) := by
  obtain ⟨between, hbetween, hlines, habsent, -⟩ :=
    exists_gap page.exampleZone (zoneLines page.linksZone)
  cases he : page.exampleCode with
  | some code =>
    have hparts : ls.drop start = gap ++ exampleLabel :: ([] ++ codeFence ::
        (code ++ codeFence :: (between ++ (zoneLines page.linksZone).dropLast))) := by
      have hzone : page.exampleZone = exampleLabel :: codeFence :: (code ++ [codeFence]) := by
        simp [Layout.exampleZone, he]
      rw [hdrop, Layout.afterTable, hlines, hzone]
      simp
    rw [findExample_of_code hparts (hgap.forall_eq_false (by decide)) (by decide)
      (by simp) (by decide) (hpage.code code he) (by decide)]
    rfl
  | none =>
    have hzone : page.exampleZone = [] := by simp [Layout.exampleZone, he]
    have hrest : ls.drop start = gap ++ page.linksZone := by
      rw [hdrop, Layout.afterTable, hlines, hzone, habsent hzone, dropLast_zoneLines]
      rfl
    have hno : ¬HoldsExample (ls.drop start) := by
      intro hholds
      rw [hrest] at hholds
      exact hpage.unexampled he (hholds.of_append (hgap.forall_eq_false (by decide)))
    rw [findExample_of_not_holds hno]
    rfl

/-! ### The text as a whole -/

/-- A list of lines that is empty or ends in a blank line. -/
def EndsBlank (ls : List Text) : Prop := ls = [] ∨ ∃ init, ls = init ++ [[]]

/-- Each zone is written with a blank line at its end. -/
theorem endsBlank_zoneLines_append (zone : List Text) {rest : List Text} (hrest : EndsBlank rest) :
    EndsBlank (zoneLines zone ++ rest) := by
  rcases hrest with rfl | ⟨init, rfl⟩
  · by_cases hz : zone = []
    · exact Or.inl (by simp [zoneLines, hz])
    · exact Or.inr ⟨zone, by simp [zoneLines, hz]⟩
  · exact Or.inr ⟨zoneLines zone ++ init, by rw [List.append_assoc]⟩

/-- A page ends in a blank line. -/
theorem endsBlank_lines (page : Layout) : EndsBlank page.lines := by
  have hlinks := endsBlank_zoneLines_append page.linksZone (Or.inl rfl)
  rw [List.append_nil] at hlinks
  have hexample := endsBlank_zoneLines_append page.exampleZone hlinks
  have htable := endsBlank_zoneLines_append page.tableZone hexample
  have hdescription := endsBlank_zoneLines_append page.description htable
  exact endsBlank_zoneLines_append page.titleZone hdescription

/-- A page is its lines but the last, each with a newline. -/
theorem toText_eq_unlines (page : Layout) : page.toText = unlines page.lines.dropLast := by
  rw [Layout.toText]
  rcases endsBlank_lines page with hnil | ⟨init, hinit⟩
  · rw [hnil]
    rfl
  · rw [hinit, join_newline_concat, List.dropLast_concat]

/-- The lines of a written page. -/
theorem lines_toText (hpage : page.IsReadable) : page.toText.lines = page.lines.dropLast := by
  rw [toText_eq_unlines]
  exact lines_unlines fun line hline => hpage.unbroken line (List.dropLast_subset _ hline)

/-- A page is its part without the related links, and then these. -/
theorem lines_eq_append (page : Layout) :
    page.lines = page.withoutLinks.lines ++ zoneLines page.linksZone := by
  simp [Layout.lines, Layout.afterTitle, Layout.afterDescription, Layout.afterTable,
    Layout.withoutLinks, Layout.titleZone, Layout.tableZone, Layout.exampleZone,
    Layout.linksZone, zoneLines]

/-- The opening of the related links is found at once. -/
theorem findOpening_linksOpening (more : List Text) :
    findOpening true (unlines (linksOpening :: more)) = some 0 := by
  have hopening : findOpening true linksOpening = some 0 := by decide
  rw [unlines_cons, findOpening_append_newline (by decide), hopening]
  rfl

/-- A blank line at the end of a page is trimmed. -/
theorem trim_unlines_of_endsBlank {ls : List Text} (h : EndsBlank ls) :
    trim (unlines ls) = trim (unlines ls.dropLast) := by
  rcases h with rfl | ⟨init, rfl⟩
  · rfl
  · rw [List.dropLast_concat, unlines_append]
    exact trim_append_right (by decide) _

/-- The body is the page without the related links. -/
theorem withoutRelatedLinks_toText (hpage : page.IsReadable) :
    withoutRelatedLinks page.toText = page.content.body := by
  have hbroken : ∀ line ∈ page.withoutLinks.lines, newline ∉ line := by
    intro line hline hmem
    have hline' : line ∈ page.lines := by
      rw [lines_eq_append]
      exact List.mem_append_left _ hline
    exact absurd (hpage.unbroken line hline' _ hmem) (by decide)
  cases hl : page.links with
  | none =>
    have hsame : page.withoutLinks = page := by
      cases page
      rw [Layout.withoutLinks, ← hl]
    rw [hsame] at hbroken
    have hno := hpage.linkless
    rw [hsame] at hno
    have hunbroken : ∀ line ∈ page.lines.dropLast, newline ∉ line :=
      fun line hline => hbroken line (List.dropLast_subset _ hline)
    have hclosed : ∀ line ∈ page.lines.dropLast, findRelatedLinks line = none :=
      fun line hline => hno line (List.dropLast_subset _ hline)
    have hfind := findOpening_unlines_append hunbroken hclosed []
    rw [List.append_nil, ← toText_eq_unlines] at hfind
    have hnone : findRelatedLinks page.toText = none := hfind
    simp only [withoutRelatedLinks, hnone, Layout.content, hl, Option.isSome_none,
      Bool.false_eq_true, reduceIte]
  | some more =>
    have hzone : page.linksZone = linksOpening :: more := by simp [Layout.linksZone, hl]
    have htext : page.toText =
        unlines page.withoutLinks.lines ++ unlines (linksOpening :: more) := by
      have hne : zoneLines page.linksZone ≠ [] := by simp [hzone, zoneLines]
      rw [toText_eq_unlines, lines_eq_append, List.dropLast_append_of_ne_nil hne,
        dropLast_zoneLines, unlines_append, hzone]
    have hfind : findRelatedLinks page.toText =
        some (unlines page.withoutLinks.lines).length := by
      rw [htext, findRelatedLinks, findOpening_unlines_append hbroken hpage.linkless,
        findOpening_linksOpening]
      simp
    have hcut : page.toText.take (unlines page.withoutLinks.lines).length =
        unlines page.withoutLinks.lines := by
      rw [htext, List.take_left]
    simp only [withoutRelatedLinks, hfind, hcut, Layout.content, hl, Option.isSome_some,
      reduceIte]
    rw [trim_unlines_of_endsBlank (endsBlank_lines page.withoutLinks), ← toText_eq_unlines]

/-- Extraction reads from a written page the content of its zones. -/
theorem extract_toText (hpage : page.IsReadable) : extract page.toText = page.content := by
  obtain ⟨htitle, gap1, hgap1, hdrop1⟩ := findTitle_lines hpage
  obtain ⟨hdescription, gap2, hgap2, hdrop2⟩ := readDescription_lines hpage hgap1 hdrop1
  obtain ⟨htable, gap3, hgap3, hdrop3⟩ := findTableBlock_lines hpage hgap2 hdrop2
  have hexample := findExample_lines hpage hgap3 hdrop3
  have hbody := withoutRelatedLinks_toText hpage
  rw [extract, lines_toText hpage]
  simp only [htitle, hdescription, htable, hexample, hbody]
  rfl

/-- A page with every zone, in which earlier zones hold the marks of later ones. -/
def samplePage : Layout where
  title := some ⟨2, "# plot"⟩
  description := ["# Draws **Example** data.", "See also | bars"]
  table := some ⟨"| Syntax | Description |", "|---|---|",
    [⟨"plot(x);", "Draws x."⟩, ⟨"plot(x, y);", "```"⟩]⟩
  exampleCode := some ["", "plot(1:3);", "| no row", "# no title"]
  links := some ["| a | b |", "```", "**See Also**"]

/-- The sample page satisfies every condition on layouts. -/
theorem samplePage_isReadable : samplePage.IsReadable where
  unbroken := by decide
  title := by decide
  description := by decide
  table := by decide
  cells := by decide
  code := by decide
  untitled := by decide
  undescribed := by decide
  untabled := by decide
  unexampled := by rintro ⟨⟩
  linkless := by decide

/-- The sample page is read back. -/
theorem extract_samplePage :
    samplePage.IsReadable ∧ extract samplePage.toText = samplePage.content :=
  ⟨samplePage_isReadable, extract_toText samplePage_isReadable⟩

end CommandDocs.Page
