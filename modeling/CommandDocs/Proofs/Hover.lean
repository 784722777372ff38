import CommandDocs.Hover
import CommandDocs.Proofs.Page.RoundTrip
import CommandDocs.Proofs.Page.Shape
import CommandDocs.Proofs.Text.EndedLines

/-!
# What a hover page reads back as

The page that is laid out for a command holds its example between two fences and its forms in a
table. Every part of the page ends in a newline, so that the lines of the parts follow each other
unchanged, whichever of them are missing. An example that was read from a page has no line that
looks like a fence; put between fences once more it is read back as it is. The table is the first
one on the page when nothing before it opens with a bar, and its rows are the forms.
-/

namespace CommandDocs

open Text

namespace Page

variable {lines : List Text} {start : Nat} {code : Text}

/-! ### Code between fences -/

/-- Code that a fenced block can hold. -/
structure IsCode (code : Text) : Prop where
  /-- It has no outer blanks. -/
  trimmed : code.trim = code
  /-- Nothing but newlines stands between its lines. -/
  joined : Text.join "\n" code.lines = code
  /-- No line of it is a fence. -/
  unfenced : ∀ line ∈ code.lines, isFence line = false

/-- The example of a page is such code. -/
theorem isCode_findExample (hlines : ∀ line ∈ lines, line.IsUnbroken) :
    IsCode (findExample lines start).value := by
  have htrim := trim_findExample lines start
  have hfences : ∀ line ∈ (findExample lines start).value.splitOn (.scalar '\n'),
      isFence line = false := fun line => isFence_of_mem_findExample hlines
  have hbreaks : (findExample lines start).value.Satisfies
      fun c => c = .scalar '\n' ∨ c.isLineBreak = false := by
    refine satisfies_findExample ?_ fun line hline c hc => Or.inr (hlines line hline c hc)
    exact fun c hc => Or.inl (List.mem_singleton.mp hc)
  generalize (findExample lines start).value = code at htrim hfences hbreaks
  by_cases hne : code = []
  · subst hne
    exact ⟨rfl, rfl, List.forall_mem_nil _⟩
  · have hpieces := lines_eq_splitOn htrim hne hbreaks
    refine ⟨htrim, ?_, ?_⟩
    · rw [hpieces]
      exact (splitOn_eq_iff.mp rfl).2.2
    · rw [hpieces]
      exact hfences

/-- So is what extraction reads as the example. -/
theorem isCode_exampleCode (page : Text) : IsCode (extract page).exampleCode := by
  rw [extract_eq]
  dsimp only
  exact isCode_findExample fun line => isUnbroken_of_mem_lines

/-- Code between fences, behind the label, is the example. -/
theorem findExample_fenced (hcode : IsCode code) {opening : Text} (hopening : isFence opening) :
    findExample (exampleLabel :: opening :: (code.lines ++ [codeFence])) 0 =
      ⟨code, (exampleLabel :: opening :: (code.lines ++ [codeFence])).length⟩ := by
  have hparts : (exampleLabel :: opening :: (code.lines ++ [codeFence])).drop 0 =
      [] ++ exampleLabel :: ([] ++ opening :: (code.lines ++ codeFence :: [])) := rfl
  have hnone : ∀ p : Text → Bool, ∀ line ∈ ([] : List Text), p line = false :=
    fun _ => List.forall_mem_nil _
  rw [findExample_of_code hparts (hnone _) (by decide) (hnone _) hopening hcode.unfenced
    (by decide), hcode.joined, hcode.trimmed]
  simp only [List.length_nil, List.length_cons, List.length_append, Nat.zero_add]
  congr 1
  omega

end Page

/-- A form as the table of a hover page shows it, in back-ticks. -/
def SyntaxRow.quoted (row : SyntaxRow) : SyntaxRow := { row with form := "`" ++ row.form ++ "`" }

namespace MergedRecord

open Page

variable {r : MergedRecord}

/-! ### The parts of the page -/

/-- A part of the page is ended when its closing is. -/
theorem isEnded_hoverPart {content opening closing : Text} (hclosing : closing.IsEnded)
    (hne : closing ≠ []) : (hoverPart content opening closing).IsEnded := by
  rw [hoverPart]
  split
  · exact fun c hc => nomatch hc
  · exact hclosing.append_left hne _

/-- The rows of the table of forms, line by line. -/
def hoverRows (rows : List SyntaxRow) : List Text :=
  "| Syntax | Description |" :: "|--------|-------------|" ::
    rows.map fun row => rowLine row.quoted

/-- The table of forms stands on lines of its own, behind a heading and before an empty line. -/
theorem hoverTable_eq_unlines {rows : List SyntaxRow} (hrows : rows ≠ []) :
    hoverTable rows = unlines ([[], "**Syntax:**", []] ++ (hoverRows rows ++ [[]])) := by
  have hrow : ∀ row : SyntaxRow, hoverRow row = rowLine row.quoted ++ "\n" := by
    intro row
    simp [hoverRow, rowLine, SyntaxRow.quoted, ofString]
  have hforms : rows.flatMap hoverRow = unlines (rows.map fun row => rowLine row.quoted) := by
    rw [unlines, List.map_map, List.flatMap_def]
    exact congrArg List.flatten (List.map_congr_left fun row _ => hrow row)
  have hnil : unlines [] = [] := rfl
  rw [hoverTable, if_neg (by simpa using hrows), hforms]
  simp [hoverRows, unlines_append, unlines_cons, hnil, ofString]

/-- The table ends in a newline, also when there is none. -/
theorem isEnded_hoverTable (rows : List SyntaxRow) : (hoverTable rows).IsEnded := by
  by_cases hrows : rows = []
  · rw [hrows]
    exact fun c hc => nomatch hc
  · rw [hoverTable_eq_unlines hrows]
    exact isEnded_unlines _

/-- The label in front of the example. -/
def codeLabel : Text := "**Example:**"

/-- The lines on which an example is shown. -/
def codeBlock (code : Text) : List Text :=
  codeLabel :: [] :: (codeFence ++ codeLanguage) :: (code.lines ++ [codeFence])

/-- The example stands on lines of its own. -/
theorem hoverExample_eq_unlines (hcode : IsCode r.exampleCode) (hne : r.exampleCode ≠ []) :
    hoverPart r.exampleCode ("**Example:**\n\n" ++ codeFence ++ codeLanguage ++ "\n")
        ("\n" ++ codeFence ++ "\n") = unlines (codeBlock r.exampleCode) := by
  have hlines : unlines r.exampleCode.lines = r.exampleCode ++ [CodePoint.scalar '\n'] := by
    rw [← join_append_newline (lines_ne_nil hne), hcode.joined]
  have hnil : unlines [] = [] := rfl
  rw [hoverPart, if_neg (by simpa using hne)]
  simp [codeBlock, codeLabel, unlines_cons, unlines_append, hlines, hnil, ofString]

/-- The example comes last. -/
theorem hover_eq_append_example (h : r.markdown = []) : r.hover =
    { r with exampleCode := [] }.hover ++
      hoverPart r.exampleCode ("**Example:**\n\n" ++ codeFence ++ codeLanguage ++ "\n")
        ("\n" ++ codeFence ++ "\n") := by
  have hlabel : categoryLabel { r with markdown := [], exampleCode := [] } = r.categoryLabel := rfl
  simp [hover, h, hlabel, hoverPart]

/-- Without an example the table comes last. -/
theorem hover_eq_append_table (h : r.markdown = []) : { r with exampleCode := [] }.hover =
    { r with rows := [], exampleCode := [] }.hover ++ hoverTable r.rows := by
  have hlabel : categoryLabel { r with markdown := [], rows := [], exampleCode := [] } =
      categoryLabel { r with markdown := [], exampleCode := [] } := rfl
  simp [hover, h, hlabel, hoverTable, hoverPart]

/-- A page that is laid out ends in a newline, whichever parts of it are missing. -/
theorem isEnded_hover (h : r.markdown = []) : r.hover.IsEnded := by
  have hname : IsEnded ("### " ++ r.name ++ "\n\n") :=
    IsEnded.append_left (by decide) (by decide) _
  have hdescription : IsEnded (hoverPart r.description [] "\n\n") :=
    isEnded_hoverPart (by decide) (by decide)
  have husage : IsEnded (hoverPart r.usage "**Usage:** `" "`\n\n") :=
    isEnded_hoverPart (by decide) (by decide)
  have hcategory : IsEnded (hoverPart r.categoryLabel "**Category:** " "\n") :=
    isEnded_hoverPart (by decide) (by decide)
  rw [hover, if_pos (by simp [h])]
  exact ((((hname.append hdescription).append husage).append hcategory).append
    (isEnded_hoverTable r.rows)).append
    (isEnded_hoverPart (by decide) (by decide))

/-! ### The example on the page -/

/-- The lines of the example follow those of the page without it. -/
theorem lines_hover_example (h : r.markdown = []) (hcode : IsCode r.exampleCode)
    (hne : r.exampleCode ≠ []) :
    r.hover.lines = { r with exampleCode := [] }.hover.lines ++ codeBlock r.exampleCode := by
  have hended : { r with exampleCode := [] }.hover.IsEnded := isEnded_hover h
  have hunbroken : ∀ line ∈ codeBlock r.exampleCode, line.IsUnbroken := by
    simp only [codeBlock, List.forall_mem_cons, List.forall_mem_append]
    exact ⟨by decide, by decide, by decide, fun line => isUnbroken_of_mem_lines, by decide,
      List.forall_mem_nil _⟩
  rw [hover_eq_append_example h, lines_append_of_isEnded hended, hoverExample_eq_unlines hcode hne,
    lines_unlines hunbroken]

/-- The block of code on the page of a command, behind the label on line `label`, is the example
and nothing but the example. -/
structure ShowsCode (r : MergedRecord) (label : Nat) : Prop where
  /-- The label announces the example. -/
  announced : r.hover.lines[label]? = some codeLabel
  /-- The first fence behind the label stands two lines further on. -/
  opens : IsFirstAt isFence r.hover.lines (label + 1) (label + 2)
  /-- The first fence behind that one stands behind all lines of the example. -/
  closes : IsFirstAt isFence r.hover.lines (label + 3) (label + 3 + r.exampleCode.lines.length)
  /-- The text between the two fences is the example. -/
  code : Text.join "\n" (r.hover.lines.extract (label + 3)
    (label + 3 + r.exampleCode.lines.length)) = r.exampleCode

/-- The page shows code that a fenced block can hold, behind everything else. -/
theorem showsCode_of_isCode (h : r.markdown = []) (hcode : IsCode r.exampleCode)
    (hne : r.exampleCode ≠ []) :
    r.ShowsCode { r with exampleCode := [] }.hover.lines.length := by
  have hlines := lines_hover_example h hcode hne
  generalize { r with exampleCode := [] }.hover.lines = before at hlines
  have hlabel : r.hover.lines.drop before.length = codeBlock r.exampleCode := by
    rw [hlines, List.drop_left]
  have hbehind : r.hover.lines.drop (before.length + 1) =
      [[]] ++ (codeFence ++ codeLanguage) :: (r.exampleCode.lines ++ [codeFence]) := by
    rw [← List.drop_drop, hlabel]
    rfl
  have hinside : r.hover.lines.drop (before.length + 3) =
      r.exampleCode.lines ++ codeFence :: [] := by
    rw [← List.drop_drop, hlabel]
    rfl
  constructor
  · rw [← Nat.add_zero before.length, ← List.getElem?_drop, hlabel]
    rfl
  · exact isFirstAt_of_drop hbehind (by decide) (by decide)
  · exact isFirstAt_of_drop hinside hcode.unfenced (by decide)
  · have hparts : r.hover.lines.drop (before.length + 3) =
        [] ++ (r.exampleCode.lines ++ [codeFence]) := hinside
    have hextract := extract_of_drop hparts
    rw [List.length_nil, Nat.add_zero] at hextract
    rw [hextract, hcode.joined]

/-- The example of every page is put between fences again without loss. Behind the label and an
opening fence, and before a closing one, its lines are read as the same example, up to the last of
these lines. On the page of a command that has it, the block of code opened behind the label
closes behind the example and nowhere inside it. -/
theorem exampleCode_fenced_again (page : Text) :
    let code := (extract page).exampleCode
    let fenced := exampleLabel :: (codeFence ++ codeLanguage) :: (code.lines ++ [codeFence])
    findExample fenced 0 = ⟨code, fenced.length⟩ ∧
      (code ≠ [] → ∀ r : MergedRecord, r.markdown = [] → r.exampleCode = code →
        r.ShowsCode { r with exampleCode := [] }.hover.lines.length) := by
  intro code fenced
  have hcode : IsCode code := isCode_exampleCode page
  refine ⟨findExample_fenced hcode (by decide), fun hne r hmarkdown hexample => ?_⟩
  rw [← hexample] at hcode hne
  exact showsCode_of_isCode hmarkdown hcode hne

/-- A page whose code begins with an empty line and an indented one and is broken by a form
feed. -/
def pageWithSparseCode : Text :=
  "# abs\n\n**Example**\n```\n\n  if x\x0cy = 1\n\n  end\n```\n"

/-- A command with the example of this page. -/
def recordWithSparseCode : MergedRecord where
  name := "abs"
  description := "Magnitude."
  usage := "abs(x)"
  exampleCode := "if x\ny = 1\n\n  end"

/-- The four lines of this example are shown behind a label on the seventh line of the page. -/
theorem exampleCode_pageWithSparseCode :
    (extract pageWithSparseCode).exampleCode = recordWithSparseCode.exampleCode ∧
      recordWithSparseCode.exampleCode ≠ [] ∧ recordWithSparseCode.markdown = [] ∧
      findExample ["**Example**", "```matlab", "if x", "y = 1", [], "  end", "```"] 0 =
        ⟨recordWithSparseCode.exampleCode, 7⟩ ∧
      recordWithSparseCode.ShowsCode 6 := by
  have hcode : (extract pageWithSparseCode).exampleCode = recordWithSparseCode.exampleCode := by
    decide
  have hne : recordWithSparseCode.exampleCode ≠ [] := by decide
  obtain ⟨hfenced, hshown⟩ := exampleCode_fenced_again pageWithSparseCode
  rw [hcode] at hfenced hshown
  exact ⟨hcode, hne, rfl, hfenced, hshown hne recordWithSparseCode rfl rfl⟩

/-! ### The table on the page -/

/-- No bold mark begins or ends at a back-tick. -/
theorem hasInfix_quoted {form : Text} (hmark : hasInfix boldMark form = false) :
    hasInfix boldMark ("`" ++ form ++ "`") = false := by
  rw [Bool.eq_false_iff] at hmark ⊢
  intro hquoted
  have hquote : ("`" ++ form ++ "`" : Text) = .scalar '`' :: (form ++ [.scalar '`']) := by
    simp [ofString]
  rw [hquote, hasInfix_iff, List.infix_cons_iff, List.infix_concat_iff] at hquoted
  -- a mark at either end would hold the back-tick that stands there
  rcases hquoted with ⟨rest, hfirst⟩ | ⟨rest, hlast⟩ | hinside
  · cases hfirst
  · have hends := congrArg List.getLast? hlast
    rw [List.getLast?_append_of_ne_nil rest (by decide), List.getLast?_concat] at hends
    cases hends
  · exact hmark (hasInfix_iff.mpr hinside)

/-- A form in back-ticks fills a cell, whatever blanks it begins and ends with. -/
theorem isPlainCell_quoted {form : Text} (hbar : cellBar ∉ form)
    (hmark : hasInfix boldMark form = false) : IsPlainCell ("`" ++ form ++ "`") := by
  refine ⟨trim_append_append (by decide) (by decide) (by decide) (by decide) form, ?_, ?_,
    hasInfix_quoted hmark⟩
  · simp [ofString]
  · simp only [List.mem_append, not_or]
    exact ⟨⟨by decide, hbar⟩, by decide⟩

/-- Every line of the table is a row. -/
theorem isTableRow_of_mem_hoverRows (rows : List SyntaxRow) :
    ∀ line ∈ hoverRows rows, isTableRow line = true := by
  simp only [hoverRows, List.forall_mem_cons, List.forall_mem_map]
  refine ⟨by decide, by decide, fun row _ => startsWith_trim (by decide) ?_⟩
  simp [rowLine, startsWith, ofString, cellBar]

/-- The table reads as its forms in back-ticks. -/
theorem syntaxRows_hoverRows {rows : List SyntaxRow}
    (hforms : ∀ row ∈ rows, cellBar ∉ row.form ∧ hasInfix boldMark row.form = false)
    (hdescriptions : ∀ row ∈ rows, IsPlainCell row.description) :
    syntaxRows (hoverRows rows) = rows.map SyntaxRow.quoted := by
  let table : TableLayout :=
    ⟨"| Syntax | Description |", "|--------|-------------|", rows.map SyntaxRow.quoted⟩
  have hcells : ∀ row ∈ table.rows, IsPlainCell row.form ∧ IsPlainCell row.description := by
    rw [List.forall_mem_map]
    exact fun row hrow =>
      ⟨isPlainCell_quoted (hforms row hrow).1 (hforms row hrow).2, hdescriptions row hrow⟩
  have htable : hoverRows rows = table.header :: table.separator :: table.rows.map rowLine := by
    rw [List.map_map]
    rfl
  rw [htable, syntaxRows_tableZone hcells]

/-- The lines of a page with forms: those before the table, its heading, the table, and what
follows it behind an empty line. -/
theorem lines_hover_table (h : r.markdown = []) (hrows : r.rows ≠ [])
    (hunbroken : ∀ row ∈ r.rows, row.form.IsUnbroken ∧ row.description.IsUnbroken) :
    ∃ more, r.hover.lines = { r with rows := [], exampleCode := [] }.hover.lines ++
      ([[], "**Syntax:**", []] ++ (hoverRows r.rows ++ [] :: more)) := by
  have hbefore : { r with rows := [], exampleCode := [] }.hover.IsEnded := isEnded_hover h
  have hrow : ∀ row ∈ r.rows, (rowLine row.quoted).IsUnbroken := by
    intro row hrow
    simp only [rowLine, SyntaxRow.quoted, IsUnbroken, List.forall_mem_append]
    exact ⟨⟨⟨⟨by decide, ⟨by decide, (hunbroken row hrow).1⟩, by decide⟩, by decide⟩,
      (hunbroken row hrow).2⟩, by decide⟩
  have hlines : ∀ line ∈ [[], "**Syntax:**", []] ++ (hoverRows r.rows ++ [[]]),
      IsUnbroken line := by
    simp only [hoverRows, List.forall_mem_append, List.forall_mem_cons, List.forall_mem_map]
    exact ⟨by decide, ⟨by decide, by decide, hrow⟩, by decide⟩
  rw [hover_eq_append_example h, hover_eq_append_table h,
    lines_append_of_isEnded (hbefore.append (isEnded_hoverTable r.rows)),
    lines_append_of_isEnded hbefore, hoverTable_eq_unlines hrows, lines_unlines hlines]
  exact ⟨_, by simp only [List.append_assoc, List.singleton_append]; rfl⟩

/-- The forms of a command are read back from its hover page. The first table on it gives all of
them in order, each in back-ticks and with its description unchanged, whatever else the page
shows, as long as nothing before the table opens with a bar and the cells hold no line breaks,
bars or bold marks. -/
theorem rows_of_hover (h : r.markdown = []) (hrows : r.rows ≠ [])
    (hunbroken : ∀ row ∈ r.rows, row.form.IsUnbroken ∧ row.description.IsUnbroken)
    (hforms : ∀ row ∈ r.rows, cellBar ∉ row.form ∧ hasInfix boldMark row.form = false)
    (hdescriptions : ∀ row ∈ r.rows, IsPlainCell row.description)
    (hbefore : ∀ line ∈ { r with rows := [], exampleCode := [] }.hover.lines,
      isTableRow line = false) :
    ∃ block next, findTableBlock r.hover.lines 0 = ⟨some block, next⟩ ∧
      syntaxRows block = r.rows.map SyntaxRow.quoted := by
  obtain ⟨more, hlines⟩ := lines_hover_table h hrows hunbroken
  have hparts : r.hover.lines.drop 0 =
      ({ r with rows := [], exampleCode := [] }.hover.lines ++ [[], "**Syntax:**", []]) ++
        (hoverRows r.rows ++ [] :: more) := by
    rw [List.drop_zero, hlines, List.append_assoc]
  have hpassed : ∀ line ∈ { r with rows := [], exampleCode := [] }.hover.lines ++
      [[], "**Syntax:**", []], isTableRow line = false :=
    List.forall_mem_append.mpr ⟨hbefore, by decide⟩
  have hstop : ∀ line ∈ ([] :: more).head?, isTableRow line = false := by
    intro line hline
    cases hline
    decide
  exact ⟨hoverRows r.rows, _, findTableBlock_of_block hparts hpassed
    (isTableRow_of_mem_hoverRows r.rows) (List.cons_ne_nil _ _) hstop,
    syntaxRows_hoverRows hforms hdescriptions⟩

/-- A command whose forms hold single asterisks and outer blanks, and whose other parts look like
rows but for the part before the table. -/
def recordWithForms : MergedRecord where
  name := "abs"
  description := []
  usage := "abs(x) | abs(y)"
  category := .named "Math"
  rows := [⟨" a * b*", "*Product*."⟩, ⟨[], "Nothing."⟩, ⟨" a * b*", "*Product*."⟩]
  exampleCode := "| not | a | form |"

/-- Its three forms are read back, the empty one and the repeated one as well. -/
theorem rows_of_hover_recordWithForms : ∃ block next,
    findTableBlock recordWithForms.hover.lines 0 = ⟨some block, next⟩ ∧
      syntaxRows block =
        [⟨"` a * b*`", "*Product*."⟩, ⟨"``", "Nothing."⟩, ⟨"` a * b*`", "*Product*."⟩] :=
  rows_of_hover rfl (by decide) (by decide) (by decide) (by decide) (by decide)

end MergedRecord

end CommandDocs
