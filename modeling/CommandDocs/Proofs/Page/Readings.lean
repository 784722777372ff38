import CommandDocs.Proofs.Page.Zones

/-!
# What the zone readers look at

Every reader splits the lines from its start into what it passes over, its zone, and the
rest; or it finds no zone and stays at its start. A reading that ends within the first lines
of a page is therefore the same whatever lines come after them. Extraction hands each reader
the line at which the reader before it ended.
-/

namespace CommandDocs.Page

variable {lines common tail before rest : List Text} {start : Nat} {p : Text → Bool}

/-! ### Splitting lines -/

/-- The longest run of lines of a kind, and what follows it. -/
theorem exists_run (p : Text → Bool) (lines : List Text) :
    ∃ run rest, lines = run ++ rest ∧ (∀ line ∈ run, p line = true) ∧
      ∀ line ∈ rest.head?, p line = false := by
  refine ⟨lines.takeWhile p, lines.dropWhile p, List.takeWhile_append_dropWhile.symm,
    fun line hline => List.mem_takeWhile_imp hline, fun line hline => ?_⟩
  have hhead := List.head?_dropWhile_not (p := p) (l := lines)
  rw [Option.mem_def.mp hline] at hhead
  exact hhead

/-- A line of a kind is the first of its kind, or the first one stands before it. -/
theorem exists_first {mark : Text} (hmark : p mark = true) (before rest : List Text) :
    ∃ passed first more, before ++ mark :: rest = passed ++ first :: (more ++ rest) ∧
      (∀ line ∈ passed, p line = false) ∧ p first = true := by
  induction before with
  | nil => exact ⟨[], mark, [], rfl, by simp, hmark⟩
  | cons line before ih =>
    by_cases hline : p line = true
    · exact ⟨[], line, before ++ [mark], by simp, by simp, hline⟩
    · obtain ⟨passed, first, more, hsplit, hpassed, hfirst⟩ := ih
      refine ⟨line :: passed, first, more, by rw [List.cons_append, hsplit]; rfl, ?_, hfirst⟩
      exact List.forall_mem_cons.mpr ⟨Bool.eq_false_iff.mpr hline, hpassed⟩

/-- A part that is no longer than the first lines lies within them. -/
theorem exists_append_of_length_le {part : List Text} (h : common ++ tail = part ++ rest)
    (hle : part.length ≤ common.length) : ∃ more, common = part ++ more ∧ rest = more ++ tail := by
  rcases List.append_eq_append_iff.mp h with ⟨more, hpart, htail⟩ | ⟨more, hcommon, hrest⟩
  · have hnil : more = [] := by
      rw [hpart, List.length_append] at hle
      exact List.eq_nil_of_length_eq_zero (by omega)
    rw [hnil] at hpart htail
    exact ⟨[], by simpa using hpart.symm, by simpa using htail.symm⟩
  · exact ⟨more, hcommon, hrest⟩

/-! ### What each reader can answer -/

/-- The title is missing, or it is the first heading. -/
theorem findTitle_cases (lines : List Text) (start : Nat) :
    ((∀ line ∈ lines.drop start, isHeading line = false) ∧
        findTitle lines start = ⟨[], start⟩) ∨
      ∃ before heading rest, lines.drop start = before ++ heading :: rest ∧
        (∀ line ∈ before, isHeading line = false) ∧ isHeading heading = true ∧
        findTitle lines start = ⟨headingText heading, start + before.length + 1⟩ := by
  by_cases hnone : ∀ line ∈ lines.drop start, isHeading line = false
  · exact Or.inl ⟨hnone, findTitle_of_forall_not hnone⟩
  · simp only [not_forall, Bool.not_eq_false] at hnone
    obtain ⟨mark, hmem, hmark⟩ := hnone
    obtain ⟨front, back, hsplit⟩ := List.append_of_mem hmem
    obtain ⟨passed, heading, more, hfirst, hpassed, hheading⟩ := exists_first hmark front back
    rw [hfirst] at hsplit
    exact Or.inr ⟨passed, heading, more ++ back, hsplit, hpassed, hheading,
      findTitle_of_heading hsplit hpassed hheading⟩

/-- The description is a paragraph, perhaps without lines, behind blank lines. -/
theorem readDescription_cases (lines : List Text) (start : Nat) :
    ∃ blanks paragraph rest, lines.drop start = blanks ++ (paragraph ++ rest) ∧
      (∀ line ∈ blanks, line.isBlank = true) ∧
      (∀ line ∈ paragraph, endsParagraph line = false) ∧
      (∀ line ∈ rest.head?, endsParagraph line = true) ∧
      (paragraph = [] → ∀ line ∈ rest.head?, line.isBlank = false) ∧
      readDescription lines start =
        ⟨Text.join " " (paragraph.map (·.trim)), start + blanks.length + paragraph.length⟩ := by
  obtain ⟨blanks, others, hblanks, hall, hstop⟩ := exists_run (·.isBlank) (lines.drop start)
  obtain ⟨paragraph, rest, hparagraph, hprose, hends⟩ := exists_run (!endsParagraph ·) others
  rw [hparagraph] at hblanks hstop
  have hprose' : ∀ line ∈ paragraph, endsParagraph line = false := by simpa using hprose
  have hends' : ∀ line ∈ rest.head?, endsParagraph line = true := by simpa using hends
  have hempty : paragraph = [] → ∀ line ∈ rest.head?, line.isBlank = false := by
    rintro rfl
    exact hstop
  exact ⟨blanks, paragraph, rest, hblanks, hall, hprose', hends', hempty,
    readDescription_of_paragraph hblanks hall hprose' hends' hempty⟩

/-- The table is missing, or it is the first run of rows. -/
theorem findTableBlock_cases (lines : List Text) (start : Nat) :
    ((∀ line ∈ lines.drop start, isTableRow line = false) ∧
        findTableBlock lines start = ⟨none, start⟩) ∨
      ∃ before block rest, lines.drop start = before ++ (block ++ rest) ∧
        (∀ line ∈ before, isTableRow line = false) ∧
        (∀ line ∈ block, isTableRow line = true) ∧ block ≠ [] ∧
        (∀ line ∈ rest.head?, isTableRow line = false) ∧
        findTableBlock lines start = ⟨some block, start + before.length + block.length⟩ := by
  obtain ⟨before, others, hbefore, hpassed, hstop⟩ :=
    exists_run (!isTableRow ·) (lines.drop start)
  obtain ⟨block, rest, hblock, hrows, hends⟩ := exists_run isTableRow others
  have hpassed' : ∀ line ∈ before, isTableRow line = false := by simpa using hpassed
  rw [hblock] at hbefore hstop
  by_cases hne : block = []
  · refine Or.inl ?_
    have hrest : rest = [] := by
      cases rest with
      | nil => rfl
      | cons line more =>
        -- The line that stopped the search is a row, so it would begin a block.
        have hrow : isTableRow line = true := by simpa [hne] using hstop
        rw [hends line rfl] at hrow
        cases hrow
    rw [hne, hrest, List.append_nil, List.append_nil] at hbefore
    have hnone : ∀ line ∈ lines.drop start, isTableRow line = false := by
      rw [hbefore]
      exact hpassed'
    exact ⟨hnone, findTableBlock_of_forall_not hnone⟩
  · exact Or.inr ⟨before, block, rest, hbefore, hpassed', hrows, hne, hends,
      findTableBlock_of_block hbefore hpassed' hrows hne hends⟩

/-- The example is missing, or it is the code between the first two fences behind the first
label. -/
theorem findExample_cases (lines : List Text) (start : Nat) :
    (¬HoldsExample (lines.drop start) ∧ findExample lines start = ⟨[], start⟩) ∨
      ∃ before label between opening code closing rest,
        lines.drop start = before ++ label :: (between ++ opening :: (code ++ closing :: rest)) ∧
        ((∀ line ∈ before, hasExampleLabel line = false) ∧ hasExampleLabel label = true) ∧
        ((∀ line ∈ between, isFence line = false) ∧ isFence opening = true) ∧
        ((∀ line ∈ code, isFence line = false) ∧ isFence closing = true) ∧
        findExample lines start = ⟨Text.trim (Text.join "\n" code),
          start + (before.length + 1 + between.length + 1 + code.length + 1)⟩ := by
  by_cases hholds : HoldsExample (lines.drop start)
  · obtain ⟨front, label, gap, opening, body, closing, rest, hlines, hlabel, hopening, hclosing⟩ :=
      hholds
    -- Each mark is replaced by the first one of its kind behind the mark before it.
    obtain ⟨before, label', more1, h1, hbefore, hlabel'⟩ :=
      exists_first hlabel front (gap ++ opening :: (body ++ closing :: rest))
    obtain ⟨between, opening', more2, h2, hbetween, hopening'⟩ :=
      exists_first hopening (more1 ++ gap) (body ++ closing :: rest)
    obtain ⟨code, closing', more3, h3, hcode, hclosing'⟩ :=
      exists_first hclosing (more2 ++ body) rest
    rw [List.append_assoc] at h2 h3
    have hparts := hlines.trans (h1.trans (congrArg (before ++ label' :: ·)
      (h2.trans (congrArg (between ++ opening' :: ·) h3))))
    exact Or.inr ⟨before, label', between, opening', code, closing', more3 ++ rest, hparts,
      ⟨hbefore, hlabel'⟩, ⟨hbetween, hopening'⟩, ⟨hcode, hclosing'⟩,
      findExample_of_code hparts hbefore hlabel' hbetween hopening' hcode hclosing'⟩
  · exact Or.inl ⟨hholds, findExample_of_not_holds hholds⟩

/-! ### Readings do not go back -/

/-- The title is searched from the start on. -/
theorem le_next_findTitle (lines : List Text) (start : Nat) :
    start ≤ (findTitle lines start).next := by
  rcases findTitle_cases lines start with
    ⟨-, hreading⟩ | ⟨before, heading, rest, -, -, -, hreading⟩
  · rw [hreading]
  · rw [hreading]
    dsimp only
    omega

/-- So is the description. -/
theorem le_next_readDescription (lines : List Text) (start : Nat) :
    start ≤ (readDescription lines start).next := by
  obtain ⟨blanks, paragraph, rest, -, -, -, -, -, hreading⟩ := readDescription_cases lines start
  rw [hreading]
  dsimp only
  omega

/-- So is the table. -/
theorem le_next_findTableBlock (lines : List Text) (start : Nat) :
    start ≤ (findTableBlock lines start).next := by
  rcases findTableBlock_cases lines start with ⟨-, hreading⟩ |
    ⟨before, block, rest, -, -, -, -, -, hreading⟩
  · rw [hreading]
  · rw [hreading]
    dsimp only
    omega

/-- So is the example. -/
theorem le_next_findExample (lines : List Text) (start : Nat) :
    start ≤ (findExample lines start).next := by
  rcases findExample_cases lines start with ⟨-, hreading⟩ |
    ⟨before, label, between, opening, code, closing, rest, -, -, -, -, hreading⟩
  · rw [hreading]
  · rw [hreading]
    dsimp only
    omega

/-! ### Readings that end within the first lines -/

/-- A part of the lines from a start that ends within the first lines of the page is a part
of these. -/
theorem exists_drop_append {part : List Text} (hstart : start ≤ common.length)
    (h : (common ++ tail).drop start = part ++ rest)
    (hle : start + part.length ≤ common.length) :
    ∃ more, common.drop start = part ++ more ∧ rest = more ++ tail := by
  rw [List.drop_append_of_le_length hstart] at h
  refine exists_append_of_length_le h ?_
  rw [List.length_drop]
  omega

/-- The title does not depend on the lines behind it. -/
theorem findTitle_append
    (h : (findTitle (common ++ tail) start).next ≤ common.length) :
    findTitle (common ++ tail) start = findTitle common start := by
  have hstart := (le_next_findTitle _ _).trans h
  rcases findTitle_cases (common ++ tail) start with
    ⟨hnone, hreading⟩ | ⟨before, heading, rest, hlines, hbefore, hheading, hreading⟩
  · rw [List.drop_append_of_le_length hstart] at hnone
    have hcommon := findTitle_of_forall_not fun line hline =>
      hnone line (List.mem_append_left _ hline)
    rw [hreading, hcommon]
  · rw [hreading] at h ⊢
    rw [List.append_cons] at hlines
    obtain ⟨more, hmore, -⟩ := exists_drop_append hstart hlines
      (by simpa [Nat.add_assoc] using h)
    rw [← List.append_cons] at hmore
    rw [findTitle_of_heading hmore hbefore hheading]

/-- The description does not depend on the lines behind it. -/
theorem readDescription_append
    (h : (readDescription (common ++ tail) start).next ≤ common.length) :
    readDescription (common ++ tail) start = readDescription common start := by
  have hstart := (le_next_readDescription _ _).trans h
  obtain ⟨blanks, paragraph, rest, hlines, hblanks, hparagraph, hends, hempty, hreading⟩ :=
    readDescription_cases (common ++ tail) start
  rw [hreading] at h ⊢
  rw [← List.append_assoc] at hlines
  obtain ⟨more, hmore, rfl⟩ := exists_drop_append hstart hlines
    (by simpa [Nat.add_assoc] using h)
  rw [List.append_assoc] at hmore
  -- The line that ends the paragraph is the same one, if it is among the first lines.
  have hhead : ∀ line ∈ more.head?, line ∈ (more ++ tail).head? := by
    cases more <;> simp
  rw [readDescription_of_paragraph hmore hblanks hparagraph
    (fun line hline => hends line (hhead line hline))
    fun hnil line hline => hempty hnil line (hhead line hline)]

/-- The table does not depend on the lines behind it. -/
theorem findTableBlock_append
    (h : (findTableBlock (common ++ tail) start).next ≤ common.length) :
    findTableBlock (common ++ tail) start = findTableBlock common start := by
  have hstart := (le_next_findTableBlock _ _).trans h
  rcases findTableBlock_cases (common ++ tail) start with ⟨hnone, hreading⟩ |
    ⟨before, block, rest, hlines, hbefore, hblock, hne, hends, hreading⟩
  · rw [List.drop_append_of_le_length hstart] at hnone
    have hcommon := findTableBlock_of_forall_not fun line hline =>
      hnone line (List.mem_append_left _ hline)
    rw [hreading, hcommon]
  · rw [hreading] at h ⊢
    rw [← List.append_assoc] at hlines
    obtain ⟨more, hmore, rfl⟩ := exists_drop_append hstart hlines
      (by simpa [Nat.add_assoc] using h)
    rw [List.append_assoc] at hmore
    have hhead : ∀ line ∈ more.head?, line ∈ (more ++ tail).head? := by
      cases more <;> simp
    rw [findTableBlock_of_block hmore hbefore hblock hne
      fun line hline => hends line (hhead line hline)]

/-- Lines that hold a complete example do so with further lines behind them. -/
theorem HoldsExample.append (h : HoldsExample lines) (tail : List Text) :
    HoldsExample (lines ++ tail) := by
  obtain ⟨before, label, between, opening, code, closing, rest, rfl, hmarks⟩ := h
  exact ⟨before, label, between, opening, code, closing, rest ++ tail, by simp, hmarks⟩

/-- They do so with further lines before them. -/
theorem HoldsExample.prepend (h : HoldsExample lines) (passed : List Text) :
    HoldsExample (passed ++ lines) := by
  obtain ⟨before, label, between, opening, code, closing, rest, rfl, hmarks⟩ := h
  exact ⟨passed ++ before, label, between, opening, code, closing, rest, by simp, hmarks⟩

/-- Lines from which a complete example is seen are seen from every earlier line. -/
theorem HoldsExample.of_drop {later : Nat} (h : HoldsExample (lines.drop later))
    (hle : start ≤ later) : HoldsExample (lines.drop start) := by
  obtain ⟨passed, rfl⟩ := Nat.exists_eq_add_of_le hle
  rw [← List.drop_drop] at h
  have hprepend := h.prepend ((lines.drop start).take passed)
  rwa [List.take_append_drop] at hprepend

/-- An example that ends within the first lines of the page is in these. -/
theorem exists_drop_example {label opening closing : Text} {between code : List Text}
    (hstart : start ≤ common.length)
    (h : (common ++ tail).drop start =
      before ++ label :: (between ++ opening :: (code ++ closing :: rest)))
    (hle : start + (before.length + 1 + between.length + 1 + code.length + 1) ≤ common.length) :
    ∃ next, common.drop start =
      before ++ label :: (between ++ opening :: (code ++ closing :: next)) := by
  have hparts : (common ++ tail).drop start =
      (before ++ label :: (between ++ opening :: (code ++ [closing]))) ++ rest := by
    simpa using h
  have hlength : (before ++ label :: (between ++ opening :: (code ++ [closing]))).length =
      before.length + 1 + between.length + 1 + code.length + 1 := by
    simp only [List.length_append, List.length_cons, List.length_nil]
    omega
  obtain ⟨next, hnext, -⟩ := exists_drop_append hstart hparts (by rw [hlength]; exact hle)
  exact ⟨next, by simpa using hnext⟩

/-- The example does not depend on the lines behind it. -/
theorem findExample_append
    (h : (findExample (common ++ tail) start).next ≤ common.length) :
    findExample (common ++ tail) start = findExample common start := by
  have hstart := (le_next_findExample _ _).trans h
  rcases findExample_cases (common ++ tail) start with ⟨hnone, hreading⟩ |
    ⟨before, label, between, opening, code, closing, rest, hlines, ⟨hbefore, hlabel⟩,
      ⟨hbetween, hopening⟩, ⟨hcode, hclosing⟩, hreading⟩
  · rw [List.drop_append_of_le_length hstart] at hnone
    rw [hreading, findExample_of_not_holds fun hholds => hnone (hholds.append tail)]
  · rw [hreading] at h ⊢
    obtain ⟨next, hnext⟩ := exists_drop_example hstart hlines h
    rw [findExample_of_code hnext hbefore hlabel hbetween hopening hcode hclosing]

/-! ### Readings from a later line -/

/-- A reading as it is seen with `n` more lines in front. -/
def Reading.shift {α : Type} (n : Nat) (r : Reading α) : Reading α := ⟨r.value, n + r.next⟩

/-- The title does not depend on the lines before its start. -/
theorem findTitle_drop (lines : List Text) (n start : Nat) :
    findTitle lines (n + start) = (findTitle (lines.drop n) start).shift n := by
  rw [findTitle, findTitle, ← List.drop_drop]
  split
  · rfl
  · simp only [Reading.shift, Nat.add_assoc]

/-- Nor does the description. -/
theorem readDescription_drop (lines : List Text) (n start : Nat) :
    readDescription lines (n + start) = (readDescription (lines.drop n) start).shift n := by
  simp only [readDescription, List.drop_drop, Reading.shift, Nat.add_assoc]

/-- Nor does the table. -/
theorem findTableBlock_drop (lines : List Text) (n start : Nat) :
    findTableBlock lines (n + start) = (findTableBlock (lines.drop n) start).shift n := by
  rw [findTableBlock, findTableBlock, ← List.drop_drop]
  split
  · rfl
  · simp only [Reading.shift, Nat.add_assoc]

/-- Nor does the example. -/
theorem findExample_drop (lines : List Text) (n start : Nat) :
    findExample lines (n + start) = (findExample (lines.drop n) start).shift n := by
  rw [findExample, findExample, ← List.drop_drop]
  dsimp only
  split
  · rfl
  · simp only [Reading.shift, Nat.add_assoc]

/-! ### The cursors of extraction -/

/-- The line behind the title, from which the description is read. -/
def titleEnd (lines : List Text) : Nat := (findTitle lines 0).next

/-- The line that ended the description, from which the table is searched. -/
def descriptionEnd (lines : List Text) : Nat := (readDescription lines (titleEnd lines)).next

/-- The line behind the table, from which the example is searched; without a table the line
that ended the description. -/
def tableEnd (lines : List Text) : Nat := (findTableBlock lines (descriptionEnd lines)).next

/-- The line behind the example; without an example the line from which it is searched. -/
def exampleEnd (lines : List Text) : Nat := (findExample lines (tableEnd lines)).next

/-- A table that is missing leaves the cursor where it was. -/
theorem next_of_findTableBlock_none (h : (findTableBlock lines start).value = none) :
    (findTableBlock lines start).next = start := by
  rcases findTableBlock_cases lines start with ⟨-, hreading⟩ |
    ⟨before, block, rest, -, -, -, -, -, hreading⟩
  · rw [hreading]
  · rw [hreading] at h
    cases h

/-- Extraction reads each zone from the line at which the zone before it ended. -/
theorem extract_eq (t : Text) :
    extract t =
      { title := (findTitle t.lines 0).value
        description := (readDescription t.lines (titleEnd t.lines)).value
        summary := summarize (readDescription t.lines (titleEnd t.lines)).value
          (findTitle t.lines 0).value
        rows := syntaxRows ((findTableBlock t.lines (descriptionEnd t.lines)).value.getD [])
        exampleCode := (findExample t.lines (tableEnd t.lines)).value
        body := withoutRelatedLinks t } := by
  have hcursor : (if (findTableBlock t.lines (descriptionEnd t.lines)).value.isSome = true
      then (findTableBlock t.lines (descriptionEnd t.lines)).next else descriptionEnd t.lines) =
        tableEnd t.lines := by
    split
    · rfl
    · rename_i hnone
      exact (next_of_findTableBlock_none (by simpa using hnone)).symm
  rw [← hcursor, extract]
  rfl

end CommandDocs.Page
