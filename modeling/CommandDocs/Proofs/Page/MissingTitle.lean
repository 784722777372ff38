import CommandDocs.Proofs.Page.Readings
import CommandDocs.Proofs.Page.RoundTrip

/-!
# Pages without a title

The title is searched on all lines of a page, those of its code included. A page without any
heading line is read from its first line, as if a heading stood above it. On every other page
the first heading line is the title, and the zones behind the title are searched behind that
line, also where it is a comment in the code of the example.
-/

namespace CommandDocs.Page

open Text

variable {t u title : Text} {lines before rest : List Text} {heading : Text}

/-- Two pages say the same behind their titles. -/
structure Extraction.AgreesBehindTitle (a b : Extraction) : Prop where
  /-- They have the same description. -/
  description : a.description = b.description
  /-- They have the same forms. -/
  rows : a.rows = b.rows
  /-- They have the same example. -/
  exampleCode : a.exampleCode = b.exampleCode

/-- The lines from which the zones behind the title are read. -/
def linesBehindTitle (t : Text) : List Text := t.lines.drop (titleEnd t.lines)

/-- The line that ends the description of a page that begins with it. -/
def firstDescriptionEnd (lines : List Text) : Nat := (readDescription lines 0).next

/-- The line behind the table of such a page. -/
def firstTableEnd (lines : List Text) : Nat :=
  (findTableBlock lines (firstDescriptionEnd lines)).next

/-- The description is read behind the title. -/
theorem readDescription_titleEnd (t : Text) :
    readDescription t.lines (titleEnd t.lines) =
      (readDescription (linesBehindTitle t) 0).shift (titleEnd t.lines) :=
  readDescription_drop t.lines (titleEnd t.lines) 0

/-- The search for the table begins where the description behind the title ends. -/
theorem descriptionEnd_eq (t : Text) :
    descriptionEnd t.lines = titleEnd t.lines + firstDescriptionEnd (linesBehindTitle t) := by
  rw [descriptionEnd, readDescription_titleEnd, Reading.shift, firstDescriptionEnd]

/-- The table is the one behind that line. -/
theorem findTableBlock_descriptionEnd (t : Text) :
    findTableBlock t.lines (descriptionEnd t.lines) =
      (findTableBlock (linesBehindTitle t) (firstDescriptionEnd (linesBehindTitle t))).shift
        (titleEnd t.lines) := by
  rw [descriptionEnd_eq]
  exact findTableBlock_drop t.lines (titleEnd t.lines) _

/-- The search for the example begins behind that table. -/
theorem tableEnd_eq (t : Text) :
    tableEnd t.lines = titleEnd t.lines + firstTableEnd (linesBehindTitle t) := by
  rw [tableEnd, findTableBlock_descriptionEnd, Reading.shift, firstTableEnd]

/-- The example is the one behind that line. -/
theorem findExample_tableEnd (t : Text) :
    findExample t.lines (tableEnd t.lines) =
      (findExample (linesBehindTitle t) (firstTableEnd (linesBehindTitle t))).shift
        (titleEnd t.lines) := by
  rw [tableEnd_eq]
  exact findExample_drop t.lines (titleEnd t.lines) _

/-- Pages with the same lines behind their titles agree there. -/
theorem agreesBehindTitle_of_lines (h : linesBehindTitle t = linesBehindTitle u) :
    (extract t).AgreesBehindTitle (extract u) := by
  rw [extract_eq t, extract_eq u]
  refine ⟨?_, ?_, ?_⟩
  · simp only [readDescription_titleEnd, h, Reading.shift]
  · simp only [findTableBlock_descriptionEnd, h, Reading.shift]
  · simp only [findExample_tableEnd, h, Reading.shift]

/-- A page without a heading line is read from its first line. -/
theorem linesBehindTitle_of_forall_not (h : ∀ line ∈ t.lines, isHeading line = false) :
    linesBehindTitle t = t.lines := by
  have htitle : findTitle t.lines 0 = ⟨[], 0⟩ := findTitle_of_forall_not h
  rw [linesBehindTitle, titleEnd, htitle]
  exact List.drop_zero

/-- Any other page is read behind its first heading line. -/
theorem linesBehindTitle_of_heading (h : t.lines = before ++ heading :: rest)
    (hbefore : ∀ line ∈ before, isHeading line = false) (hheading : isHeading heading = true) :
    linesBehindTitle t = rest := by
  have htitle : findTitle t.lines 0 = _ := findTitle_of_heading h hbefore hheading
  have hend : titleEnd t.lines = (before ++ [heading]).length := by
    rw [titleEnd, htitle, List.length_append, List.length_singleton, Nat.zero_add]
  have hsplit : before ++ heading :: rest = (before ++ [heading]) ++ rest :=
    List.append_cons before heading rest
  rw [linesBehindTitle, hend, h, hsplit, List.drop_left]

/-- The page with a heading line above it. -/
def titled (title t : Text) : Text := "# " ++ title ++ CodePoint.scalar '\n' :: t

/-- Behind the heading line stands the page. -/
theorem linesBehindTitle_titled (htitle : title.IsUnbroken) (t : Text) :
    linesBehindTitle (titled title t) = t.lines := by
  have hline : ("# " ++ title : Text).IsUnbroken := by
    refine List.forall_mem_append.mpr ⟨?_, htitle⟩
    decide
  have hlines : (titled title t).lines = [] ++ ("# " ++ title) :: t.lines :=
    lines_append_newline hline t
  have hheading : isHeading ("# " ++ title) = true :=
    isHeading_line (h := ⟨1, title⟩) le_rfl
  exact linesBehindTitle_of_heading hlines (List.forall_mem_nil _) hheading

/-- What a page without a title says. If none of its lines is a heading, the title is empty, and
all other zones are those of the page with a heading line above it. If a line is a heading,
wherever it stands, the first such line is the title, and all other zones are those of the lines
behind it with a heading line above them; the lines before it are lost. -/
theorem extract_of_missing_title (htitle : title.IsUnbroken) (t : Text) :
    ((∀ line ∈ t.lines, isHeading line = false) →
        (extract t).title = [] ∧ (extract t).AgreesBehindTitle (extract (titled title t))) ∧
      ∀ before heading rest, t.lines = before ++ heading :: rest →
        (∀ line ∈ before, isHeading line = false) → isHeading heading = true →
          (extract t).title = headingText heading ∧
            (extract t).AgreesBehindTitle (extract (titled title (unlines rest))) := by
  refine ⟨fun hnone => ?_, fun before heading rest hlines hbefore hheading => ?_⟩
  · have hread : findTitle t.lines 0 = ⟨[], 0⟩ := findTitle_of_forall_not hnone
    refine ⟨by rw [extract_eq, hread], agreesBehindTitle_of_lines ?_⟩
    rw [linesBehindTitle_of_forall_not hnone, linesBehindTitle_titled htitle]
  · have hread : findTitle t.lines 0 = _ := findTitle_of_heading hlines hbefore hheading
    -- as lines of a page the rest is a page of its own, so it can stand behind another heading
    have hunbroken : ∀ line ∈ rest, line.IsUnbroken := by
      intro line hline
      refine isUnbroken_of_mem_lines (t := t) ?_
      rw [hlines]
      exact List.mem_append_right _ (List.mem_cons_of_mem _ hline)
    refine ⟨by rw [extract_eq, hread], agreesBehindTitle_of_lines ?_⟩
    rw [linesBehindTitle_of_heading hlines hbefore hheading, linesBehindTitle_titled htitle,
      lines_unlines hunbroken]

/-- A page without a heading line. -/
def pageWithoutHeading : Text := "Absolute value.\n\n**Example**\n```\nabs(-2)\n```\n"

/-- It is read like the page with a heading line above it. -/
theorem extract_pageWithoutHeading :
    IsUnbroken "abs" ∧ (∀ line ∈ Text.lines pageWithoutHeading, isHeading line = false) ∧
      (extract pageWithoutHeading).title = [] ∧
      (extract pageWithoutHeading).AgreesBehindTitle (extract (titled "abs" pageWithoutHeading)) := by
  have htitle : IsUnbroken "abs" := by decide
  have hnone : ∀ line ∈ Text.lines pageWithoutHeading, isHeading line = false := by decide
  exact ⟨htitle, hnone, (extract_of_missing_title htitle pageWithoutHeading).1 hnone⟩

/-- Does every heading line stand between an opening fence and the next fence? The argument tells
whether a block of code is open. -/
def headingsAreFenced (isOpen : Bool) : List Text → Bool
  | [] => true
  | line :: rest =>
    if isFence line then headingsAreFenced (!isOpen) rest
    else (!isHeading line || (isOpen && rest.any isFence)) && headingsAreFenced isOpen rest

/-- A page without a title whose example has a comment. -/
def pageWithComment : Text :=
  "Absolute value.\n\n**Example**\n```\n# take it\nabs(-2)\n```\n"

/-- The comment is taken for the title, and what stands before it is lost. -/
theorem title_of_pageWithComment :
    headingsAreFenced false (Text.lines pageWithComment) = true ∧
      (extract pageWithComment).title = ("take it" : Text) ∧
      (extract pageWithComment).description = ("abs(-2)" : Text) ∧
      (extract pageWithComment).exampleCode = [] ∧
      (extract (titled "abs" pageWithComment)).description = ("Absolute value." : Text) ∧
      (extract (titled "abs" pageWithComment)).exampleCode = ("# take it\nabs(-2)" : Text) := by
  decide

end CommandDocs.Page
