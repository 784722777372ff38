import CommandDocs.Proofs.Page.Readings

/-!
# Examples and the table before them

The example is searched behind the table, and the table is the first run of rows behind the
description, wherever on the page it stands. A run that ends before the label of the example
does no harm. A run behind the label takes the example away: the search for an example then
begins behind the run, so only a further label there can lead to one.
-/

namespace CommandDocs.Page

variable {lines : List Text} {start later : Nat}

/-- The line of the first label at or behind `start`, or the number of lines without one. -/
def labelIndex (lines : List Text) (start : Nat) : Nat :=
  start + ((lines.drop start).takeWhile (!hasExampleLabel ·)).length

/-- The search for an example finds the same from every line up to the first label. -/
theorem value_findExample_of_le_label (hstart : start ≤ later)
    (hlater : later ≤ labelIndex lines start) :
    (findExample lines later).value = (findExample lines start).value := by
  obtain ⟨passed, rfl⟩ := Nat.exists_eq_add_of_le hstart
  rcases findExample_cases lines start with ⟨hnone, hreading⟩ |
    ⟨before, label, between, opening, code, closing, rest, hlines, ⟨hbefore, hlabel⟩,
      ⟨hbetween, hopening⟩, ⟨hcode, hclosing⟩, hreading⟩
  · rw [hreading, findExample_of_not_holds fun hholds => hnone (hholds.of_drop hstart)]
  · have htake : (lines.drop start).takeWhile (!hasExampleLabel ·) = before := by
      rw [hlines]
      exact takeWhile_append_stop (by simpa using hbefore) (by simpa using hlabel)
    have hpassed : passed ≤ before.length := by
      rw [labelIndex, htake] at hlater
      omega
    have hdrop : lines.drop (start + passed) =
        before.drop passed ++ label :: (between ++ opening :: (code ++ closing :: rest)) := by
      rw [← List.drop_drop, hlines, List.drop_append_of_le_length hpassed]
    rw [hreading, findExample_of_code hdrop
      (fun line hline => hbefore line (List.mem_of_mem_drop hline)) hlabel hbetween hopening hcode
      hclosing]

/-- Without a label there is no example. -/
theorem not_holdsExample_of_forall_not (h : ∀ line ∈ lines, hasExampleLabel line = false) :
    ¬HoldsExample lines := by
  rintro ⟨before, label, between, opening, code, closing, rest, rfl, hlabel, -⟩
  rw [h label (by simp)] at hlabel
  cases hlabel

/-- What becomes of an example that stands behind the description. If the first run of rows,
wherever it begins, ends before the label, the page keeps the example. If it ends behind the
label, the page has the example that follows the run, and without a label there it has none. -/
theorem exampleCode_of_example {t : Text}
    (h : (findExample t.lines (descriptionEnd t.lines)).value ≠ []) :
    (tableEnd t.lines ≤ labelIndex t.lines (descriptionEnd t.lines) →
        (extract t).exampleCode = (findExample t.lines (descriptionEnd t.lines)).value ∧
          (extract t).exampleCode ≠ []) ∧
      (labelIndex t.lines (descriptionEnd t.lines) < tableEnd t.lines →
        (extract t).exampleCode = (findExample t.lines (tableEnd t.lines)).value ∧
          ((∀ line ∈ t.lines.drop (tableEnd t.lines), hasExampleLabel line = false) →
            (extract t).exampleCode = [])) := by
  have hread : (extract t).exampleCode = (findExample t.lines (tableEnd t.lines)).value := by
    simp only [extract_eq]
  rw [hread]
  refine ⟨fun hlabel => ?_, fun _ => ⟨rfl, fun hnone => ?_⟩⟩
  · have hbehind : descriptionEnd t.lines ≤ tableEnd t.lines := le_next_findTableBlock t.lines _
    rw [value_findExample_of_le_label hbehind hlabel]
    exact ⟨rfl, h⟩
  · rw [findExample_of_not_holds (not_holdsExample_of_forall_not hnone)]

/-- A page with rows before the label, and again in the related links. -/
def pageWithTwoRuns : Text :=
  "# abs\n\nx\n\n|a|\n\n**Example**\n```\nabs(-2)\n```\n\n**See Also**\n|b|\n**Example**\n"

/-- The first run ends before the label, so the example stays. -/
theorem exampleCode_pageWithTwoRuns :
    (findExample pageWithTwoRuns.lines (descriptionEnd pageWithTwoRuns.lines)).value ≠ [] ∧
      tableEnd pageWithTwoRuns.lines ≤
        labelIndex pageWithTwoRuns.lines (descriptionEnd pageWithTwoRuns.lines) ∧
      (extract pageWithTwoRuns).exampleCode = ("abs(-2)" : Text) ∧
      (extract pageWithTwoRuns).exampleCode ≠ [] := by
  have hexample :
      (findExample pageWithTwoRuns.lines (descriptionEnd pageWithTwoRuns.lines)).value =
        ("abs(-2)" : Text) := by decide
  have hlabel : tableEnd pageWithTwoRuns.lines ≤
      labelIndex pageWithTwoRuns.lines (descriptionEnd pageWithTwoRuns.lines) := by decide
  have hne :
      (findExample pageWithTwoRuns.lines (descriptionEnd pageWithTwoRuns.lines)).value ≠ [] := by
    rw [hexample]
    decide
  obtain ⟨hsame, hkept⟩ := (exampleCode_of_example hne).1 hlabel
  exact ⟨hne, hlabel, hsame.trans hexample, hkept⟩

/-- A page without a table whose code has a line that begins with a bar. -/
def pageWithBarInCode : Text :=
  "# or\n\nBitwise or.\n\n**Example**\n```\nc = a\n| b;\n```\n"

/-- The line of code is taken for the table, and the example is lost. -/
theorem example_lost_of_pageWithBarInCode :
    (findExample pageWithBarInCode.lines (descriptionEnd pageWithBarInCode.lines)).value =
        ("c = a\n| b;" : Text) ∧
      (extract pageWithBarInCode).exampleCode = [] := by
  decide

end CommandDocs.Page
