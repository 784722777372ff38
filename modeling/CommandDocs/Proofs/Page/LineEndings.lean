import CommandDocs.Page.Extraction
import CommandDocs.Proofs.Page.RelatedLinks
import CommandDocs.Proofs.Text.LineEndings

/-!
# Pages with either line ending

A page says the same whether its lines end in a newline or in a carriage return and a
newline. The zones are read from the lines, which are the same. The related links are looked
for in the text: within a line only the end of the line is a new place, and there the search
allows a carriage return.
-/

namespace CommandDocs.Page

open Text

variable {line t : Text} {atLineStart : Bool}

/-- The carriage return, which may end the line of an opening. -/
abbrev carriageReturn : CodePoint := .scalar '\r'

/-- The carriage return is foreign to the phrase. -/
theorem isForeign_carriageReturn : IsForeign carriageReturn := by decide

/-- A line is at its end before a carriage return where it was at its end. -/
theorem atLineEnd_concat_return (h : carriageReturn ∉ line) :
    atLineEnd (line ++ [carriageReturn]) = atLineEnd line := by
  cases line with
  | nil => rfl
  | cons c rest =>
    have hc : c ≠ carriageReturn := fun heq => h (heq ▸ List.mem_cons_self ..)
    rw [List.cons_append, atLineEnd.eq_4 _ _ (fun heq _ => hc heq) (fun _ heq _ => hc heq),
      atLineEnd.eq_4 _ _ (fun heq _ => hc heq) (fun _ heq _ => hc heq)]

/-- The phrase fills a line whether or not a carriage return ends it. -/
theorem fillsLine_concat_return (h : carriageReturn ∉ line) :
    fillsLine (line ++ [carriageReturn]) = fillsLine line :=
  fillsLine_append_cons isForeign_carriageReturn (by decide) fun _ hrest =>
    atLineEnd_concat_return fun hmem => h (hrest.subset hmem)

/-- An opening does not depend on the carriage return behind its line. -/
theorem opensLinks_concat_return (h : carriageReturn ∉ line) :
    opensLinks atLineStart (line ++ [carriageReturn]) = opensLinks atLineStart line := by
  rw [opensLinks, opensBold_append_cons isForeign_carriageReturn,
    opensHeading_append_cons isForeign_carriageReturn, fillsLine_concat_return h, opensLinks]

/-- What opens in a text opens in the same text with the other line ending. -/
theorem opensLinks_crlf (h : carriageReturn ∉ t) (atLineStart : Bool) :
    opensLinks atLineStart (crlf t) = opensLinks atLineStart t := by
  by_cases hmem : newline ∈ t
  · obtain ⟨line, more, ht, hline⟩ := List.eq_append_cons_of_mem hmem
    have hreturn : carriageReturn ∉ line := by
      intro hin
      rw [ht] at h
      exact h (List.mem_append_left _ hin)
    have hcrlf : crlf t = (line ++ [carriageReturn]) ++ newline :: crlf more := by
      rw [ht, crlf_append, crlf_of_not_mem hline, crlf_newline_cons, List.append_assoc]
      rfl
    rw [hcrlf, opensLinks_append_newline, opensLinks_concat_return hreturn, ht,
      opensLinks_append_newline]
  · rw [crlf_of_not_mem hmem]

/-- The same block is found under either line ending: its position is that of the text
before it, with the other line ending. -/
theorem findOpening_crlf (h : carriageReturn ∉ t) (atLineStart : Bool) :
    findOpening atLineStart (crlf t) =
      (findOpening atLineStart t).map fun i => (crlf (t.take i)).length := by
  induction t generalizing atLineStart with
  | nil => rfl
  | cons c rest ih =>
    have hrest : carriageReturn ∉ rest := fun hmem => h (List.mem_cons_of_mem _ hmem)
    have hopens := opensLinks_crlf h atLineStart
    by_cases hc : c = newline
    · -- Both halves of the line break are passed, and the next line begins behind them.
      subst hc
      rw [crlf_newline_cons, findOpening, findOpening, findOpening,
        opensLinks_of_foreign isForeign_carriageReturn, opensLinks_of_foreign isForeign_newline,
        opensLinks_of_foreign isForeign_newline, ih hrest]
      simp [Function.comp_def, crlf_newline_cons, Nat.add_assoc]
    · rw [crlf_cons hc] at hopens ⊢
      rw [findOpening, findOpening, hopens, ih hrest]
      by_cases ho : opensLinks atLineStart (c :: rest) = true
      · simp [ho, crlf, replaceEach]
      · simp [ho, Function.comp_def, crlf_cons hc]

/-- The body is cut at the same place and trimmed alike. -/
theorem withoutRelatedLinks_crlf (h : carriageReturn ∉ t) :
    withoutRelatedLinks (crlf t) = crlf (withoutRelatedLinks t) := by
  have hfind := findOpening_crlf h true
  rw [withoutRelatedLinks, withoutRelatedLinks, findRelatedLinks, hfind, findRelatedLinks]
  cases findOpening true t with
  | none => rfl
  | some i =>
    have hsplit : crlf t = crlf (t.take i) ++ crlf (t.drop i) := by
      rw [← crlf_append, List.take_append_drop]
    simp only [Option.map_some]
    rw [hsplit, List.take_left, trim_crlf]

/-- Extraction does not depend on the line ending of a page. All zones are the same, the body
is the same text with the other line ending, and a block of related links is found in the one
page exactly when it is found in the other, behind the same text. -/
theorem extract_crlf (h : carriageReturn ∉ t) :
    extract (crlf t) = { extract t with body := crlf (extract t).body } ∧
      findRelatedLinks (crlf t) =
        (findRelatedLinks t).map fun i => (crlf (t.take i)).length := by
  refine ⟨?_, findOpening_crlf h true⟩
  rw [extract, extract, lines_crlf h, withoutRelatedLinks_crlf h]

/-- A page with every zone, in which lines also break at a vertical tab. -/
def pageOfTwoBreaks : Text :=
  "# f\n\nx\u000by\n\n|f|\n|-|\n|f(x)|\n\n**Example**\n```\nf(-2)\n```\n\n See also: \t\n- g\n"

/-- The two versions of this page are read alike. -/
theorem extract_crlf_pageOfTwoBreaks :
    carriageReturn ∉ pageOfTwoBreaks ∧
      extract (crlf pageOfTwoBreaks) =
        { extract pageOfTwoBreaks with body := crlf (extract pageOfTwoBreaks).body } ∧
      findRelatedLinks (crlf pageOfTwoBreaks) =
        (findRelatedLinks pageOfTwoBreaks).map
          fun i => (crlf (pageOfTwoBreaks.take i)).length :=
  have hreturn : carriageReturn ∉ pageOfTwoBreaks := by decide
  ⟨hreturn, extract_crlf hreturn⟩

end CommandDocs.Page
