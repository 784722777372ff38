import CommandDocs.Proofs.Page.Openings

/-!
# The line of the related links

The line in which the related links open is the last one that the body of a page depends on.
No kind of opening reaches over a newline. What follows the line therefore completes no
opening before the one that was found and does not undo that one.
-/

namespace CommandDocs.Page

variable {front t : Text} {atLineStart : Bool} {i k : Nat}

/-- Position of the first newline at or behind position `i`; without one the end of the text. -/
def lineEnd (t : Text) (i : Nat) : Nat := i + ((t.drop i).takeWhile (· != newline)).length

/-- The end of a line is not before the position from which it is searched. -/
theorem le_lineEnd (t : Text) (i : Nat) : i ≤ lineEnd t i := Nat.le_add_right i _

/-- What stands before the end of a line is the whole text, or a newline follows it. -/
theorem take_lineEnd_cases (t : Text) (i : Nat) :
    t.take (lineEnd t i) = t ∨ ∃ rest, t = t.take (lineEnd t i) ++ newline :: rest := by
  have hline : t.drop i = (t.drop i).takeWhile (· != newline) ++
      (t.drop i).dropWhile (· != newline) := List.takeWhile_append_dropWhile.symm
  have htake : t.take (lineEnd t i) = t.take i ++ (t.drop i).takeWhile (· != newline) := by
    rw [lineEnd, List.take_add, ← List.prefix_iff_eq_take.mp (List.takeWhile_prefix _)]
  have hwhole : t = t.take (lineEnd t i) ++ (t.drop i).dropWhile (· != newline) := by
    rw [htake, List.append_assoc, ← hline, List.take_append_drop]
  cases hrest : (t.drop i).dropWhile (· != newline) with
  | nil =>
    rw [hrest, List.append_nil] at hwhole
    exact Or.inl hwhole.symm
  | cons c rest =>
    have hhead := List.head?_dropWhile_not (p := (· != newline)) (l := t.drop i)
    have hc : c = newline := by simpa [hrest] using hhead
    rw [hrest, hc] at hwhole
    exact Or.inr ⟨rest, hwhole⟩

/-- Where lines begin in a text does not depend on what is put behind it. -/
theorem beginsLine_append (hk : k ≤ front.length) (behind : Text) :
    beginsLine atLineStart (front ++ behind) k = beginsLine atLineStart front k := by
  cases k with
  | zero => rfl
  | succ k => rw [beginsLine, beginsLine, List.getElem?_append_left hk]

/-- The search stops at a position of a text, or does not, whatever stands on the lines behind
the text. -/
theorem findOpening_append_newline_iff (hi : i ≤ front.length) (s : Text) :
    findOpening atLineStart (front ++ newline :: s) = some i ↔
      findOpening atLineStart front = some i := by
  have hat : ∀ k ≤ i, opensLinks (beginsLine atLineStart (front ++ newline :: s) k)
      ((front ++ newline :: s).drop k) =
        opensLinks (beginsLine atLineStart front k) (front.drop k) := by
    intro k hk
    have hfront : k ≤ front.length := hk.trans hi
    rw [beginsLine_append hfront, List.drop_append_of_le_length hfront, opensLinks_append_newline]
  rw [findOpening_eq_some_iff, findOpening_eq_some_iff, hat i le_rfl]
  refine and_congr_right fun _ => forall₂_congr fun k hk => ?_
  rw [hat k hk.le]

/-- The related links open at the same position when the lines behind theirs are replaced, and
the body is the same: it depends on nothing behind the line in which the block opens. -/
theorem body_of_take_lineEnd (h : findRelatedLinks t = some i) (s : Text) :
    findRelatedLinks (t.take (lineEnd t i) ++ newline :: s) = some i ∧
      withoutRelatedLinks (t.take (lineEnd t i) ++ newline :: s) = withoutRelatedLinks t := by
  have hle := le_lineEnd t i
  have hlength : i ≤ (t.take (lineEnd t i)).length := by
    have hi := lt_length_of_findOpening h
    rw [List.length_take]
    omega
  have hline : findOpening true (t.take (lineEnd t i)) = some i := by
    rcases take_lineEnd_cases t i with hwhole | ⟨rest, hrest⟩
    · rw [hwhole]
      exact h
    · have hpage : findOpening true t = some i := h
      rw [hrest] at hpage
      exact (findOpening_append_newline_iff hlength rest).mp hpage
  have hfound : findRelatedLinks (t.take (lineEnd t i) ++ newline :: s) = some i :=
    (findOpening_append_newline_iff hlength s).mpr hline
  have hbefore : (t.take (lineEnd t i) ++ newline :: s).take i = t.take i := by
    rw [List.take_append_of_le_length hlength, List.take_take, Nat.min_eq_left hle]
  refine ⟨hfound, ?_⟩
  simp only [withoutRelatedLinks, hfound, h, hbefore]

/-- A page whose related links open in a bare phrase, before a colon and the end of the line. -/
def pageWithBareLinks : Text := "# abs\r\n\r\n\tSee also : \r\n- [sqrt](./sqrt.md)\r\n"

/-- On this page the list of links can become another block of related links. -/
theorem body_of_pageWithBareLinks :
    findRelatedLinks pageWithBareLinks = some 9 ∧ lineEnd pageWithBareLinks 9 = 22 ∧
      findRelatedLinks (pageWithBareLinks.take 22 ++ newline :: "**See Also**") = some 9 ∧
      withoutRelatedLinks (pageWithBareLinks.take 22 ++ newline :: "**See Also**") =
        ("# abs" : Text) := by
  have hlinks : findRelatedLinks pageWithBareLinks = some 9 := by decide
  have hend : lineEnd pageWithBareLinks 9 = 22 := by decide
  have hbody : withoutRelatedLinks pageWithBareLinks = ("# abs" : Text) := by decide
  obtain ⟨hfound, hsame⟩ := body_of_take_lineEnd hlinks "**See Also**"
  rw [hend] at hfound hsame
  exact ⟨hlinks, hend, hfound, hsame.trans hbody⟩

end CommandDocs.Page
