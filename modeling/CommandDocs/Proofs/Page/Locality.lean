import CommandDocs.Proofs.Page.Readings

/-!
# Zone readers are local

A zone reader looks at the lines from its start up to the line at which it stops, and at nothing
else. More lines in front move the reading by their number. The line at which reading goes on is
not before the start, and it is at most the one behind the last line, or the start itself when
that lies further on. Once the zone is found, all lines behind the line at which reading goes on
may be taken away or be replaced.
-/

namespace CommandDocs.Page

variable {lines part rest : List Text} {start : Nat}

/-- A zone reader does not depend on what is not between its start and the line at which it stops.
Which lines hold the zone, seen from a start, is told apart from the reader. -/
structure IsLocal {α : Type} (read : List Text → Nat → Reading α)
    (holds : List Text → Nat → Prop) : Prop where
  /-- Lines in front of all others move the reading. -/
  shift : ∀ front lines start,
    read (front ++ lines) (front.length + start) = (read lines start).shift front.length
  /-- Reading does not go back. -/
  le_next : ∀ lines start, start ≤ (read lines start).next
  /-- Reading does not run past the lines. -/
  next_le : ∀ lines start, (read lines start).next ≤ max start lines.length
  /-- A zone that is missing leaves the reading at its start. -/
  missing : ∀ lines start, ¬holds lines start → (read lines start).next = start
  /-- Lines behind the one at which reading goes on do not matter once the zone is found. -/
  behind : ∀ lines start others, holds lines start → (read lines start).next < lines.length →
    read (lines.take ((read lines start).next + 1) ++ others) start = read lines start

/-- A part of the lines from a start ends within them, or is empty where there are none. -/
theorem add_length_le_max (h : lines.drop start = part ++ rest) :
    start + part.length ≤ max start lines.length := by
  have hlength := congrArg List.length h
  rw [List.length_drop, List.length_append] at hlength
  omega

/-- A part of the lines from a start that is not the last one stays where it is when the lines
behind the next line are replaced. -/
theorem exists_drop_take_append (h : lines.drop start = part ++ rest)
    (hlt : start + part.length < lines.length) :
    ∃ line more, rest = line :: more ∧ ∀ others,
      (lines.take (start + part.length + 1) ++ others).drop start = part ++ line :: others := by
  have hlength := congrArg List.length h
  rw [List.length_drop, List.length_append] at hlength
  obtain ⟨line, more, rfl⟩ := List.exists_cons_of_length_pos (l := rest) (by omega)
  refine ⟨line, more, rfl, fun others => ?_⟩
  have hcount : start + part.length + 1 - start = (part ++ [line]).length := by
    rw [List.length_append, List.length_singleton]
    omega
  have hstart : start ≤ (lines.take (start + part.length + 1)).length := by
    rw [List.length_take]
    omega
  have hsplit : part ++ line :: more = (part ++ [line]) ++ more := List.append_cons ..
  rw [List.drop_append_of_le_length hstart, List.drop_take, h, hcount, hsplit, List.take_left,
    List.append_assoc, List.singleton_append]

/-- The title is looked for among the lines from the start on. -/
theorem isLocal_findTitle :
    IsLocal findTitle fun lines start => ∃ line ∈ lines.drop start, isHeading line = true where
  shift front lines start := by rw [findTitle_drop, List.drop_left]
  le_next := le_next_findTitle
  next_le lines start := by
    rcases findTitle_cases lines start with
      ⟨-, hreading⟩ | ⟨before, heading, rest, hlines, -, -, hreading⟩
    · rw [hreading]
      exact Nat.le_max_left ..
    · rw [List.append_cons] at hlines
      have hle := add_length_le_max hlines
      rw [List.length_append, List.length_singleton] at hle
      rw [hreading]
      exact hle
  missing lines start hnone := by
    have hall : ∀ line ∈ lines.drop start, isHeading line = false := by
      intro line hline
      exact Bool.eq_false_iff.mpr fun hheading => hnone ⟨line, hline, hheading⟩
    rw [findTitle_of_forall_not hall]
  behind lines start others hholds hlt := by
    rcases findTitle_cases lines start with
      ⟨hnone, -⟩ | ⟨before, heading, rest, hlines, hbefore, hheading, hreading⟩
    · obtain ⟨line, hline, hheading⟩ := hholds
      rw [hnone line hline] at hheading
      cases hheading
    · rw [List.append_cons] at hlines
      rw [hreading] at hlt ⊢
      obtain ⟨line, more, rfl, hother⟩ := exists_drop_take_append hlines
        (by simpa [Nat.add_assoc] using hlt)
      have hdrop := hother others
      rw [List.length_append, List.length_singleton, ← List.append_cons] at hdrop
      exact findTitle_of_heading hdrop hbefore hheading

/-- The description is read in every case, if only as an empty one. -/
theorem isLocal_readDescription : IsLocal readDescription fun _ _ => True where
  shift front lines start := by rw [readDescription_drop, List.drop_left]
  le_next := le_next_readDescription
  next_le lines start := by
    obtain ⟨blanks, paragraph, rest, hlines, -, -, -, -, hreading⟩ :=
      readDescription_cases lines start
    rw [← List.append_assoc] at hlines
    have hle := add_length_le_max hlines
    rw [List.length_append, ← Nat.add_assoc] at hle
    rw [hreading]
    exact hle
  missing lines start hnone := absurd trivial hnone
  behind lines start others _ hlt := by
    obtain ⟨blanks, paragraph, rest, hlines, hblanks, hparagraph, hends, hempty, hreading⟩ :=
      readDescription_cases lines start
    rw [← List.append_assoc] at hlines
    rw [hreading] at hlt ⊢
    obtain ⟨line, more, rfl, hother⟩ := exists_drop_take_append hlines
      (by simpa [Nat.add_assoc] using hlt)
    have hdrop := hother others
    rw [List.length_append, ← Nat.add_assoc, List.append_assoc] at hdrop
    -- the line that ended the paragraph is still the one behind it
    exact readDescription_of_paragraph hdrop hblanks hparagraph hends hempty

/-- The table is looked for among the lines from the start on. -/
theorem isLocal_findTableBlock :
    IsLocal findTableBlock fun lines start =>
      ∃ line ∈ lines.drop start, isTableRow line = true where
  shift front lines start := by rw [findTableBlock_drop, List.drop_left]
  le_next := le_next_findTableBlock
  next_le lines start := by
    rcases findTableBlock_cases lines start with ⟨-, hreading⟩ |
      ⟨before, block, rest, hlines, -, -, -, -, hreading⟩
    · rw [hreading]
      exact Nat.le_max_left ..
    · rw [← List.append_assoc] at hlines
      have hle := add_length_le_max hlines
      rw [List.length_append, ← Nat.add_assoc] at hle
      rw [hreading]
      exact hle
  missing lines start hnone := by
    have hall : ∀ line ∈ lines.drop start, isTableRow line = false := by
      intro line hline
      exact Bool.eq_false_iff.mpr fun hrow => hnone ⟨line, hline, hrow⟩
    rw [findTableBlock_of_forall_not hall]
  behind lines start others hholds hlt := by
    rcases findTableBlock_cases lines start with ⟨hnone, -⟩ |
      ⟨before, block, rest, hlines, hbefore, hblock, hne, hends, hreading⟩
    · obtain ⟨line, hline, hrow⟩ := hholds
      rw [hnone line hline] at hrow
      cases hrow
    · rw [← List.append_assoc] at hlines
      rw [hreading] at hlt ⊢
      obtain ⟨line, more, rfl, hother⟩ := exists_drop_take_append hlines
        (by simpa [Nat.add_assoc] using hlt)
      have hdrop := hother others
      rw [List.length_append, ← Nat.add_assoc, List.append_assoc] at hdrop
      exact findTableBlock_of_block hdrop hbefore hblock hne hends

/-- The example is looked for among the lines from the start on. -/
theorem isLocal_findExample :
    IsLocal findExample fun lines start => HoldsExample (lines.drop start) where
  shift front lines start := by rw [findExample_drop, List.drop_left]
  le_next := le_next_findExample
  next_le lines start := by
    rcases findExample_cases lines start with ⟨-, hreading⟩ |
      ⟨before, label, between, opening, code, closing, rest, hlines, -, -, -, hreading⟩
    · rw [hreading]
      exact Nat.le_max_left ..
    · have hlength := congrArg List.length hlines
      simp only [List.length_drop, List.length_append, List.length_cons] at hlength
      rw [hreading]
      dsimp only
      omega
  missing lines start hnone := by rw [findExample_of_not_holds hnone]
  behind lines start others hholds hlt := by
    rcases findExample_cases lines start with ⟨hnone, -⟩ |
      ⟨before, label, between, opening, code, closing, rest, hlines, ⟨hbefore, hlabel⟩,
        ⟨hbetween, hopening⟩, ⟨hcode, hclosing⟩, hreading⟩
    · exact absurd hholds hnone
    · rw [hreading] at hlt ⊢
      dsimp only at hlt ⊢
      -- the closing fence is the last line of the part that was read
      have hpart : lines.drop start =
          (before ++ label :: (between ++ opening :: (code ++ [closing]))) ++ rest := by
        simpa using hlines
      have hlength : (before ++ label :: (between ++ opening :: (code ++ [closing]))).length =
          before.length + 1 + between.length + 1 + code.length + 1 := by
        simp only [List.length_append, List.length_cons, List.length_nil]
        omega
      obtain ⟨line, more, rfl, hother⟩ := exists_drop_take_append hpart (by rw [hlength]; exact hlt)
      have hdrop := hother others
      rw [hlength] at hdrop
      simp only [List.append_assoc, List.cons_append, List.nil_append] at hdrop
      exact findExample_of_code hdrop hbefore hlabel hbetween hopening hcode hclosing

/-- All four zone readers are local. A title and a table are found when there is a heading or a row
from the start on, an example when all its marks are there, and a description always. -/
theorem isLocal_readers :
    (IsLocal findTitle fun lines start => ∃ line ∈ lines.drop start, isHeading line = true) ∧
      (IsLocal readDescription fun _ _ => True) ∧
      (IsLocal findTableBlock fun lines start =>
        ∃ line ∈ lines.drop start, isTableRow line = true) ∧
      IsLocal findExample fun lines start => HoldsExample (lines.drop start) :=
  ⟨isLocal_findTitle, isLocal_readDescription, isLocal_findTableBlock, isLocal_findExample⟩

end CommandDocs.Page
