import CommandDocs.Page.Extraction
import CommandDocs.Proofs.Text.Trim

/-!
# Zones in place

What each zone reader finds when the lines from its start are known to fall into
parts: what is passed over, the zone itself, and what follows it. The readers look
at nothing else, so every statement is about the lines behind the start.
-/

namespace CommandDocs.Page

variable {lines before block blanks paragraph rest : List Text} {start : Nat}

/-- Lines that are passed over and the first line that is not. -/
theorem takeWhile_append_stop {p : Text → Bool} {passed rest : List Text}
    (hpassed : ∀ line ∈ passed, p line = true) (hrest : ∀ line ∈ rest.head?, p line = false) :
    (passed ++ rest).takeWhile p = passed := by
  rw [List.takeWhile_append_of_pos hpassed]
  cases rest with
  | nil => simp
  | cons line more =>
    have hline : p line = false := hrest line rfl
    rw [List.takeWhile_cons_of_neg (by simp [hline]), List.append_nil]

/-- Lines that are passed over are dropped. -/
theorem dropWhile_append_stop {p : Text → Bool} {passed rest : List Text}
    (hpassed : ∀ line ∈ passed, p line = true) (hrest : ∀ line ∈ rest.head?, p line = false) :
    (passed ++ rest).dropWhile p = rest := by
  rw [List.dropWhile_append_of_pos hpassed]
  cases rest with
  | nil => rfl
  | cons line more =>
    have hline : p line = false := hrest line rfl
    rw [List.dropWhile_cons_of_neg (by simp [hline])]

/-- Going on behind a part leaves what follows it. -/
theorem drop_add_length {part : List Text} (h : lines.drop start = part ++ rest) :
    lines.drop (start + part.length) = rest := by
  rw [← List.drop_drop, h, List.drop_left]

/-- The first heading is the title. -/
theorem findTitle_of_heading {heading : Text} (h : lines.drop start = before ++ heading :: rest)
    (hbefore : ∀ line ∈ before, isHeading line = false) (hheading : isHeading heading = true) :
    findTitle lines start = ⟨headingText heading, start + before.length + 1⟩ := by
  have htake : (lines.drop start).takeWhile (!isHeading ·) = before := by
    rw [h]
    exact takeWhile_append_stop (by simpa using hbefore) (by simpa using hheading)
  have hdrop : (lines.drop start).drop before.length = heading :: rest := by
    rw [h, List.drop_left]
  simp only [findTitle, htake, hdrop]

/-- Without a heading there is no title. -/
theorem findTitle_of_forall_not (h : ∀ line ∈ lines.drop start, isHeading line = false) :
    findTitle lines start = ⟨[], start⟩ := by
  have hbefore : (lines.drop start).takeWhile (!isHeading ·) = lines.drop start := by
    rw [List.takeWhile_eq_self_iff]
    intro line hline
    simp [h line hline]
  simp only [findTitle, hbefore, List.drop_length]

/-- The description is the paragraph behind the blank lines. What follows must end
the paragraph, and must not be blank when there is no paragraph. -/
theorem readDescription_of_paragraph (h : lines.drop start = blanks ++ (paragraph ++ rest))
    (hblanks : ∀ line ∈ blanks, line.isBlank = true)
    (hparagraph : ∀ line ∈ paragraph, endsParagraph line = false)
    (hrest : ∀ line ∈ rest.head?, endsParagraph line = true)
    (hempty : paragraph = [] → ∀ line ∈ rest.head?, line.isBlank = false) :
    readDescription lines start =
      ⟨Text.join " " (paragraph.map (·.trim)), start + blanks.length + paragraph.length⟩ := by
  have hstop : ∀ line ∈ (paragraph ++ rest).head?, line.isBlank = false := by
    cases hp : paragraph with
    | nil => exact hempty hp
    | cons first others =>
      intro line hline
      have hfirst : endsParagraph line = false :=
        hparagraph line (by simpa [hp] using Or.inl hline.symm)
      simp only [endsParagraph, Bool.or_eq_false_iff] at hfirst
      exact hfirst.1.1.1
  have htake : (lines.drop start).takeWhile (·.isBlank) = blanks := by
    rw [h]
    exact takeWhile_append_stop hblanks hstop
  have hpara : ((lines.drop start).drop blanks.length).takeWhile (!endsParagraph ·) =
      paragraph := by
    rw [h, List.drop_left]
    exact takeWhile_append_stop (by simpa using hparagraph) (by simpa using hrest)
  simp only [readDescription, htake, hpara]

/-- The table is the first run of rows. -/
theorem findTableBlock_of_block (h : lines.drop start = before ++ (block ++ rest))
    (hbefore : ∀ line ∈ before, isTableRow line = false)
    (hblock : ∀ line ∈ block, isTableRow line = true) (hne : block ≠ [])
    (hrest : ∀ line ∈ rest.head?, isTableRow line = false) :
    findTableBlock lines start =
      ⟨some block, start + before.length + block.length⟩ := by
  have hstop : ∀ line ∈ (block ++ rest).head?, isTableRow line = true := by
    cases hb : block with
    | nil => exact absurd hb hne
    | cons first others =>
      intro line hline
      exact hblock line (by simpa [hb] using Or.inl hline.symm)
  have htake : (lines.drop start).takeWhile (!isTableRow ·) = before := by
    rw [h]
    exact takeWhile_append_stop (by simpa using hbefore) (by simpa using hstop)
  have hrun : ((lines.drop start).drop before.length).takeWhile isTableRow = block := by
    rw [h, List.drop_left]
    exact takeWhile_append_stop hblock hrest
  cases hb : block with
  | nil => exact absurd hb hne
  | cons first others => simp only [findTableBlock, htake, hrun, hb]

/-- Without a row there is no table. -/
theorem findTableBlock_of_forall_not (h : ∀ line ∈ lines.drop start, isTableRow line = false) :
    findTableBlock lines start = ⟨none, start⟩ := by
  have htake : (lines.drop start).takeWhile (!isTableRow ·) = lines.drop start := by
    rw [List.takeWhile_eq_self_iff]
    intro line hline
    simp [h line hline]
  simp only [findTableBlock, htake, List.drop_length, List.takeWhile_nil]

/-- A first line of the kind is found behind the lines that are not. -/
theorem splitAtFirst_append {p : Text → Bool} {line : Text}
    (hbefore : ∀ l ∈ before, p l = false) (hline : p line = true) :
    splitAtFirst p (before ++ line :: rest) = some (before, rest) := by
  have hstop : ∀ l ∈ (line :: rest).head?, (!p l) = false := by simpa using hline
  have hpassed : ∀ l ∈ before, (!p l) = true := by simpa using hbefore
  rw [splitAtFirst, dropWhile_append_stop hpassed hstop, takeWhile_append_stop hpassed hstop]

/-- What is found splits the lines at the first line of the kind. -/
theorem splitAtFirst_eq_some {p : Text → Bool} (h : splitAtFirst p lines = some (before, rest)) :
    ∃ line, lines = before ++ line :: rest ∧ p line = true ∧ ∀ l ∈ before, p l = false := by
  rw [splitAtFirst] at h
  cases hd : lines.dropWhile (!p ·) with
  | nil => simp [hd] at h
  | cons line behind =>
    simp only [hd, Option.some.injEq, Prod.mk.injEq] at h
    have hsplit := List.takeWhile_append_dropWhile (p := (!p ·)) (l := lines)
    rw [hd, h.1, h.2] at hsplit
    refine ⟨line, hsplit.symm, ?_, ?_⟩
    · have hhead := List.head?_dropWhile_not (p := (!p ·)) (l := lines)
      simpa [hd] using hhead
    · intro l hl
      rw [← h.1] at hl
      simpa using List.mem_takeWhile_imp hl

/-- The lines hold a complete example: its label, and behind it two fences. -/
def HoldsExample (lines : List Text) : Prop :=
  ∃ before label between opening code closing rest,
    lines = before ++ label :: (between ++ opening :: (code ++ closing :: rest)) ∧
      hasExampleLabel label = true ∧ isFence opening = true ∧ isFence closing = true

/-- Lines without a label do not help to complete an example. -/
theorem HoldsExample.of_append {passed : List Text} (h : HoldsExample (passed ++ lines))
    (hpassed : ∀ line ∈ passed, hasExampleLabel line = false) : HoldsExample lines := by
  obtain ⟨before, label, between, opening, code, closing, rest, hlines, hmarks⟩ := h
  rcases List.append_eq_append_iff.mp hlines with ⟨more, -, hmore⟩ | ⟨more, hbefore, hmore⟩
  · exact ⟨more, label, between, opening, code, closing, rest, hmore, hmarks⟩
  · cases more with
    | nil => exact ⟨[], label, between, opening, code, closing, rest, hmore.symm, hmarks⟩
    | cons line others =>
      -- The label would be one of the lines that were passed.
      rw [List.cons_append] at hmore
      have hlabel : label ∈ passed := by
        rw [hbefore, (List.cons.inj hmore).1]
        simp
      rw [hpassed label hlabel] at hmarks
      cases hmarks.1

/-- The example is the code between the fences behind the label. -/
theorem findExample_of_code {label opening closing : Text} {between code : List Text}
    (h : lines.drop start =
      before ++ label :: (between ++ opening :: (code ++ closing :: rest)))
    (hbefore : ∀ line ∈ before, hasExampleLabel line = false)
    (hlabel : hasExampleLabel label = true)
    (hbetween : ∀ line ∈ between, isFence line = false) (hopening : isFence opening = true)
    (hcode : ∀ line ∈ code, isFence line = false) (hclosing : isFence closing = true) :
    findExample lines start = ⟨Text.trim (Text.join "\n" code),
      start + (before.length + 1 + between.length + 1 + code.length + 1)⟩ := by
  simp only [findExample, h, splitAtFirst_append hbefore hlabel,
    splitAtFirst_append hbetween hopening, splitAtFirst_append hcode hclosing,
    Option.bind_eq_bind, Option.bind_some]

/-- Without a complete example none is found. -/
theorem findExample_of_not_holds (h : ¬HoldsExample (lines.drop start)) :
    findExample lines start = ⟨[], start⟩ := by
  rw [findExample]
  cases h1 : splitAtFirst hasExampleLabel (lines.drop start) with
  | none => rfl
  | some labelled =>
    obtain ⟨before, behindLabel⟩ := labelled
    cases h2 : splitAtFirst isFence behindLabel with
    | none => simp [h2]
    | some fenced =>
      obtain ⟨between, behindFence⟩ := fenced
      cases h3 : splitAtFirst isFence behindFence with
      | none => simp [h2, h3]
      | some closed =>
        obtain ⟨code, rest⟩ := closed
        obtain ⟨label, e1, hlabel, -⟩ := splitAtFirst_eq_some h1
        obtain ⟨opening, e2, hopening, -⟩ := splitAtFirst_eq_some h2
        obtain ⟨closing, e3, hclosing, -⟩ := splitAtFirst_eq_some h3
        refine absurd ⟨before, label, between, opening, code, closing, rest, ?_, hlabel,
          hopening, hclosing⟩ h
        rw [e1, e2, e3]

end CommandDocs.Page
