import CommandDocs.Proofs.Page.Openings
import CommandDocs.Proofs.Page.Readings
import CommandDocs.Proofs.Text.EndedLines

/-!
# Pages without their related links

The zones of a page are searched on the whole page, its related links included. A zone that
ends before the line in which the links open is read alike when the page is cut there, and a
zone that is missing on the whole page is missing on the cut page. The content of a page can
therefore come from its related links only through a search that reaches into them.
-/

namespace CommandDocs.Page

open Text

variable {lines cut common others : List Text} {last more t behind mark : Text} {start i : Nat}
  {atLineStart : Bool}

/-! ### Marks on a line that is cut -/

/-- A mark in which no opening can begin stands before the opening that cuts its line. -/
theorem prefix_of_cut (hmark : ∀ c ∈ mark, beginsOpening c = false)
    (hopens : opensLinks atLineStart behind = true) (h : mark <+: trimStart (last ++ behind)) :
    mark <+: last.trimStart := by
  rcases prefix_trimStart_append_cases h with hlast | ⟨-, hbehind⟩ | ⟨rest, hne, -, hparts, hbehind⟩
  · exact hlast
  · cases mark with
    | nil => exact List.nil_prefix
    | cons c others =>
      obtain ⟨d, after, htrim, hbegins, -⟩ := exists_trimStart_of_opensLinks hopens
      rw [htrim, List.cons_prefix_cons] at hbehind
      rw [← hbehind.1, hmark c (List.mem_cons_self ..)] at hbegins
      cases hbegins
  · obtain ⟨c, others, rfl⟩ := List.exists_cons_of_ne_nil hne
    obtain ⟨after, rfl⟩ := hbehind
    have hbegins := beginsOpening_of_opensLinks hopens
    rw [hmark c (by rw [hparts]; simp)] at hbegins
    cases hbegins

/-- The line begins the example label, and the asterisks of an opening can complete it. -/
def beginsLabel (line : Text) : Bool :=
  line.trimStart == ("**Example" : Text) || line.trimStart == ("**Example*" : Text)

/-- The example label stands before the opening that cuts its line, unless the two share
asterisks. -/
theorem label_of_cut (hlabel : beginsLabel last = false)
    (hopens : opensLinks atLineStart behind = true)
    (h : exampleLabel <+: trimStart (last ++ behind)) : exampleLabel <+: last.trimStart := by
  rcases prefix_trimStart_append_cases h with hlast | ⟨-, after, hbehind⟩ |
    ⟨rest, hne, hpart, hparts, after, hbehind⟩
  · exact hlast
  · -- The asterisks of the label are followed by no phrase.
    obtain ⟨c, tail, htrim, -, hstar⟩ := exists_trimStart_of_opensLinks hopens
    rw [htrim] at hbehind
    obtain ⟨hc, htail⟩ := List.cons.inj hbehind
    obtain ⟨phrase, hphrase, hread⟩ := hstar hc.symm
    rw [← htail] at hphrase
    rw [← (List.cons.inj hphrase).2] at hread
    cases hread
  · have hlength := congrArg List.length hparts
    rw [List.length_append] at hlength
    have hpos := List.length_pos_of_ne_nil hpart
    have hpos' := List.length_pos_of_ne_nil hne
    have htake : last.trimStart = exampleLabel.take last.trimStart.length := by
      rw [hparts, List.take_left]
    have hdrop : rest = exampleLabel.drop last.trimStart.length := by
      rw [hparts, List.drop_left]
    have hbegins : ∀ c ∈ rest.head?, beginsOpening c = true := by
      intro c hc
      obtain ⟨tail, rfl⟩ := List.head?_eq_some_iff.mp hc
      rw [← hbehind] at hopens
      exact beginsOpening_of_opensLinks hopens
    rw [hdrop] at hbegins
    have hplaces : ∀ k < exampleLabel.length, 0 < k →
        (∀ c ∈ (exampleLabel.drop k).head?, beginsOpening c = true) →
          k = 1 ∨ exampleLabel.take k = ("**Example" : Text) ∨
            exampleLabel.take k = ("**Example*" : Text) := by decide
    rcases hplaces _ (by omega) hpos hbegins with hone | hnine | hten
    · -- One asterisk opens nothing, and no second one follows it.
      rw [← hbehind, hdrop, hone] at hopens
      obtain ⟨c, tail, htrim, -, hstar⟩ := exists_trimStart_of_opensLinks hopens
      have hself : trimStart (exampleLabel.drop 1 ++ after) = exampleLabel.drop 1 ++ after :=
        trimStart_cons (by decide) _
      obtain ⟨hc, htail⟩ := List.cons.inj (hself.symm.trans htrim)
      obtain ⟨phrase, hphrase, -⟩ := hstar hc.symm
      rw [hphrase] at htail
      cases htail
    · rw [beginsLabel, htake, hnine] at hlabel
      cases hlabel
    · rw [beginsLabel, htake, hten] at hlabel
      cases hlabel

/-- What opens with a mark is not blank. -/
theorem isBlank_eq_false_of_prefix {t mark : Text} (h : mark <+: t.trimStart) (hne : mark ≠ []) :
    t.isBlank = false := by
  refine Bool.eq_false_iff.mpr fun hblank => hne ?_
  have hnil : t.trimStart = [] := List.dropWhile_eq_nil_iff.mpr (isBlank_iff.mp hblank)
  rw [hnil] at h
  exact List.prefix_nil.mp h

/-- Where a paragraph ends, it ends before an opening that cuts the line. -/
theorem endsParagraph_of_cut (hlabel : beginsLabel last = false)
    (hopens : opensLinks atLineStart behind = true) (hmore : more <+: behind)
    (h : endsParagraph (last ++ more) = true) :
    endsParagraph last = true ∧ (isBlank (last ++ more) = false → last.isBlank = false) := by
  have hbehind : trimStart (last ++ more) <+: trimStart (last ++ behind) := by
    obtain ⟨after, rfl⟩ := hmore
    rw [← List.append_assoc]
    exact trimStart_prefix_append _ _
  simp only [endsParagraph, isTableRow, isFence, Bool.or_eq_true] at h ⊢
  rcases h with ((hblank | hrow) | hfence) | hexample
  · have hlast : last.isBlank = true :=
      isBlank_iff.mpr fun c hc => isBlank_iff.mp hblank c (List.mem_append_left _ hc)
    exact ⟨Or.inl (Or.inl (Or.inl hlast)), fun hnot => by rw [hblank] at hnot; cases hnot⟩
  · have hmark : [cellBar] <+: last.trimStart := prefix_of_cut (by decide) hopens
      (((startsWith_trim_iff (by decide)).mp hrow).trans hbehind)
    exact ⟨Or.inl (Or.inl (Or.inr ((startsWith_trim_iff (by decide)).mpr hmark))),
      fun _ => isBlank_eq_false_of_prefix hmark (by decide)⟩
  · have hmark : codeFence <+: last.trimStart := prefix_of_cut (by decide) hopens
      (((startsWith_trim_iff (by decide)).mp hfence).trans hbehind)
    exact ⟨Or.inl (Or.inr ((startsWith_trim_iff (by decide)).mpr hmark)),
      fun _ => isBlank_eq_false_of_prefix hmark (by decide)⟩
  · have hmark : exampleLabel <+: last.trimStart := label_of_cut hlabel hopens
      (((startsWith_trim_iff (by decide)).mp hexample).trans hbehind)
    exact ⟨Or.inr ((startsWith_trim_iff (by decide)).mpr hmark),
      fun _ => isBlank_eq_false_of_prefix hmark (by decide)⟩

/-! ### Marks on a line that goes on -/

/-- A line that is no heading was none before it went on. -/
theorem isHeading_of_append (h : isHeading (last ++ more) = false) : isHeading last = false := by
  have hmark : Text.trim "#" = "#" := by decide
  exact Bool.eq_false_iff.mpr fun hlast =>
    Bool.eq_false_iff.mp h (startsWith_trim_append hmark hlast more)

/-- A line that is no row was none before it went on. -/
theorem isTableRow_of_append (h : isTableRow (last ++ more) = false) : isTableRow last = false :=
  Bool.eq_false_iff.mpr fun hlast =>
    Bool.eq_false_iff.mp h (startsWith_trim_append (by decide) hlast more)

/-- A fence stays a fence when its line goes on. -/
theorem isFence_append (h : isFence last = true) (more : Text) : isFence (last ++ more) = true :=
  startsWith_trim_append (by decide) h more

/-- A complete example is still there when the last line goes on and further lines follow. -/
theorem HoldsExample.extend (h : HoldsExample (lines ++ [last])) (more : Text)
    (others : List Text) : HoldsExample (lines ++ (last ++ more) :: others) := by
  obtain ⟨before, label, between, opening, code, closing, rest, hlines, hlabel, hopening,
    hclosing⟩ := h
  rcases List.eq_nil_or_concat' rest with rfl | ⟨init, line, rfl⟩
  · -- The last line is the closing fence, and stays one.
    have hsplit : lines ++ [last] =
        (before ++ label :: (between ++ opening :: code)) ++ [closing] := by
      rw [hlines]
      simp
    obtain ⟨rfl, hlast⟩ := List.append_inj' hsplit rfl
    rw [List.singleton_inj] at hlast
    refine ⟨before, label, between, opening, code, last ++ more, others, by simp, hlabel, hopening,
      isFence_append (hlast ▸ hclosing) more⟩
  · have hsplit : lines ++ [last] =
        (before ++ label :: (between ++ opening :: (code ++ closing :: init))) ++ [line] := by
      rw [hlines]
      simp
    obtain ⟨rfl, -⟩ := List.append_inj' hsplit rfl
    exact HoldsExample.append
      ⟨before, label, between, opening, code, closing, init, rfl, hlabel, hopening, hclosing⟩ _

/-! ### Zones before a line that is cut -/

/-- Lines without a kind are without it when the last of them is cut. -/
theorem forall_not_cut {p : Text → Bool} (hstart : start ≤ common.length)
    (hlast : p (last ++ more) = false → p last = false)
    (h : ∀ line ∈ (common ++ (last ++ more) :: others).drop start, p line = false) :
    ∀ line ∈ (common ++ [last]).drop start, p line = false := by
  rw [List.drop_append_of_le_length hstart] at h ⊢
  intro line hmem
  rcases List.mem_append.mp hmem with hcommon | hcut
  · exact h line (List.mem_append_left _ hcommon)
  · rw [List.mem_singleton.mp hcut]
    exact hlast (h (last ++ more) (by simp))

/-- A title that ends above a line is the title when the line is cut and the others go. -/
theorem findTitle_cut
    (hend : (findTitle (common ++ (last ++ more) :: others) start).next ≤ common.length) :
    findTitle (common ++ [last]) start = findTitle (common ++ (last ++ more) :: others) start := by
  have hstart := (le_next_findTitle _ _).trans hend
  rcases findTitle_cases (common ++ (last ++ more) :: others) start with
    ⟨hnone, hreading⟩ | ⟨before, heading, rest, hlines, hbefore, hheading, hreading⟩
  · rw [hreading, findTitle_of_forall_not (forall_not_cut hstart isHeading_of_append hnone)]
  · rw [hreading] at hend ⊢
    rw [List.append_cons before] at hlines
    obtain ⟨next, hnext, -⟩ := exists_drop_append hstart hlines
      (by simpa [Nat.add_assoc] using hend)
    have hcut : (common ++ [last]).drop start = before ++ heading :: (next ++ [last]) := by
      rw [List.drop_append_of_le_length hstart, hnext]
      simp
    rw [findTitle_of_heading hcut hbefore hheading]

/-- So is a description, if a paragraph that ends at the line also ends at what is left of it. -/
theorem readDescription_cut
    (hend : (readDescription (common ++ (last ++ more) :: others) start).next ≤ common.length)
    (hline : endsParagraph (last ++ more) = true →
      endsParagraph last = true ∧ (isBlank (last ++ more) = false → last.isBlank = false)) :
    readDescription (common ++ [last]) start =
      readDescription (common ++ (last ++ more) :: others) start := by
  have hstart := (le_next_readDescription _ _).trans hend
  obtain ⟨blanks, paragraph, rest, hlines, hblanks, hparagraph, hends, hempty, hreading⟩ :=
    readDescription_cases (common ++ (last ++ more) :: others) start
  rw [hreading] at hend ⊢
  rw [← List.append_assoc] at hlines
  obtain ⟨next, hnext, rfl⟩ := exists_drop_append hstart hlines
    (by simpa [Nat.add_assoc] using hend)
  have hcut : (common ++ [last]).drop start = blanks ++ (paragraph ++ (next ++ [last])) := by
    rw [List.drop_append_of_le_length hstart, hnext]
    simp
  -- The paragraph ends at the same line, or at the line that is cut.
  rw [readDescription_of_paragraph hcut hblanks hparagraph]
  · cases next with
    | nil =>
      intro line hhead
      rw [List.nil_append, List.head?_cons, Option.mem_some_iff] at hhead
      rw [← hhead]
      exact (hline (hends _ rfl)).1
    | cons line next => exact hends
  · cases next with
    | nil =>
      intro hnil line hhead
      rw [List.nil_append, List.head?_cons, Option.mem_some_iff] at hhead
      rw [← hhead]
      exact (hline (hends _ rfl)).2 (hempty hnil _ rfl)
    | cons line next => exact hempty

/-- So is a table. -/
theorem findTableBlock_cut
    (hend : (findTableBlock (common ++ (last ++ more) :: others) start).next ≤ common.length) :
    findTableBlock (common ++ [last]) start =
      findTableBlock (common ++ (last ++ more) :: others) start := by
  have hstart := (le_next_findTableBlock _ _).trans hend
  rcases findTableBlock_cases (common ++ (last ++ more) :: others) start with ⟨hnone, hreading⟩ |
    ⟨before, block, rest, hlines, hbefore, hblock, hne, hends, hreading⟩
  · rw [hreading,
      findTableBlock_of_forall_not (forall_not_cut hstart isTableRow_of_append hnone)]
  · rw [hreading] at hend ⊢
    rw [← List.append_assoc] at hlines
    obtain ⟨next, hnext, rfl⟩ := exists_drop_append hstart hlines
      (by simpa [Nat.add_assoc] using hend)
    have hcut : (common ++ [last]).drop start = before ++ (block ++ (next ++ [last])) := by
      rw [List.drop_append_of_le_length hstart, hnext]
      simp
    rw [findTableBlock_of_block hcut hbefore hblock hne]
    cases next with
    | nil =>
      -- The run ends at the line that is cut, which is no row as a whole.
      intro line hhead
      rw [List.nil_append, List.head?_cons, Option.mem_some_iff] at hhead
      rw [← hhead]
      exact isTableRow_of_append (hends _ rfl)
    | cons line next => exact hends

/-- So is an example. -/
theorem findExample_cut
    (hend : (findExample (common ++ (last ++ more) :: others) start).next ≤ common.length) :
    findExample (common ++ [last]) start =
      findExample (common ++ (last ++ more) :: others) start := by
  have hstart := (le_next_findExample _ _).trans hend
  rcases findExample_cases (common ++ (last ++ more) :: others) start with ⟨hnone, hreading⟩ |
    ⟨before, label, between, opening, code, closing, rest, hlines, ⟨hbefore, hlabel⟩,
      ⟨hbetween, hopening⟩, ⟨hcode, hclosing⟩, hreading⟩
  · rw [hreading, findExample_of_not_holds]
    rw [List.drop_append_of_le_length hstart] at hnone ⊢
    exact fun hholds => hnone (hholds.extend more others)
  · rw [hreading] at hend ⊢
    obtain ⟨next, hnext⟩ := exists_drop_example hstart hlines hend
    have hcut : (common ++ [last]).drop start =
        before ++ label :: (between ++ opening :: (code ++ closing :: (next ++ [last]))) := by
      rw [List.drop_append_of_le_length hstart, hnext]
      simp
    rw [findExample_of_code hcut hbefore hlabel hbetween hopening hcode hclosing]

/-! ### The page before its related links -/

/-- The lines of a text, and those of the text cut at a position. Both begin with the lines
`common`; then one text goes on in the line that `last` begins, and the other ends. -/
structure CutAt (lines cut common : List Text) (last behind : Text) : Prop where
  /-- The whole text goes on with what is behind the cut. -/
  whole : ∃ more others, more <+: behind ∧ lines = common ++ (last ++ more) :: others
  /-- The cut text ends with the line that was begun, if it was. -/
  ended : cut = common ∨ cut = common ++ [last]

namespace CutAt

variable (h : CutAt lines cut common last behind)
include h

/-- A title that ends before the cut line is the title of the cut text. -/
theorem findTitle_eq (hend : (findTitle lines start).next ≤ common.length) :
    findTitle cut start = findTitle lines start := by
  obtain ⟨more, others, -, rfl⟩ := h.whole
  rcases h.ended with rfl | rfl
  · exact (findTitle_append hend).symm
  · exact findTitle_cut hend

/-- So is a description, unless the cut takes the label away at which it ended. -/
theorem readDescription_eq (hopens : opensLinks atLineStart behind = true)
    (hlabel : beginsLabel last = false)
    (hend : (readDescription lines start).next ≤ common.length) :
    readDescription cut start = readDescription lines start := by
  obtain ⟨more, others, hmore, rfl⟩ := h.whole
  rcases h.ended with rfl | rfl
  · exact (readDescription_append hend).symm
  · exact readDescription_cut hend (endsParagraph_of_cut hlabel hopens hmore)

/-- So is a table. -/
theorem findTableBlock_eq (hend : (findTableBlock lines start).next ≤ common.length) :
    findTableBlock cut start = findTableBlock lines start := by
  obtain ⟨more, others, -, rfl⟩ := h.whole
  rcases h.ended with rfl | rfl
  · exact (findTableBlock_append hend).symm
  · exact findTableBlock_cut hend

/-- So is an example. -/
theorem findExample_eq (hend : (findExample lines start).next ≤ common.length) :
    findExample cut start = findExample lines start := by
  obtain ⟨more, others, -, rfl⟩ := h.whole
  rcases h.ended with rfl | rfl
  · exact (findExample_append hend).symm
  · exact findExample_cut hend

end CutAt

/-- The number of the line in which position `i` of a text lies. -/
def lineOf (t : Text) (i : Nat) : Nat := (endedLines (t.take i)).length

/-- The lines of a page whose related links open at `i` are cut in the line of that position. -/
theorem cutAt_of_findRelatedLinks (h : findRelatedLinks t = some i) :
    CutAt t.lines (Text.lines (t.take i)) (endedLines (t.take i)) (openLine (t.take i))
      (t.drop i) := by
  have hlength : i < t.length := lt_length_of_findOpening h
  have hne : t.drop i ≠ [] := by
    rw [ne_eq, List.drop_eq_nil_iff]
    omega
  have hhead : List.head? (t.drop i) ≠ some newline := by
    intro hnewline
    obtain ⟨rest, hrest⟩ := List.head?_eq_some_iff.mp hnewline
    have hopens := (findOpening_eq_some_iff.mp h).1
    rw [hrest, opensLinks_of_foreign isForeign_newline] at hopens
    cases hopens
  have hunbroken := isUnbroken_openLine (t.take i)
  refine ⟨?_, ?_⟩
  · obtain ⟨more, others, hmore⟩ := List.exists_cons_of_ne_nil (lines_ne_nil hne)
    have hwhole := lines_append (t.take i) hhead
    rw [List.take_append_drop, lines_append_of_isUnbroken hunbroken hmore] at hwhole
    exact ⟨more, others, prefix_of_lines hmore, hwhole⟩
  · have hcut : Text.lines (t.take i ++ []) = _ := lines_append (t.take i) (by simp)
    rw [List.append_nil, List.append_nil] at hcut
    by_cases hnil : openLine (t.take i) = []
    · rw [hnil] at hcut
      exact Or.inl (hcut.trans (List.append_nil _))
    · rw [lines_of_isUnbroken hunbroken hnil] at hcut
      exact Or.inr hcut

/-- What the related links can supply. The page before them has the title of the whole page
if the title does not end behind the line in which they open; it has the description and the
summary if the description does not either, then the forms if the table does not, and then
the example if that does not. A zone that is missing before the block is then missing on the
whole page. The description can in addition be ended by an example label whose last asterisks
are the first ones of the block. -/
theorem extract_take (h : findRelatedLinks t = some i) :
    (titleEnd t.lines ≤ lineOf t i → (extract (t.take i)).title = (extract t).title) ∧
      (descriptionEnd t.lines ≤ lineOf t i → beginsLabel (openLine (t.take i)) = false →
        ((extract (t.take i)).description = (extract t).description ∧
          (extract (t.take i)).summary = (extract t).summary) ∧
        (tableEnd t.lines ≤ lineOf t i →
          (extract (t.take i)).rows = (extract t).rows ∧
          (exampleEnd t.lines ≤ lineOf t i →
            (extract (t.take i)).exampleCode = (extract t).exampleCode))) := by
  have hcut := cutAt_of_findRelatedLinks h
  have hopens := (findOpening_eq_some_iff.mp h).1
  simp only [extract_eq]
  refine ⟨fun hbound => by rw [hcut.findTitle_eq hbound], fun hdescription hlabel => ?_⟩
  have htitle : titleEnd t.lines ≤ lineOf t i :=
    (le_next_readDescription t.lines (titleEnd t.lines)).trans hdescription
  have htitleEnd : titleEnd (Text.lines (t.take i)) = titleEnd t.lines := by
    rw [titleEnd, hcut.findTitle_eq htitle, titleEnd]
  have hsame := hcut.readDescription_eq hopens hlabel hdescription
  have hdescriptionEnd : descriptionEnd (Text.lines (t.take i)) = descriptionEnd t.lines := by
    rw [descriptionEnd, htitleEnd, hsame, descriptionEnd]
  refine ⟨?_, fun htable => ?_⟩
  · rw [htitleEnd, hsame, hcut.findTitle_eq htitle]
    exact ⟨rfl, rfl⟩
  have htableEnd : tableEnd (Text.lines (t.take i)) = tableEnd t.lines := by
    rw [tableEnd, hdescriptionEnd, hcut.findTableBlock_eq htable, tableEnd]
  refine ⟨by rw [hdescriptionEnd, hcut.findTableBlock_eq htable], fun hexample => ?_⟩
  rw [htableEnd, hcut.findExample_eq hexample]

/-- A page without a table. Its related links open within a line, and a heading, an example
and a row follow. -/
def pageWithCrowdedLinks : Text :=
  "# abs\n\nx\n\n**Example**\n```\nabs(-2)\n```\nmore: **See Also**\n# sqrt\n**Example**\n"

/-- Nothing is taken from the related links of this page. -/
theorem extract_take_pageWithCrowdedLinks :
    findRelatedLinks pageWithCrowdedLinks = some 44 ∧
      (extract (pageWithCrowdedLinks.take 44)).title = (extract pageWithCrowdedLinks).title ∧
      (extract (pageWithCrowdedLinks.take 44)).description =
        (extract pageWithCrowdedLinks).description ∧
      (extract (pageWithCrowdedLinks.take 44)).summary = (extract pageWithCrowdedLinks).summary ∧
      (extract (pageWithCrowdedLinks.take 44)).rows = (extract pageWithCrowdedLinks).rows ∧
      (extract (pageWithCrowdedLinks.take 44)).exampleCode =
        (extract pageWithCrowdedLinks).exampleCode := by
  have hlinks : findRelatedLinks pageWithCrowdedLinks = some 44 := by decide
  obtain ⟨htitle, hzones⟩ := extract_take hlinks
  obtain ⟨⟨hdescription, hsummary⟩, htable⟩ := hzones (by decide) (by decide)
  obtain ⟨hrows, hexample⟩ := htable (by decide)
  exact ⟨hlinks, htitle (by decide), hdescription, hsummary, hrows, hexample (by decide)⟩

/-- A page without a description. -/
def pageWithoutDescription : Text := "# abs\n\n**See Also**\n\n[sqrt](./sqrt.md)\n"

/-- The line in which the related links open is taken for the description. -/
theorem description_of_links :
    findRelatedLinks pageWithoutDescription = some 7 ∧
      (extract pageWithoutDescription).description = ("**See Also**" : Text) ∧
      (extract pageWithoutDescription).summary = ("**See Also**" : Text) ∧
      (extract (pageWithoutDescription.take 7)).description = [] ∧
      (extract (pageWithoutDescription.take 7)).summary = ("abs" : Text) := by
  decide

end CommandDocs.Page
