import CommandDocs.Proofs.Page.Readings

/-!
# Zones by line numbers

The readers of tables and of examples in terms of line numbers. A table is the run of rows that
begins at the first row and ends before the first line that is none. An example is what stands
between the first fence behind the first label and the first fence behind that one. The numbers
determine what is read, and a zone of which a mark is missing is not read in part.
-/

namespace CommandDocs.Page

variable {lines before block rest : List Text} {line : Text} {start i j k : Nat}
  {p : Text → Bool}

/-! ### The first line of a kind -/

/-- Line `i` is the first one from line `start` on that satisfies `p`. -/
structure IsFirstAt (p : Text → Bool) (lines : List Text) (start i : Nat) : Prop where
  /-- It does not stand before the start. -/
  le : start ≤ i
  /-- It is a line, and it satisfies `p`. -/
  found : ∃ line, lines[i]? = some line ∧ p line = true
  /-- No line between the start and it does. -/
  least : ∀ k line, start ≤ k → k < i → lines[k]? = some line → p line = false

/-- There is only one first line. -/
theorem IsFirstAt.unique (hi : IsFirstAt p lines start i) (hj : IsFirstAt p lines start j) :
    i = j := by
  obtain ⟨first, hfirst, hp⟩ := hi.found
  obtain ⟨second, hsecond, hq⟩ := hj.found
  rcases Nat.lt_trichotomy i j with hlt | heq | hgt
  · rw [hj.least i first hi.le hlt hfirst] at hp
    cases hp
  · exact heq
  · rw [hi.least j second hj.le hgt hsecond] at hq
    cases hq

/-- The line behind the lines that are not of the kind is the first one. -/
theorem isFirstAt_of_drop (h : lines.drop start = before ++ line :: rest)
    (hbefore : ∀ l ∈ before, p l = false) (hline : p line = true) :
    IsFirstAt p lines start (start + before.length) where
  le := Nat.le_add_right ..
  found := by
    refine ⟨line, ?_, hline⟩
    rw [← List.getElem?_drop, h, List.getElem?_append_right le_rfl, Nat.sub_self]
    rfl
  least := by
    intro k l hle hlt hl
    obtain ⟨m, rfl⟩ := Nat.exists_eq_add_of_le hle
    rw [← List.getElem?_drop, h, List.getElem?_append_left (Nat.lt_of_add_lt_add_left hlt)] at hl
    exact hbefore l (List.mem_of_getElem? hl)

/-- The first line of a kind parts the lines from the start on. -/
theorem IsFirstAt.drop_eq (h : IsFirstAt p lines start i) :
    ∃ before line, lines.drop start = before ++ line :: lines.drop (i + 1) ∧
      (∀ l ∈ before, p l = false) ∧ p line = true ∧ start + before.length = i := by
  obtain ⟨line, hget, hline⟩ := h.found
  obtain ⟨m, rfl⟩ := Nat.exists_eq_add_of_le h.le
  obtain ⟨hlt, hat⟩ := List.getElem?_eq_some_iff.mp hget
  refine ⟨(lines.drop start).take m, line, ?_, fun l hl => ?_, hline, ?_⟩
  · rw [← hat, ← List.drop_eq_getElem_cons hlt, ← List.drop_drop, List.take_append_drop]
  · obtain ⟨k, hk⟩ := List.getElem?_of_mem hl
    have hkm : k < m := by
      have hshort := (List.getElem?_eq_some_iff.mp hk).1
      rw [List.length_take] at hshort
      omega
    rw [List.getElem?_take_of_lt hkm, List.getElem?_drop] at hk
    exact h.least (start + k) l (Nat.le_add_right ..) (Nat.add_lt_add_left hkm start) hk
  · rw [List.length_take, List.length_drop]
    omega

/-- What no line from the start on satisfies, by line numbers. -/
theorem forall_mem_drop_iff :
    (∀ line ∈ lines.drop start, p line = false) ↔
      ∀ k line, start ≤ k → lines[k]? = some line → p line = false := by
  constructor
  · intro h k line hle hline
    obtain ⟨m, rfl⟩ := Nat.exists_eq_add_of_le hle
    rw [← List.getElem?_drop] at hline
    exact h line (List.mem_of_getElem? hline)
  · intro h line hline
    obtain ⟨m, hm⟩ := List.getElem?_of_mem hline
    rw [List.getElem?_drop] at hm
    exact h (start + m) line (Nat.le_add_right ..) hm

/-! ### Tables -/

/-- Lines `i` to `j`, without `j`, are the first run of rows from line `start` on. -/
structure IsFirstRun (lines : List Text) (start i j : Nat) : Prop where
  /-- The run begins at the first row. -/
  first : IsFirstAt isTableRow lines start i
  /-- It does not end before it begins. -/
  le : i ≤ j
  /-- Every line of it is a row. -/
  rows : ∀ k, i ≤ k → k < j → ∃ line, lines[k]? = some line ∧ isTableRow line = true
  /-- It cannot be longer. -/
  stop : ∀ line, lines[j]? = some line → isTableRow line = false

/-- A run that ends earlier than another one could be longer. -/
theorem IsFirstRun.end_le (hi : IsFirstRun lines start i j) {i' j' : Nat}
    (hj : IsFirstRun lines start i' j') : j' ≤ j := by
  by_contra hlt
  have hbegin : i = i' := hi.first.unique hj.first
  obtain ⟨line, hline, hrow⟩ := hj.rows j (hbegin ▸ hi.le) (Nat.not_le.mp hlt)
  rw [hi.stop line hline] at hrow
  cases hrow

/-- There is only one first run. -/
theorem IsFirstRun.unique {i' j' : Nat} (hi : IsFirstRun lines start i j)
    (hj : IsFirstRun lines start i' j') : i = i' ∧ j = j' :=
  ⟨hi.first.unique hj.first, Nat.le_antisymm (hj.end_le hi) (hi.end_le hj)⟩

/-- Rows behind lines that are none, and before a line that is none, are the first run. -/
theorem isFirstRun_of_drop (h : lines.drop start = before ++ (block ++ rest))
    (hbefore : ∀ l ∈ before, isTableRow l = false) (hblock : ∀ l ∈ block, isTableRow l = true)
    (hne : block ≠ []) (hrest : ∀ l ∈ rest.head?, isTableRow l = false) :
    IsFirstRun lines start (start + before.length) (start + before.length + block.length) := by
  have hbehind : lines.drop (start + before.length) = block ++ rest := drop_add_length h
  refine ⟨?_, Nat.le_add_right .., fun k hle hlt => ?_, fun line hline => ?_⟩
  · obtain ⟨row, more, rfl⟩ := List.exists_cons_of_ne_nil hne
    exact isFirstAt_of_drop h hbefore (hblock row (List.mem_cons_self ..))
  · obtain ⟨m, rfl⟩ := Nat.exists_eq_add_of_le hle
    have hm : m < block.length := Nat.lt_of_add_lt_add_left hlt
    refine ⟨block[m], ?_, hblock _ (List.getElem_mem hm)⟩
    rw [← List.getElem?_drop, hbehind, List.getElem?_append_left hm, List.getElem?_eq_getElem hm]
  · have hhead : rest.head? = some line := by
      rw [← drop_add_length hbehind, List.head?_drop, hline]
    exact hrest line hhead

/-- The lines of a part, by their numbers. -/
theorem extract_of_drop (h : lines.drop start = before ++ (block ++ rest)) :
    lines.extract (start + before.length) (start + before.length + block.length) = block := by
  rw [List.extract_eq_take_drop, Nat.add_sub_cancel_left, drop_add_length h, List.take_left]

/-- The block that is found is the first run of rows, and the search ends where the run does. -/
theorem findTableBlock_eq_some_iff :
    findTableBlock lines start = ⟨some block, j⟩ ↔
      ∃ i, IsFirstRun lines start i j ∧ block = lines.extract i j := by
  rcases findTableBlock_cases lines start with ⟨hnone, hreading⟩ |
    ⟨before, rows, rest, hlines, hbefore, hrows, hne, hrest, hreading⟩
  · rw [hreading]
    constructor
    · intro h
      cases h
    · rintro ⟨i, hrun, -⟩
      obtain ⟨line, hline, hrow⟩ := hrun.first.found
      rw [forall_mem_drop_iff.mp hnone i line hrun.first.le hline] at hrow
      cases hrow
  · have hrun := isFirstRun_of_drop hlines hbefore hrows hne hrest
    have hextract := extract_of_drop hlines
    rw [hreading]
    constructor
    · intro h
      cases h
      exact ⟨_, hrun, hextract.symm⟩
    · rintro ⟨i, hother, rfl⟩
      obtain ⟨rfl, rfl⟩ := hrun.unique hother
      rw [hextract]

/-- No block is found when no line from the start on is a row, and only then. -/
theorem findTableBlock_eq_none_iff :
    findTableBlock lines start = ⟨none, start⟩ ↔
      ∀ k line, start ≤ k → lines[k]? = some line → isTableRow line = false := by
  rw [← forall_mem_drop_iff]
  refine ⟨fun h => ?_, findTableBlock_of_forall_not⟩
  rcases findTableBlock_cases lines start with ⟨hnone, -⟩ |
    ⟨before, rows, rest, -, -, -, -, -, hreading⟩
  · exact hnone
  · rw [hreading] at h
    cases h

/-! ### Examples -/

/-- The marks of the example from line `start` on: the label on line `label`, the opening fence
on line `opening` and the closing fence on line `closing`, each the first one of its kind behind
the mark before it. -/
structure IsExampleAt (lines : List Text) (start label opening closing : Nat) : Prop where
  /-- The label is the first one. -/
  firstLabel : IsFirstAt hasExampleLabel lines start label
  /-- The opening fence is the first fence behind the label. -/
  firstFence : IsFirstAt isFence lines (label + 1) opening
  /-- The closing fence is the first fence behind the opening one. -/
  nextFence : IsFirstAt isFence lines (opening + 1) closing

/-- The code between the two fences, without outer blanks. -/
def codeBetween (lines : List Text) (opening closing : Nat) : Text :=
  Text.trim (Text.join "\n" (lines.extract (opening + 1) closing))

namespace IsExampleAt

variable {label opening closing : Nat}

/-- The marks follow each other. -/
theorem lt (h : IsExampleAt lines start label opening closing) :
    start ≤ label ∧ label < opening ∧ opening < closing :=
  ⟨h.firstLabel.le, h.firstFence.le, h.nextFence.le⟩

/-- The reader finds the code between the fences and goes on behind the closing one. -/
theorem findExample_eq (h : IsExampleAt lines start label opening closing) :
    findExample lines start = ⟨codeBetween lines opening closing, closing + 1⟩ := by
  obtain ⟨before, labelLine, hlabel, hbefore, hlabelled, hlabelAt⟩ := h.firstLabel.drop_eq
  obtain ⟨between, openingLine, hopening, hbetween, hopens, hopeningAt⟩ := h.firstFence.drop_eq
  obtain ⟨code, closingLine, hclosing, hcode, hcloses, hclosingAt⟩ := h.nextFence.drop_eq
  have hextract : lines.extract (opening + 1) closing = code := by
    have hparts : lines.drop (opening + 1) =
        [] ++ (code ++ closingLine :: lines.drop (closing + 1)) := hclosing
    have hcodeLines := extract_of_drop hparts
    rwa [List.length_nil, Nat.add_zero, hclosingAt] at hcodeLines
  have hnext : start + (before.length + 1 + between.length + 1 + code.length + 1) =
      closing + 1 := by omega
  rw [hopening, hclosing] at hlabel
  rw [findExample_of_code hlabel hbefore hlabelled hbetween hopens hcode hcloses, hnext,
    codeBetween, hextract]

/-- Lines with the marks hold a complete example. -/
theorem holdsExample (h : IsExampleAt lines start label opening closing) :
    HoldsExample (lines.drop start) := by
  obtain ⟨before, labelLine, hlabel, -, hlabelled, -⟩ := h.firstLabel.drop_eq
  obtain ⟨between, openingLine, hopening, -, hopens, -⟩ := h.firstFence.drop_eq
  obtain ⟨code, closingLine, hclosing, -, hcloses, -⟩ := h.nextFence.drop_eq
  rw [hopening, hclosing] at hlabel
  exact ⟨before, labelLine, between, openingLine, code, closingLine, _, hlabel, hlabelled, hopens,
    hcloses⟩

end IsExampleAt

/-- Lines with a complete example have its three marks. -/
theorem exists_isExampleAt (h : HoldsExample (lines.drop start)) :
    ∃ label opening closing, IsExampleAt lines start label opening closing := by
  rcases findExample_cases lines start with ⟨hnone, -⟩ |
    ⟨before, label, between, opening, code, closing, rest, hlines, ⟨hbefore, hlabel⟩,
      ⟨hbetween, hopening⟩, ⟨hcode, hclosing⟩, -⟩
  · exact absurd h hnone
  · have hbehindLabel : lines.drop (start + before.length + 1) =
        between ++ opening :: (code ++ closing :: rest) := by
      rw [← List.drop_drop, drop_add_length hlines]
      rfl
    have hbehindFence : lines.drop (start + before.length + 1 + between.length + 1) =
        code ++ closing :: rest := by
      rw [← List.drop_drop, drop_add_length hbehindLabel]
      rfl
    exact ⟨_, _, _, isFirstAt_of_drop hlines hbefore hlabel,
      isFirstAt_of_drop hbehindLabel hbetween hopening,
      isFirstAt_of_drop hbehindFence hcode hclosing⟩

/-- Nothing is found exactly when there is no complete example. -/
theorem findExample_eq_none_iff :
    findExample lines start = ⟨[], start⟩ ↔ ¬HoldsExample (lines.drop start) := by
  refine ⟨fun hnone hholds => ?_, findExample_of_not_holds⟩
  obtain ⟨label, opening, closing, hmarks⟩ := exists_isExampleAt hholds
  rw [hmarks.findExample_eq] at hnone
  have hnext : closing + 1 = start := congrArg Reading.next hnone
  have horder := hmarks.lt
  omega

/-- What is found behind the start is the code between the fences. -/
theorem findExample_eq_some_iff {code : Text} :
    findExample lines start = ⟨code, k + 1⟩ ∧ start ≤ k ↔
      ∃ label opening, IsExampleAt lines start label opening k ∧
        code = codeBetween lines opening k := by
  constructor
  · rintro ⟨hfound, hle⟩
    have hholds : HoldsExample (lines.drop start) := by
      by_contra hnone
      rw [findExample_of_not_holds hnone] at hfound
      have hnext : start = k + 1 := congrArg Reading.next hfound
      omega
    obtain ⟨label, opening, closing, hmarks⟩ := exists_isExampleAt hholds
    rw [hmarks.findExample_eq] at hfound
    cases hfound
    exact ⟨label, opening, hmarks, rfl⟩
  · rintro ⟨label, opening, hmarks, rfl⟩
    have horder := hmarks.lt
    exact ⟨hmarks.findExample_eq, by omega⟩

/-- The example is all or nothing. It is found, and the reading goes on at line `k + 1`, exactly
when its three marks are there and the closing fence is line `k`; it is then the code between the
fences. Nothing is found, and the reading stays at the start, exactly when one of the marks is
missing. No later start finds more than this one. -/
theorem findExample_exact (lines : List Text) (start : Nat) :
    (∀ code k, findExample lines start = ⟨code, k + 1⟩ ∧ start ≤ k ↔
        ∃ label opening, IsExampleAt lines start label opening k ∧
          code = codeBetween lines opening k) ∧
      (findExample lines start = ⟨[], start⟩ ↔
        ¬∃ label opening closing, IsExampleAt lines start label opening closing) ∧
      (findExample lines start = ⟨[], start⟩ →
        ∀ later, start ≤ later → findExample lines later = ⟨[], later⟩) := by
  refine ⟨fun code k => findExample_eq_some_iff, ?_, fun hnone later hlater => ?_⟩
  · rw [findExample_eq_none_iff]
    refine not_congr ⟨exists_isExampleAt, ?_⟩
    rintro ⟨label, opening, closing, hmarks⟩
    exact hmarks.holdsExample
  · rw [findExample_eq_none_iff] at hnone ⊢
    exact fun hholds => hnone (hholds.of_drop hlater)

/-- Lines on which a block of code is opened behind the first label and never closed. -/
def linesOfOpenCode : List Text := ["See **Example**.", "```m", "abs(-2)", "**Example**", "abs(2)"]

/-- On these lines the second label gives no example either. -/
theorem findExample_linesOfOpenCode :
    findExample linesOfOpenCode 0 = ⟨[], 0⟩ ∧ 0 ≤ 3 ∧ findExample linesOfOpenCode 3 = ⟨[], 3⟩ := by
  have hnone : findExample linesOfOpenCode 0 = ⟨[], 0⟩ := by decide
  exact ⟨hnone, Nat.zero_le 3, (findExample_exact linesOfOpenCode 0).2.2 hnone 3 (Nat.zero_le 3)⟩

end CommandDocs.Page
