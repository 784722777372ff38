import CommandDocs.Proofs.Text.Canonical
import CommandDocs.Proofs.Text.CodePoint
import CommandDocs.Proofs.Text.Lines
import Mathlib.Data.List.Basic
import Mathlib.Tactic.ByContra

/-!
# Canonical texts side by side

Slash, backslash and at sign part a text for normalization: nothing is composed with them or moved
across them, and none of them comes from other characters. The two sides of one are therefore
normalized one by one, and those of a canonical text are canonical.
-/

namespace CommandDocs

namespace CodePoint

variable {a b c x : CodePoint} {n i : Nat}

/-! ### Facts about the tables -/

/-- Numbers as the bits of one number, which is the union of the given masks. -/
def union (masks : List Nat) : Nat := masks.foldr (· ||| ·) 0

/-- The union has the bits of every mask. -/
theorem testBit_union {masks : List Nat} {mask : Nat} (hmask : mask ∈ masks)
    (hbit : mask.testBit i = true) : (union masks).testBit i = true := by
  induction masks with
  | nil => cases hmask
  | cons first rest ih =>
    rw [union, List.foldr_cons, Nat.testBit_or, Bool.or_eq_true]
    rcases List.mem_cons.mp hmask with rfl | hrest
    · exact Or.inl hbit
    · exact Or.inr (ih hrest)

/-- The numbers from the first one to the last one as a mask. -/
def rangeMask (first last : Nat) : Nat := (1 <<< (last + 1 - first) - 1) <<< first

/-- Each number of a range has its bit. -/
theorem testBit_rangeMask {first last : Nat} (hfirst : first ≤ i) (hlast : i ≤ last) :
    (rangeMask first last).testBit i = true := by
  rw [rangeMask, Nat.testBit_shiftLeft, Nat.one_shiftLeft, Nat.testBit_two_pow_sub_one]
  simp only [Bool.and_eq_true, decide_eq_true_eq]
  omega

/-- The numbers of the marks, as masks. -/
def markMasks : List Nat :=
  CanonicalTable.combiningClasses.toList.map fun range => rangeMask range.1 range.2.1

/-- The numbers of the code points with which composites begin, as masks: those of the leading
consonants, of the syllables and of the table. -/
def firstMasks : List Nat :=
  rangeMask hangulLead (hangulLead + 18) :: rangeMask hangulSyllable (hangulSyllable + 11171)
    :: CanonicalTable.composites.toList.map fun entry => 1 <<< entry.1

/-- No composite begins with a mark. -/
theorem markMasks_and_firstMasks : union markMasks &&& union firstMasks = 0 := by decide +kernel

/-- Composites are not ASCII. -/
theorem le_composite_of_mem :
    CanonicalTable.composites.toList.all (fun entry => 0x80 ≤ entry.2.2) = true := by
  decide +kernel

/-- The numbers of slash, at sign and backslash. -/
def barrierNumbers : List Nat := [0x2F, 0x40, 0x5C]

/-- No composite begins with one of the three. -/
theorem first_of_mem_composites :
    CanonicalTable.composites.toList.all (fun entry => entry.1 ∉ barrierNumbers) = true := by
  decide +kernel

/-- No decomposition holds one of the three. -/
theorem parts_of_mem_decompositions :
    CanonicalTable.decompositions.toList.all
      (fun entry => entry.2.all fun n => n ∉ barrierNumbers) = true := by
  decide +kernel

/-! ### Composition of two code points -/

/-- All ways to compose two code points: a leading consonant with a vowel, a syllable without a
trailing consonant with one, and what the table says. -/
theorem cases_of_compose? (h : a.compose? b = some x) :
    (∃ lead vowel, lead < 19 ∧ vowel < 21 ∧ a.value = hangulLead + lead ∧
        b.value = hangulVowel + vowel ∧
        x = ofValue (hangulSyllable + (lead * 21 + vowel) * 28)) ∨
      (∃ syllable trail, syllable < 11172 ∧ syllable % 28 = 0 ∧ 0 < trail ∧ trail < 28 ∧
        a.value = hangulSyllable + syllable ∧ b.value = hangulTrail + trail ∧
        x = ofValue (hangulSyllable + syllable + trail)) ∨
      ∃ entry ∈ CanonicalTable.composites.toList, a.value = entry.1 ∧ b.value = entry.2.1 ∧
        x = ofValue entry.2.2 := by
  rw [compose?] at h
  split at h
  · rename_i hvowel
    simp only [Bool.and_eq_true, decide_eq_true_eq] at hvowel
    have hx := (Option.some.inj h).symm
    refine Or.inl ⟨a.value - hangulLead, b.value - hangulVowel, ?_, ?_, ?_, ?_, hx⟩ <;> omega
  · split at h
    · rename_i htrail
      simp only [Bool.and_eq_true, decide_eq_true_eq, beq_iff_eq] at htrail
      have hvalue : a.value + (b.value - hangulTrail) =
          hangulSyllable + (a.value - hangulSyllable) + (b.value - hangulTrail) := by omega
      have hx := (Option.some.inj h).symm
      rw [hvalue] at hx
      refine Or.inr (Or.inl
        ⟨a.value - hangulSyllable, b.value - hangulTrail, ?_, ?_, ?_, ?_, ?_, ?_, hx⟩) <;> omega
    · rw [Option.map_eq_some_iff] at h
      obtain ⟨entry, hfind, hx⟩ := h
      rw [← Array.find?_toList] at hfind
      have hentry := List.find?_some hfind
      simp only [Bool.and_eq_true, beq_iff_eq] at hentry
      exact Or.inr (Or.inr ⟨entry, List.mem_of_find?_eq_some hfind, hentry.1.symm, hentry.2.symm,
        hx.symm⟩)

/-- A mark is in one of the ranges. -/
theorem exists_range_of_mark (h : c.combiningClass ≠ 0) :
    ∃ range ∈ CanonicalTable.combiningClasses.toList,
      range.1 ≤ c.value ∧ c.value ≤ range.2.1 := by
  by_contra hranges
  refine h ?_
  have hnone : (CanonicalTable.combiningClasses.find? fun r =>
      r.1 ≤ c.value && c.value ≤ r.2.1) = none := by
    rw [← Array.find?_toList, List.find?_eq_none]
    intro r hr hin
    simp only [Bool.and_eq_true, decide_eq_true_eq] at hin
    exact hranges ⟨r, hr, hin⟩
  unfold combiningClass
  rw [hnone]

/-- A mark has its bit among those of the marks. -/
theorem testBit_markMasks (h : c.combiningClass ≠ 0) :
    (union markMasks).testBit c.value = true := by
  obtain ⟨range, hrange, hfirst, hlast⟩ := exists_range_of_mark h
  have hmask : rangeMask range.1 range.2.1 ∈ markMasks := by
    rw [markMasks]
    exact List.mem_map_of_mem hrange
  exact testBit_union hmask (testBit_rangeMask hfirst hlast)

/-- What is composed begins with one of the code points for this. -/
theorem testBit_firstMasks (h : a.compose? b = some x) :
    (union firstMasks).testBit a.value = true := by
  rcases cases_of_compose? h with ⟨lead, _, hlead, -, ha, -⟩ |
    ⟨syllable, _, hsyllable, -, -, -, ha, -⟩ | ⟨entry, hentry, ha, -⟩
  · have hmask : rangeMask hangulLead (hangulLead + 18) ∈ firstMasks := List.mem_cons_self
    exact testBit_union hmask (testBit_rangeMask (by omega) (by omega))
  · have hmask : rangeMask hangulSyllable (hangulSyllable + 11171) ∈ firstMasks :=
      List.mem_cons_of_mem _ List.mem_cons_self
    exact testBit_union hmask (testBit_rangeMask (by omega) (by omega))
  · have hmask : 1 <<< entry.1 ∈ firstMasks :=
      List.mem_cons_of_mem _ (List.mem_cons_of_mem _ (List.mem_map_of_mem hentry))
    refine testBit_union hmask ?_
    rw [ha, Nat.testBit_shiftLeft]
    simp

/-- Nothing is composed behind a mark. -/
theorem compose?_of_mark (h : a.combiningClass ≠ 0) (b : CodePoint) : a.compose? b = none := by
  rw [Option.eq_none_iff_forall_ne_some]
  intro x hx
  have hboth : (union markMasks &&& union firstMasks).testBit a.value = true := by
    rw [Nat.testBit_and, testBit_markMasks h, testBit_firstMasks hx, Bool.and_true]
  rw [markMasks_and_firstMasks, Nat.zero_testBit] at hboth
  cases hboth

/-! ### Barriers -/

/-- The code point parts texts for normalization: it is composed with nothing, and comes from no
other code point. -/
structure IsBarrier (x : CodePoint) : Prop where
  /-- It stays as it is. -/
  decompose : x.decompose = [x]
  /-- It is no mark. -/
  starter : x.combiningClass = 0
  /-- Nothing is composed behind it. -/
  first : ∀ c : CodePoint, x.compose? c = none
  /-- It is not composed with what stands before it. -/
  second : ∀ c : CodePoint, c.compose? x = none
  /-- Nothing else is decomposed into it. -/
  only : ∀ c : CodePoint, x ∈ c.decompose → c = x
  /-- It is no composite. -/
  simple : ∀ a b : CodePoint, a.compose? b ≠ some x

/-- The barriers come after U+0000 and before U+0080. -/
theorem barrierNumbers_bounds (h : n ∈ barrierNumbers) : 0 < n ∧ n < 0x80 := by
  simp only [barrierNumbers, List.mem_cons, List.not_mem_nil, or_false] at h
  omega

/-- What a code point is decomposed into is itself, or it is named by another number than the
barriers. -/
theorem cases_of_mem_decompose (h : x ∈ c.decompose) :
    x = c ∨ ∃ n, n ∉ barrierNumbers ∧ x = ofValue n := by
  rw [decompose] at h
  split at h
  · -- the parts of a syllable are far behind them
    have hletters : ∀ parts : List Nat, (∀ n ∈ parts, 0x1100 ≤ n) → x ∈ parts.map ofValue →
        ∃ n, n ∉ barrierNumbers ∧ x = ofValue n := by
      intro parts hparts hx
      obtain ⟨n, hn, rfl⟩ := List.mem_map.mp hx
      have hhigh := hparts n hn
      refine ⟨n, fun hbarrier => ?_, rfl⟩
      have hlow := barrierNumbers_bounds hbarrier
      omega
    right
    dsimp only at h
    split at h
    · refine hletters [_, _] ?_ h
      intro n hn
      simp only [hangulLead, hangulVowel, List.mem_cons, List.not_mem_nil, or_false] at hn
      omega
    · refine hletters [_, _, _] ?_ h
      intro n hn
      simp only [hangulLead, hangulVowel, hangulTrail, List.mem_cons, List.not_mem_nil,
        or_false] at hn
      omega
  · split at h
    · exact Or.inl (List.mem_singleton.mp h)
    · rename_i entry hfind
      rw [← Array.find?_toList] at hfind
      obtain ⟨n, hn, rfl⟩ := List.mem_map.mp h
      have hparts := List.all_eq_true.mp parts_of_mem_decompositions entry
        (List.mem_of_find?_eq_some hfind)
      exact Or.inr ⟨n, of_decide_eq_true (List.all_eq_true.mp hparts n hn), rfl⟩

/-- A composite is named by a number behind ASCII. -/
theorem exists_number_of_compose? (h : a.compose? b = some x) : ∃ n, 0x80 ≤ n ∧ x = ofValue n := by
  rcases cases_of_compose? h with ⟨_, _, -, -, -, -, hx⟩ | ⟨_, _, -, -, -, -, -, -, hx⟩ |
    ⟨entry, hentry, -, -, hx⟩
  · refine ⟨_, ?_, hx⟩
    rw [hangulSyllable]
    omega
  · refine ⟨_, ?_, hx⟩
    rw [hangulSyllable]
    omega
  · exact ⟨_, of_decide_eq_true (List.all_eq_true.mp le_composite_of_mem entry hentry), hx⟩

/-- Slash, at sign and backslash part texts. -/
theorem isBarrier_of_mem (h : x.value ∈ barrierNumbers) : x.IsBarrier := by
  have hbounds := barrierNumbers_bounds h
  refine ⟨decompose_of_lt (by omega), combiningClass_of_lt (by omega), ?_,
    fun c => compose?_of_lt (by omega), ?_, ?_⟩
  · intro c
    rw [Option.eq_none_iff_forall_ne_some]
    intro y hy
    rcases cases_of_compose? hy with ⟨_, _, -, -, hx, -⟩ | ⟨_, _, -, -, -, -, hx, -⟩ |
      ⟨entry, hentry, hx, -⟩
    · rw [hangulLead] at hx
      omega
    · rw [hangulSyllable] at hx
      omega
    · rw [hx] at h
      exact of_decide_eq_true (List.all_eq_true.mp first_of_mem_composites entry hentry) h
  · intro c hc
    rcases cases_of_mem_decompose hc with rfl | ⟨n, hn, rfl⟩
    · rfl
    · rcases value_ofValue n with hvalue | hvalue
      · rw [hvalue] at h
        exact absurd h hn
      · omega
  · intro a b hab
    obtain ⟨n, hn, rfl⟩ := exists_number_of_compose? hab
    rcases value_ofValue n with hvalue | hvalue <;> omega

end CodePoint

namespace Text

open CodePoint

variable {s t u held : Text} {starter x c : CodePoint}

/-! ### Composition in parts -/

/-- At the end the starter is followed by the marks held back. -/
theorem composeBehind_nil (starter : CodePoint) (held : Text) :
    composeBehind starter held [] = starter :: held.reverse := rfl

/-- Everything that can become of a code point behind a starter. It is composed with the starter,
when its class is higher than that of the last mark held back; composition begins anew with it; or
it is held back. -/
theorem composeBehind_cases (starter : CodePoint) (held : Text) (c : CodePoint) :
    (∃ composite, (∀ last ∈ held.head?, last.combiningClass < c.combiningClass) ∧
        starter.compose? c = some composite ∧
        ∀ rest, composeBehind starter held (c :: rest) = composeBehind composite held rest) ∨
      (c.combiningClass = 0 ∧ ∀ rest, composeBehind starter held (c :: rest) =
        starter :: held.reverse ++ composeBehind c [] rest) ∨
      c.combiningClass ≠ 0 ∧ ∀ rest, composeBehind starter held (c :: rest) =
        composeBehind starter (c :: held) rest := by
  have hunfold (rest : Text) := composeBehind.eq_def starter held (c :: rest)
  dsimp only at hunfold
  -- without this the tables would be evaluated
  generalize starter.compose? c = found at hunfold ⊢
  generalize combiningClass = classOf at hunfold ⊢
  have hother (hstep : ∀ rest, composeBehind starter held (c :: rest) =
      if classOf c = 0 then starter :: held.reverse ++ composeBehind c [] rest
      else composeBehind starter (c :: held) rest) :
      (classOf c = 0 ∧ ∀ rest, composeBehind starter held (c :: rest) =
          starter :: held.reverse ++ composeBehind c [] rest) ∨
        classOf c ≠ 0 ∧ ∀ rest, composeBehind starter held (c :: rest) =
          composeBehind starter (c :: held) rest := by
    by_cases hstarter : classOf c = 0
    · simp only [hstarter, if_true] at hstep
      exact Or.inl ⟨hstarter, hstep⟩
    · simp only [hstarter, if_false] at hstep
      exact Or.inr ⟨hstarter, hstep⟩
  cases held with
  | nil =>
    cases found with
    | some composite => exact Or.inl ⟨composite, by simp, rfl, hunfold⟩
    | none => exact Or.inr (hother hunfold)
  | cons last others =>
    by_cases hlast : classOf last < classOf c
    · simp only [hlast, decide_true, if_true] at hunfold
      cases found with
      | some composite => exact Or.inl ⟨composite, by simpa using hlast, rfl, hunfold⟩
      | none => exact Or.inr (hother hunfold)
    · simp only [hlast, decide_false, Bool.false_eq_true, if_false] at hunfold
      exact Or.inr (hother hunfold)

/-- Compose an ordered text. Marks before the first starter stay as they are. -/
def composeAll : Text → Text
  | [] => []
  | c :: rest => if c.combiningClass = 0 then composeBehind c [] rest else c :: composeAll rest

/-- When nothing is composed behind a starter, composition begins anew with the next one. -/
theorem composeBehind_of_first (h : ∀ c, starter.compose? c = none) (held t : Text) :
    composeBehind starter held t = starter :: held.reverse ++ composeAll t := by
  induction t generalizing held with
  | nil => rw [composeBehind_nil, composeAll, List.append_nil]
  | cons c rest ih =>
    rw [composeAll]
    rcases composeBehind_cases starter held c with ⟨composite, -, hcompose, -⟩ |
      ⟨hstarter, hstep⟩ | ⟨hmark, hstep⟩
    · rw [h c] at hcompose
      cases hcompose
    · rw [hstep, if_pos hstarter]
    · rw [hstep, if_neg hmark, ih, List.reverse_cons]
      simp only [List.append_assoc, List.cons_append, List.nil_append]

/-- Normalization composes what is decomposed and put into order. -/
theorem normalize_eq (t : Text) :
    normalize t = composeAll (orderMarks (t.flatMap CodePoint.decompose)) := by
  rw [normalize]
  cases orderMarks (t.flatMap CodePoint.decompose) with
  | nil => rfl
  | cons c rest =>
    dsimp only
    rw [composeAll]
    split
    · rfl
    · rename_i hmark
      rw [composeBehind_of_first (compose?_of_mark hmark)]
      rfl

/-! ### Both sides of a barrier -/

/-- No mark is moved across a barrier. -/
theorem insertMark_append (hx : x.IsBarrier) (c : CodePoint) (t u : Text) :
    insertMark c (t ++ x :: u) = insertMark c t ++ x :: u := by
  induction t with
  | nil => simp [insertMark, hx.starter]
  | cons d rest ih =>
    rw [List.cons_append, insertMark, insertMark, ih]
    split
    · rfl
    · rfl

/-- The two sides of a barrier are put into order one by one. -/
theorem orderMarks_append (hx : x.IsBarrier) (t u : Text) :
    orderMarks (t ++ x :: u) = orderMarks t ++ x :: orderMarks u := by
  induction t with
  | nil =>
    rw [List.nil_append, orderMarks, orderMarks]
    cases orderMarks u with
    | nil => rfl
    | cons d rest => simp [insertMark, hx.starter]
  | cons c rest ih => rw [List.cons_append, orderMarks, orderMarks, ih, insertMark_append hx]

/-- Behind a barrier composition begins anew. -/
theorem composeBehind_append (hx : x.IsBarrier) (starter : CodePoint) (held t u : Text) :
    composeBehind starter held (t ++ x :: u) =
      composeBehind starter held t ++ x :: composeAll u := by
  induction t generalizing starter held with
  | nil =>
    rw [List.nil_append]
    rcases composeBehind_cases starter held x with ⟨composite, -, hcompose, -⟩ | ⟨-, hstep⟩ |
      ⟨hmark, -⟩
    · rw [hx.second] at hcompose
      cases hcompose
    · rw [hstep, composeBehind_of_first hx.first]
      rfl
    · exact absurd hx.starter hmark
  | cons c rest ih =>
    rw [List.cons_append]
    rcases composeBehind_cases starter held c with ⟨composite, -, -, hstep⟩ | ⟨-, hstep⟩ |
      ⟨-, hstep⟩
    · rw [hstep, hstep, ih]
    · rw [hstep, hstep, ih, List.append_assoc]
    · rw [hstep, hstep, ih]

/-- The two sides of a barrier are composed one by one. -/
theorem composeAll_append (hx : x.IsBarrier) (t u : Text) :
    composeAll (t ++ x :: u) = composeAll t ++ x :: composeAll u := by
  induction t with
  | nil =>
    rw [List.nil_append, composeAll, composeAll, if_pos hx.starter,
      composeBehind_of_first hx.first]
    rfl
  | cons c rest ih =>
    rw [List.cons_append, composeAll, composeAll]
    split
    · exact composeBehind_append hx ..
    · rw [ih, List.cons_append]

/-- The two sides of a barrier are normalized one by one. -/
theorem normalize_append_barrier (hx : x.IsBarrier) (s t : Text) :
    normalize (s ++ x :: t) = normalize s ++ x :: normalize t := by
  simp only [normalize_eq, List.flatMap_append, List.flatMap_cons, hx.decompose,
    List.singleton_append, orderMarks_append hx, composeAll_append hx]

/-! ### Barriers do not arise -/

/-- A mark is put somewhere into a text. -/
theorem insertMark_perm (c : CodePoint) (t : Text) : (insertMark c t).Perm (c :: t) := by
  induction t with
  | nil => rfl
  | cons d rest ih =>
    rw [insertMark]
    split
    · exact (ih.cons d).trans (List.Perm.swap c d rest)
    · rfl

/-- Putting marks into order loses none. -/
theorem orderMarks_perm (t : Text) : (orderMarks t).Perm t := by
  induction t with
  | nil => rfl
  | cons c rest ih => exact (insertMark_perm c (orderMarks rest)).trans (ih.cons c)

/-- A barrier in what is composed was there before. -/
theorem mem_of_mem_composeBehind (hx : x.IsBarrier) (h : x ∈ composeBehind starter held t) :
    x = starter ∨ x ∈ held ∨ x ∈ t := by
  induction t generalizing starter held with
  | nil =>
    rcases List.mem_cons.mp (composeBehind_nil starter held ▸ h) with hstarter | hheld
    · exact Or.inl hstarter
    · exact Or.inr (Or.inl (List.mem_reverse.mp hheld))
  | cons c rest ih =>
    rcases composeBehind_cases starter held c with ⟨composite, -, hcompose, hstep⟩ | ⟨-, hstep⟩ |
      ⟨-, hstep⟩
    · rw [hstep] at h
      rcases ih h with rfl | hheld | hrest
      · exact absurd hcompose (hx.simple starter c)
      · exact Or.inr (Or.inl hheld)
      · exact Or.inr (Or.inr (List.mem_cons_of_mem c hrest))
    · rw [hstep] at h
      rcases List.mem_append.mp h with hfront | hrest
      · rw [List.mem_cons, List.mem_reverse] at hfront
        exact hfront.imp_right Or.inl
      · rcases ih hrest with rfl | hnone | hrest
        · exact Or.inr (Or.inr List.mem_cons_self)
        · cases hnone
        · exact Or.inr (Or.inr (List.mem_cons_of_mem c hrest))
    · rw [hstep] at h
      rcases ih h with hstarter | hheld | hrest
      · exact Or.inl hstarter
      · rcases List.mem_cons.mp hheld with rfl | hheld
        · exact Or.inr (Or.inr List.mem_cons_self)
        · exact Or.inr (Or.inl hheld)
      · exact Or.inr (Or.inr (List.mem_cons_of_mem c hrest))

/-- A barrier in a composed text was there before. -/
theorem mem_of_mem_composeAll (hx : x.IsBarrier) (h : x ∈ composeAll t) : x ∈ t := by
  induction t with
  | nil => exact h
  | cons c rest ih =>
    rw [composeAll] at h
    split at h
    · rcases mem_of_mem_composeBehind hx h with rfl | hnone | hrest
      · exact List.mem_cons_self
      · cases hnone
      · exact List.mem_cons_of_mem c hrest
    · rcases List.mem_cons.mp h with rfl | hrest
      · exact List.mem_cons_self
      · exact List.mem_cons_of_mem c (ih hrest)

/-- A barrier in a canonical text was there before. -/
theorem mem_of_mem_normalize (hx : x.IsBarrier) (h : x ∈ normalize t) : x ∈ t := by
  rw [normalize_eq] at h
  have hordered := (orderMarks_perm _).mem_iff.mp (mem_of_mem_composeAll hx h)
  obtain ⟨c, hc, hpart⟩ := List.mem_flatMap.mp hordered
  exact hx.only c hpart ▸ hc

/-- The two sides of the first barrier of a canonical text are canonical, and conversely. -/
theorem normalize_append_barrier_eq_self (hx : x.IsBarrier) (hs : x ∉ s) :
    normalize (s ++ x :: t) = s ++ x :: t ↔ normalize s = s ∧ normalize t = t := by
  rw [normalize_append_barrier hx]
  constructor
  · intro h
    have hfirst : normalize s = s := by
      have hsplit := congrArg (splitOn x) h
      rw [splitOn_append_separator hs,
        splitOn_append_separator fun hmem => hs (mem_of_mem_normalize hx hmem)] at hsplit
      exact (List.cons.inj hsplit).1
    rw [hfirst] at h
    exact ⟨hfirst, (List.cons.inj (List.append_cancel_left h)).2⟩
  · intro h
    rw [h.1, h.2]

end Text

end CommandDocs
