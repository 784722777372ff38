import CommandDocs.Proofs.Text.Separation
import Mathlib.Data.List.Chain

/-!
# Canonical texts are canonical

Normalization takes composites apart again, and finds what it composed them from: decomposing and
ordering a composed text gives the text that was composed. A second normalization therefore changes
nothing.
-/

namespace CommandDocs

namespace CodePoint

variable {a b c d x : CodePoint} {n lead vowel trail : Nat}

/-! ### Looking up whole lists -/

/-- Has the number none of the bits of the mask? -/
def avoids (mask n : Nat) : Bool := Nat.beq (n &&& mask) 0

/-- Each item with the first entry for its key. Items and entries are parted by the bits of the
masks before they are compared, which keeps the kernel from walking the table for every item. -/
def findEach {α β : Type} (key : α → Nat) :
    List Nat → List α → List (Nat × β) → List (α × Option (Nat × β))
  | [], items, table => items.map fun item => (item, table.find? (·.1 == key item))
  | mask :: masks, items, table =>
    findEach key masks (items.filter fun item => avoids mask (key item))
        (table.filter fun entry => avoids mask entry.1) ++
      findEach key masks (items.filter fun item => !avoids mask (key item))
        (table.filter fun entry => !avoids mask entry.1)

/-- Entries whose key differs from what is looked for may be left out. -/
theorem find?_filter_key {β : Type} (keep : Nat → Bool) (hkeep : keep n = true)
    (table : List (Nat × β)) :
    (table.filter fun entry => keep entry.1).find? (·.1 == n) = table.find? (·.1 == n) := by
  rw [List.find?_filter]
  congr 1
  funext entry
  cases hkey : entry.1 == n with
  | false => simp
  | true => simp [beq_iff_eq.mp hkey, hkeep]

/-- Each item is found with the first entry for its key. -/
theorem mem_findEach {α β : Type} {key : α → Nat} {item : α} {items : List α}
    (hitem : item ∈ items) (masks : List Nat) (table : List (Nat × β)) :
    (item, table.find? (·.1 == key item)) ∈ findEach key masks items table := by
  induction masks generalizing items table with
  | nil => exact List.mem_map_of_mem hitem
  | cons mask masks ih =>
    rw [findEach, List.mem_append]
    cases hbits : avoids mask (key item) with
    | true =>
      have hkept : item ∈ items.filter fun item => avoids mask (key item) :=
        List.mem_filter.mpr ⟨hitem, hbits⟩
      rw [← find?_filter_key (avoids mask) hbits table]
      exact Or.inl (ih hkept _)
    | false =>
      have hbits : (!avoids mask (key item)) = true := by rw [hbits, Bool.not_false]
      have hkept : item ∈ items.filter fun item => !avoids mask (key item) :=
        List.mem_filter.mpr ⟨hitem, hbits⟩
      rw [← find?_filter_key (fun n => !avoids mask n) hbits table]
      exact Or.inr (ih hkept _)

/-- The masks by which the tables are parted: the bit that sets the compatibility ideographs apart,
and the lowest bits. -/
def tableMasks : List Nat := [0x8000, 1, 2, 4, 8, 16, 32, 64]

/-- The composites with the entries for their first code points and for themselves. -/
def composedEntries :
    List (((Nat × Nat × Nat) × Option (Nat × List Nat)) × Option (Nat × List Nat)) :=
  findEach (fun found => found.1.2.2) tableMasks
    (findEach (fun composite => composite.1) tableMasks CanonicalTable.composites.toList
      CanonicalTable.decompositions.toList)
    CanonicalTable.decompositions.toList

/-- The decomposition that the table gives. -/
def listed (entry : Option (Nat × List Nat)) (n : Nat) : List Nat := entry.elim [n] Prod.snd

/-- A composite of the table has an entry, and is decomposed into what its first code point is
decomposed into, and the second one. -/
theorem listed_of_composedEntries :
    composedEntries.all (fun found =>
      found.2.map Prod.snd == some (listed found.1.2 found.1.1.1 ++ [found.1.1.2.1])) = true := by
  decide +kernel

/-- Numbers of composites and of their first code points are those of code points, and of no
syllable. -/
theorem bounds_of_mem_composites :
    CanonicalTable.composites.toList.all (fun composite =>
      (composite.1 < hangulSyllable || hangulSyllable + 11172 ≤ composite.1) &&
      (composite.2.2 < hangulSyllable || hangulSyllable + 11172 ≤ composite.2.2) &&
      composite.2.2 < 0x110000) = true := by
  decide +kernel

/-- The numbers of the code points into which others are decomposed, as masks: those of the letters
of syllables, and those of the table. -/
def partMasks : List Nat :=
  rangeMask hangulLead (hangulLead + 18) :: rangeMask hangulVowel (hangulVowel + 20) ::
    rangeMask hangulTrail (hangulTrail + 27) ::
    CanonicalTable.decompositions.toList.flatMap fun entry => entry.2.map (1 <<< ·)

/-- The numbers of the code points that are decomposed, as masks: those of the syllables, and those
of the table. -/
def wholeMasks : List Nat :=
  rangeMask hangulSyllable (hangulSyllable + 11171) ::
    CanonicalTable.decompositions.toList.map fun entry => 1 <<< entry.1

/-- No part is decomposed any further. -/
theorem partMasks_and_wholeMasks : union partMasks &&& union wholeMasks = 0 := by decide +kernel

/-! ### Decomposition -/

/-- Other code points than syllables are decomposed as the table says. -/
theorem decompose_of_listed (h : c.value < hangulSyllable ∨ hangulSyllable + 11172 ≤ c.value) :
    c.decompose = (listed (CanonicalTable.decompositions.toList.find? (·.1 == c.value))
      c.value).map ofValue := by
  have hsyllable : ¬(hangulSyllable ≤ c.value ∧ c.value < hangulSyllable + 11172) := by omega
  rw [decompose]
  simp only [Bool.and_eq_true, decide_eq_true_eq, hsyllable, if_false, Array.find?_toList]
  cases CanonicalTable.decompositions.find? (·.1 == c.value) with
  | none =>
    simp only [listed, Option.elim_none, List.map_cons, List.map_nil, ofValue_value]
  | some entry => rfl

/-- A syllable is decomposed into its letters. -/
theorem decompose_of_syllable (hvowel : vowel < 21) (htrail : trail < 28) (hlead : lead < 19)
    (h : c.value = hangulSyllable + (lead * 21 + vowel) * 28 + trail) :
    c.decompose = ofValue (hangulLead + lead) :: ofValue (hangulVowel + vowel) ::
      if trail = 0 then [] else [ofValue (hangulTrail + trail)] := by
  have hsyllable : hangulSyllable ≤ c.value ∧ c.value < hangulSyllable + 11172 := by omega
  have hindex : c.value - hangulSyllable = (lead * 21 + vowel) * 28 + trail := by omega
  have hleads : ((lead * 21 + vowel) * 28 + trail) / 588 = lead := by omega
  have hvowels : ((lead * 21 + vowel) * 28 + trail) % 588 / 28 = vowel := by omega
  have htrails : ((lead * 21 + vowel) * 28 + trail) % 28 = trail := by omega
  rw [decompose]
  simp only [Bool.and_eq_true, decide_eq_true_eq, hsyllable, and_self, if_true, hindex, hleads,
    hvowels, htrails]
  split
  · rfl
  · rfl

/-- A part is not decomposed any further. -/
theorem decompose_of_part (h : (union partMasks).testBit c.value = true) : c.decompose = [c] := by
  have hwhole : (union wholeMasks).testBit c.value = false := by
    have hboth : (union partMasks &&& union wholeMasks).testBit c.value = false := by
      rw [partMasks_and_wholeMasks, Nat.zero_testBit]
    rw [Nat.testBit_and, h, Bool.true_and] at hboth
    exact hboth
  have hsyllable : c.value < hangulSyllable ∨ hangulSyllable + 11172 ≤ c.value := by
    by_contra hbetween
    have hmask : rangeMask hangulSyllable (hangulSyllable + 11171) ∈ wholeMasks :=
      List.mem_cons_self
    rw [testBit_union hmask (testBit_rangeMask (by omega) (by omega))] at hwhole
    cases hwhole
  have hnone : CanonicalTable.decompositions.toList.find? (·.1 == c.value) = none := by
    rw [List.find?_eq_none]
    intro entry hentry hkey
    have hmask : 1 <<< entry.1 ∈ wholeMasks :=
      List.mem_cons_of_mem _ (List.mem_map_of_mem hentry)
    have hbit : (1 <<< entry.1).testBit c.value = true := by
      rw [← beq_iff_eq.mp hkey, Nat.testBit_shiftLeft]
      simp
    rw [testBit_union hmask hbit] at hwhole
    cases hwhole
  rw [decompose_of_listed hsyllable, hnone, listed, Option.elim_none, List.map_singleton,
    ofValue_value]

/-- What is decomposed is not decomposed any further. -/
theorem decompose_of_mem_decompose (h : d ∈ c.decompose) : d.decompose = [d] := by
  have hpart {n : Nat} {mask : Nat} (hmask : mask ∈ partMasks) (hbit : mask.testBit n = true) :
      (ofValue n).decompose = [ofValue n] := by
    rcases value_ofValue n with hvalue | hvalue
    · refine decompose_of_part ?_
      rw [hvalue]
      exact testBit_union hmask hbit
    · exact decompose_of_lt (by omega)
  by_cases hsyllable : c.value < hangulSyllable ∨ hangulSyllable + 11172 ≤ c.value
  · cases hfind : CanonicalTable.decompositions.toList.find? (·.1 == c.value) with
    | none =>
      have hself : c.decompose = [c] := by
        rw [decompose_of_listed hsyllable, hfind, listed, Option.elim_none, List.map_singleton,
          ofValue_value]
      rw [hself, List.mem_singleton] at h
      rw [h, hself]
    | some entry =>
      rw [decompose_of_listed hsyllable, hfind, listed, Option.elim_some] at h
      obtain ⟨n, hn, rfl⟩ := List.mem_map.mp h
      have hmask : 1 <<< n ∈ partMasks :=
        List.mem_cons_of_mem _ (List.mem_cons_of_mem _ (List.mem_cons_of_mem _
          (List.mem_flatMap.mpr ⟨entry, List.mem_of_find?_eq_some hfind, List.mem_map_of_mem hn⟩)))
      refine hpart hmask ?_
      rw [Nat.testBit_shiftLeft]
      simp
  · -- the letters of a syllable
    have hlead : rangeMask hangulLead (hangulLead + 18) ∈ partMasks := List.mem_cons_self
    have hvowel : rangeMask hangulVowel (hangulVowel + 20) ∈ partMasks :=
      List.mem_cons_of_mem _ List.mem_cons_self
    have htrail : rangeMask hangulTrail (hangulTrail + 27) ∈ partMasks :=
      List.mem_cons_of_mem _ (List.mem_cons_of_mem _ List.mem_cons_self)
    obtain ⟨index, hindex⟩ := Nat.exists_eq_add_of_le (Nat.not_lt.mp (not_or.mp hsyllable).1)
    have hsplit : c.value =
        hangulSyllable + (index / 588 * 21 + index % 588 / 28) * 28 + index % 28 := by omega
    rw [decompose_of_syllable (by omega) (by omega) (by omega) hsplit] at h
    rcases List.mem_cons.mp h with rfl | h
    · exact hpart hlead (testBit_rangeMask (by omega) (by omega))
    · rcases List.mem_cons.mp h with rfl | h
      · exact hpart hvowel (testBit_rangeMask (by omega) (by omega))
      · split at h
        · cases h
        · rw [List.mem_singleton.mp h]
          exact hpart htrail (testBit_rangeMask (by omega) (by omega))

/-- A composite is decomposed into the parts of the first code point and the second one. -/
theorem decompose_of_compose? (h : a.compose? b = some x) :
    x.decompose = a.decompose ++ [b] := by
  rcases cases_of_compose? h with ⟨lead, vowel, hlead, hvowel, ha, hb, hx⟩ |
    ⟨syllable, trail, hbound, hopen, hpos, htrail, ha, hb, hx⟩ | ⟨entry, hentry, ha, hb, hx⟩
  · have hmask : rangeMask hangulLead (hangulLead + 18) ∈ partMasks := List.mem_cons_self
    have hvalue : x.value = hangulSyllable + (lead * 21 + vowel) * 28 + 0 := by
      rw [hx, value_ofValue_of_lt]
      · rfl
      · rw [hangulSyllable]
        omega
    rw [decompose_of_syllable hvowel (by omega) hlead hvalue, if_pos rfl,
      decompose_of_part (testBit_union hmask (testBit_rangeMask (by omega) (by omega))), ← ha, ← hb,
      ofValue_value, ofValue_value]
    rfl
  · have hvalue : x.value =
        hangulSyllable + (syllable / 588 * 21 + syllable % 588 / 28) * 28 + trail := by
      rw [hx, value_ofValue_of_lt]
      · omega
      · rw [hangulSyllable]
        omega
    have hfirst : a.value =
        hangulSyllable + (syllable / 588 * 21 + syllable % 588 / 28) * 28 + 0 := by omega
    rw [decompose_of_syllable (by omega) htrail (by omega) hvalue,
      decompose_of_syllable (by omega) (by omega) (by omega) hfirst, if_neg (by omega), if_pos rfl,
      ← hb, ofValue_value]
    rfl
  · have hbounds := List.all_eq_true.mp bounds_of_mem_composites entry hentry
    simp only [Bool.and_eq_true, Bool.or_eq_true, decide_eq_true_eq] at hbounds
    obtain ⟨⟨hfirst, hcomposite⟩, hlast⟩ := hbounds
    have hvalue : x.value = entry.2.2 := by rw [hx, value_ofValue_of_lt hlast]
    let table := CanonicalTable.decompositions.toList
    have hentries : ((entry, table.find? (·.1 == entry.1)), table.find? (·.1 == entry.2.2)) ∈
        composedEntries := mem_findEach (mem_findEach hentry tableMasks table) tableMasks table
    have hlisted : (table.find? (·.1 == entry.2.2)).map Prod.snd =
        some (listed (table.find? (·.1 == entry.1)) entry.1 ++ [entry.2.1]) :=
      beq_iff_eq.mp (List.all_eq_true.mp listed_of_composedEntries _ hentries)
    obtain ⟨found, hfind, hparts⟩ := Option.map_eq_some_iff.mp hlisted
    rw [← hvalue] at hcomposite hfind
    rw [← ha] at hfirst hparts
    rw [decompose_of_listed hcomposite, decompose_of_listed hfirst, hfind]
    rw [listed, Option.elim_some, hparts, List.map_append, List.map_singleton, ← hb, ofValue_value]

end CodePoint

namespace Text

open CodePoint

variable {s t u held : Text} {starter c d : CodePoint}

/-! ### Order -/

/-- The code point is a mark of a lower class, behind which the other one is put. -/
def StandsBefore (d c : CodePoint) : Prop :=
  d.combiningClass < c.combiningClass ∧ d.combiningClass ≠ 0

instance (d c : CodePoint) : Decidable (StandsBefore d c) :=
  inferInstanceAs (Decidable (_ ∧ _))

/-- A mark moves behind those that stand before it. -/
theorem insertMark_cons (c d : CodePoint) (t : Text) :
    insertMark c (d :: t) = if StandsBefore d c then d :: insertMark c t else c :: d :: t := by
  rw [insertMark]
  by_cases h : StandsBefore d c
  · rw [if_pos h, if_pos (by simpa [StandsBefore] using h)]
  · rw [if_neg h, if_neg (by simpa [StandsBefore] using h)]

/-- Marks of different classes may be put into a text in either order. -/
theorem insertMark_comm (h : StandsBefore d c) (t : Text) :
    insertMark d (insertMark c t) = insertMark c (insertMark d t) := by
  have hbehind : ¬StandsBefore c d := fun hback => Nat.lt_asymm h.1 hback.1
  induction t with
  | nil =>
    rw [insertMark, insertMark, insertMark_cons, insertMark_cons, if_neg hbehind, if_pos h]
    rfl
  | cons e rest ih =>
    rw [insertMark_cons c, insertMark_cons d]
    by_cases hed : StandsBefore e d
    · have hec : StandsBefore e c := ⟨Nat.lt_trans hed.1 h.1, hed.2⟩
      rw [if_pos hec, if_pos hed, insertMark_cons, insertMark_cons, if_pos hed, if_pos hec, ih]
    · rw [if_neg hed, insertMark_cons c, if_pos h, insertMark_cons c]
      by_cases hec : StandsBefore e c
      · rw [if_pos hec, insertMark_cons, if_neg hed]
      · rw [if_neg hec, insertMark_cons, if_neg hbehind]

/-- Putting a text into order puts its marks in one after the other, from behind. -/
theorem orderMarks_append_eq_foldr (s t : Text) :
    orderMarks (s ++ t) = s.foldr insertMark (orderMarks t) := by
  induction s with
  | nil => rfl
  | cons c rest ih => rw [List.cons_append, orderMarks, ih, List.foldr_cons]

/-- A mark is put in where it stands in the order of the others. -/
theorem foldr_insertMark_insertMark (c : CodePoint) (s t : Text) :
    (insertMark c s).foldr insertMark t = insertMark c (s.foldr insertMark t) := by
  induction s with
  | nil => rfl
  | cons d rest ih =>
    rw [insertMark_cons]
    split
    · rename_i hbefore
      rw [List.foldr_cons, List.foldr_cons, ih, insertMark_comm hbefore]
    · rfl

/-- The order in which marks are put in makes no difference once they are in order. -/
theorem foldr_insertMark_orderMarks (s t : Text) :
    (orderMarks s).foldr insertMark t = s.foldr insertMark t := by
  induction s with
  | nil => rfl
  | cons c rest ih => rw [orderMarks, foldr_insertMark_insertMark, ih, List.foldr_cons]

/-- An ordered text is in order. -/
theorem orderMarks_orderMarks (t : Text) : orderMarks (orderMarks t) = orderMarks t := by
  have hself (s : Text) : orderMarks s = s.foldr insertMark [] := by
    rw [← List.append_nil s, orderMarks_append_eq_foldr, List.append_nil]
    rfl
  rw [hself (orderMarks t), foldr_insertMark_orderMarks, ← hself]

/-- A mark may be taken from behind marks of lower classes. -/
theorem insertMark_foldr (h : ∀ m ∈ s, StandsBefore m c) (t : Text) :
    insertMark c (s.foldr insertMark t) = s.foldr insertMark (insertMark c t) := by
  induction s with
  | nil => rfl
  | cons d rest ih =>
    rw [List.forall_mem_cons] at h
    rw [List.foldr_cons, List.foldr_cons, ← ih h.2, insertMark_comm h.1]

/-- The mark `d` may stand behind `c` in an ordered text. -/
def MayFollow (c d : CodePoint) : Prop := d.combiningClass ≠ 0 → c.combiningClass ≤ d.combiningClass

/-- Putting a mark into an ordered text keeps the order. -/
theorem isChain_insertMark (c : CodePoint) (h : t.IsChain MayFollow) :
    (insertMark c t).IsChain MayFollow := by
  induction t with
  | nil => exact .singleton c
  | cons d rest ih =>
    rw [insertMark_cons]
    split
    · rename_i hbefore
      cases rest with
      | nil => exact .cons_cons (fun _ => Nat.le_of_lt hbefore.1) (.singleton c)
      | cons e rest =>
        obtain ⟨hfirst, hrest⟩ := List.isChain_cons_cons.mp h
        have hinserted := ih hrest
        rw [insertMark_cons] at hinserted ⊢
        split
        · rename_i hlast
          rw [if_pos hlast] at hinserted
          exact .cons_cons hfirst hinserted
        · rename_i hlast
          rw [if_neg hlast] at hinserted
          exact .cons_cons (fun _ => Nat.le_of_lt hbefore.1) hinserted
    · rename_i hbehind
      refine .cons_cons (fun hmark => ?_) h
      rw [StandsBefore, not_and_not_right] at hbehind
      omega

/-- Text that is put into order is. -/
theorem isChain_orderMarks (t : Text) : (orderMarks t).IsChain MayFollow := by
  induction t with
  | nil => exact List.IsChain.nil
  | cons c rest ih => exact isChain_insertMark c ih

/-! ### Composition is taken back -/

/-- A text that is decomposed stays as it is. -/
theorem flatMap_decompose_of (h : ∀ c ∈ t, c.decompose = [c]) :
    t.flatMap CodePoint.decompose = t := by
  induction t with
  | nil => rfl
  | cons c rest ih =>
    rw [List.forall_mem_cons] at h
    rw [List.flatMap_cons, h.1, ih h.2, List.singleton_append]

/-- What is put into order behind a text may be put into order before. -/
theorem orderMarks_append_congr (s : Text) (h : orderMarks t = orderMarks u) :
    orderMarks (s ++ t) = orderMarks (s ++ u) := by
  rw [orderMarks_append_eq_foldr, orderMarks_append_eq_foldr, h]

/-- A mark may be taken from behind marks of lower classes before a text is put into order. -/
theorem orderMarks_append_cons (h : ∀ m ∈ held, StandsBefore m c) (s t : Text) :
    orderMarks (s ++ c :: (held ++ t)) = orderMarks (s ++ (held ++ c :: t)) := by
  refine orderMarks_append_congr s ?_
  rw [orderMarks, orderMarks_append_eq_foldr, orderMarks_append_eq_foldr, orderMarks,
    insertMark_foldr h]

/-- The marks that are held back behind a starter are in order and not decomposed any further. -/
structure IsHeld (held : Text) : Prop where
  /-- They are marks. -/
  marks : ∀ m ∈ held, m.combiningClass ≠ 0
  /-- The last one stands first, and is of the highest class. -/
  descending : held.Pairwise fun c d => d.combiningClass ≤ c.combiningClass
  /-- They are decomposed. -/
  decomposed : ∀ m ∈ held, m.decompose = [m]

/-- At first no marks are held back. -/
theorem isHeld_nil : IsHeld [] := ⟨by simp, .nil, by simp⟩

/-- A mark that follows is held back as well. -/
theorem IsHeld.cons (h : IsHeld held) (hmark : c.combiningClass ≠ 0) (hc : c.decompose = [c])
    (hfollows : ∀ m ∈ held, MayFollow m c) : IsHeld (c :: held) where
  marks := List.forall_mem_cons.mpr ⟨hmark, h.marks⟩
  descending := List.pairwise_cons.mpr ⟨fun m hm => hfollows m hm hmark, h.descending⟩
  decomposed := List.forall_mem_cons.mpr ⟨hc, h.decomposed⟩

/-- When the last mark stands before another one, all of them do. -/
theorem IsHeld.standsBefore (h : IsHeld held)
    (hlast : ∀ last ∈ held.head?, last.combiningClass < c.combiningClass) :
    ∀ m ∈ held, StandsBefore m c := by
  intro m hm
  refine ⟨?_, h.marks m hm⟩
  cases held with
  | nil => cases hm
  | cons last others =>
    have hlower := hlast last rfl
    rcases List.mem_cons.mp hm with rfl | hothers
    · exact hlower
    · exact Nat.lt_of_le_of_lt (List.rel_of_pairwise_cons h.descending hothers) hlower

/-- What a composition behind a starter is decomposed into, put into order, is the text that was
composed, put into order. -/
theorem orderMarks_composeBehind (hheld : IsHeld held) (ht : ∀ c ∈ t, c.decompose = [c])
    (hchain : t.IsChain MayFollow) (hbehind : ∀ c ∈ t.head?, ∀ m ∈ held, MayFollow m c) :
    orderMarks ((composeBehind starter held t).flatMap CodePoint.decompose) =
      orderMarks (starter.decompose ++ (held.reverse ++ t)) := by
  have hreverse {held : Text} (hheld : IsHeld held) :
      held.reverse.flatMap CodePoint.decompose = held.reverse :=
    flatMap_decompose_of fun m hm => hheld.decomposed m (List.mem_reverse.mp hm)
  induction t generalizing starter held with
  | nil => rw [composeBehind_nil, List.flatMap_cons, hreverse hheld, List.append_nil]
  | cons c rest ih =>
    rw [List.forall_mem_cons] at ht
    obtain ⟨hnext, hrest⟩ := List.isChain_cons.mp hchain
    have hfollows : ∀ m ∈ held, MayFollow m c := hbehind c rfl
    rcases composeBehind_cases starter held c with ⟨composite, hlast, hcompose, hstep⟩ |
      ⟨hstarter, hstep⟩ | ⟨hmark, hstep⟩
    · have hbefore := hheld.standsBefore hlast
      have hbehind' : ∀ d ∈ rest.head?, ∀ m ∈ held, MayFollow m d := fun d hd m hm hmark =>
        Nat.le_trans (Nat.le_of_lt (hbefore m hm).1) (hnext d hd hmark)
      rw [hstep, ih hheld ht.2 hrest hbehind', decompose_of_compose? hcompose, List.append_assoc,
        List.singleton_append, orderMarks_append_cons]
      exact fun m hm => hbefore m (List.mem_reverse.mp hm)
    · have hanew : orderMarks ((composeBehind c [] rest).flatMap CodePoint.decompose) =
          orderMarks (c :: rest) := by
        rw [ih isHeld_nil ht.2 hrest (by simp), ht.1]
        rfl
      rw [hstep, List.flatMap_append, List.flatMap_cons, hreverse hheld, List.append_assoc,
        orderMarks_append_congr _ (orderMarks_append_congr _ hanew)]
    · have hbehind' : ∀ d ∈ rest.head?, ∀ m ∈ c :: held, MayFollow m d := by
        intro d hd m hm hmark'
        rcases List.mem_cons.mp hm with rfl | hm
        · exact hnext d hd hmark'
        · exact Nat.le_trans (hfollows m hm hmark) (hnext d hd hmark')
      rw [hstep, ih (hheld.cons hmark ht.1 hfollows) ht.2 hrest hbehind', List.reverse_cons,
        List.append_assoc, List.singleton_append]

/-- What a composed text is decomposed into, put into order, is the text, put into order. -/
theorem orderMarks_composeAll (ht : ∀ c ∈ t, c.decompose = [c]) (hchain : t.IsChain MayFollow) :
    orderMarks ((composeAll t).flatMap CodePoint.decompose) = orderMarks t := by
  induction t with
  | nil => rfl
  | cons c rest ih =>
    rw [List.forall_mem_cons] at ht
    have hrest := (List.isChain_cons.mp hchain).2
    rw [composeAll]
    split
    · rw [orderMarks_composeBehind isHeld_nil ht.2 hrest (by simp), ht.1]
      rfl
    · rw [List.flatMap_cons, ht.1, List.singleton_append, orderMarks, orderMarks, ih ht.2 hrest]

/-- Normalization is idempotent. -/
theorem normalize_normalize (t : Text) : t.normalize.normalize = t.normalize := by
  have hparts : ∀ c ∈ orderMarks (t.flatMap CodePoint.decompose), c.decompose = [c] := by
    intro c hc
    obtain ⟨whole, -, hpart⟩ := List.mem_flatMap.mp ((orderMarks_perm _).mem_iff.mp hc)
    exact decompose_of_mem_decompose hpart
  rw [normalize_eq t.normalize, normalize_eq t,
    orderMarks_composeAll hparts (isChain_orderMarks _), orderMarks_orderMarks]

end Text

end CommandDocs
