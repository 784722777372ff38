import CommandDocs.Proofs.Page.Openings
import CommandDocs.Proofs.Text.Caseless

/-!
# The forms of an opening

A block of related links opens with two asterisks and the phrase "See Also", with one to six number
signs and the phrase, or with a line that holds the phrase alone. The forms are told here by the
parts of which a text is made, and not by how it is read. The search finds the first position at
which one of them stands.
-/

namespace CommandDocs.Page

variable {s t rest : Text} {i : Nat}

/-- Spaces and tabs only. -/
def IsSpacing (t : Text) : Prop := ∀ c ∈ t, c = .scalar ' ' ∨ c = .scalar '\t'

/-- The phrase "See Also" in any case, a long s allowed. -/
def IsPhrase (t : Text) : Prop := t.caseless = Text.caseless "See Also"

/-- The first text is spacing, the phrase, and behind them the second text. -/
def BeginsPhrase (t rest : Text) : Prop :=
  ∃ spacing phrase, IsSpacing spacing ∧ IsPhrase phrase ∧ t = spacing ++ (phrase ++ rest)

/-- Nothing is left of the line, or only a carriage return. -/
def EndsLine (t : Text) : Prop :=
  ∃ mark rest, (mark = [] ∨ mark = [.scalar '\r']) ∧ (rest = [] ∨ rest.head? = some newline) ∧
    t = mark ++ rest

/-- Nothing is left of the line but spacing, perhaps with a colon in it. -/
def IsLineTail (t : Text) : Prop :=
  ∃ before colon behind ending, IsSpacing before ∧ (colon = [] ∨ colon = [.scalar ':']) ∧
    IsSpacing behind ∧ EndsLine ending ∧ t = before ++ (colon ++ (behind ++ ending))

/-- A block of related links opens at position `i` of a text. -/
inductive OpensAt (t : Text) (i : Nat) : Prop
  /-- Two asterisks and the phrase. -/
  | bold {behind rest : Text} (ht : t.drop i = .scalar '*' :: .scalar '*' :: behind)
      (hphrase : BeginsPhrase behind rest)
  /-- One to six number signs and the phrase. -/
  | heading {level : Nat} {behind rest : Text} (hlevel : 1 ≤ level ∧ level ≤ 6)
      (ht : t.drop i = List.replicate level (.scalar '#') ++ behind)
      (hphrase : BeginsPhrase behind rest)
  /-- The phrase from the beginning of a line to its end, perhaps with a colon behind it. -/
  | bare {rest : Text} (hline : i = 0 ∨ t[i - 1]? = some newline)
      (hphrase : BeginsPhrase (t.drop i) rest) (htail : IsLineTail rest)

/-! ### The phrase -/

/-- The characters are the spellings of a letter: the code points that are this letter without
their case. -/
def Spells (choices : List Char) (letter : Char) : Prop :=
  ∀ c : CodePoint, c ∈ choices.map CodePoint.scalar ↔ c.caseless = [.scalar letter]

/-- Characters spell an ASCII character other than k when it and its capital are among them, in the
case of an s the long s as well, and nothing else. -/
theorem spells_of_forms {choices : List Char} {letter : Char}
    (hletter : 0 < letter.toNat ∧ letter.toNat < 0x80 ∧ letter ≠ 'k')
    (hforms : letter ∈ choices ∧ letter.toUpper ∈ choices ∧ (letter = 's' → 'ſ' ∈ choices))
    (hall : choices.all fun form =>
      form.toNat < 0x80 ∧ form.toLower = letter ∨ form = 'ſ' ∧ letter = 's') :
    Spells choices letter := by
  obtain ⟨hlow, hhigh, hk⟩ := hletter
  obtain ⟨hself, hcapital, hlong⟩ := hforms
  simp only [List.all_eq_true, decide_eq_true_eq] at hall
  intro c
  constructor
  · intro hc
    obtain ⟨form, hform, rfl⟩ := List.mem_map.mp hc
    rcases hall form hform with ⟨hascii, rfl⟩ | ⟨rfl, rfl⟩
    · exact CodePoint.caseless_ascii hascii
    · rfl
  · intro hc
    rcases CodePoint.cases_of_caseless hlow hhigh hk hc with rfl | rfl | ⟨hs, rfl⟩
    · exact List.mem_map_of_mem hself
    · exact List.mem_map_of_mem hcapital
    · exact List.mem_map_of_mem (hlong hs)

/-- The spellings of the phrase are those of its letters. -/
theorem spells_linksPhrase : List.Forall₂ Spells linksPhrase "see also".toList := by
  have hletters : ∀ entry ∈ linksPhrase.zip "see also".toList,
      (0 < entry.2.toNat ∧ entry.2.toNat < 0x80 ∧ entry.2 ≠ 'k') ∧
        (entry.2 ∈ entry.1 ∧ entry.2.toUpper ∈ entry.1 ∧ (entry.2 = 's' → 'ſ' ∈ entry.1)) ∧
          entry.1.all fun form =>
            form.toNat < 0x80 ∧ form.toLower = entry.2 ∨ form = 'ſ' ∧ entry.2 = 's' := by
    decide +kernel
  refine List.forall₂_iff_zip.mpr ⟨rfl, fun hentry => ?_⟩
  obtain ⟨hletter, hforms, hall⟩ := hletters _ hentry
  exact spells_of_forms hletter hforms hall

/-- A text has one spelling of each letter when it is these letters without its case. -/
theorem forall₂_iff_of_spells {spelling : List (List Char)} {letters : List Char}
    (h : List.Forall₂ Spells spelling letters) (t : Text) :
    List.Forall₂ (fun c choices => c ∈ choices.map CodePoint.scalar) t spelling ↔
      List.Forall₂ (fun c letter => c.caseless = [letter]) t (letters.map CodePoint.scalar) := by
  induction h generalizing t with
  | nil => simp
  | cons hspells _ ih =>
    rw [List.map_cons, List.forall₂_cons_right_iff, List.forall₂_cons_right_iff]
    simp only [hspells _, ih]

/-- The phrase has one spelling of each of its letters. -/
theorem isPhrase_iff : IsPhrase t ↔
    List.Forall₂ (fun c choices => c ∈ choices.map CodePoint.scalar) t linksPhrase := by
  have hletters : "See Also".toList.map Char.toLower = "see also".toList := by decide
  rw [IsPhrase, Text.caseless_ofString rfl, hletters, Text.caseless_eq_iff (by decide),
    forall₂_iff_of_spells spells_linksPhrase]

/-- The phrase does not begin with spacing. -/
theorem head_of_isPhrase {c : CodePoint} (h : IsPhrase s) (hc : c ∈ (s ++ t).head?) :
    isSpaceOrTab c = false := by
  have hread : dropSpelling linksPhrase s = some [] :=
    dropSpelling_eq_some_iff.mpr ⟨s, isPhrase_iff.mp h, (List.append_nil s).symm⟩
  obtain ⟨letter, behind, rfl, hletter⟩ := exists_letter_of_dropSpelling hread
  rw [List.cons_append, List.head?_cons, Option.mem_some_iff] at hc
  rw [← hc]
  simp only [List.mem_cons, List.not_mem_nil, or_false] at hletter
  rcases hletter with rfl | rfl | rfl <;> rfl

/-! ### Spacing before the phrase -/

/-- Spacing is what the readers skip. -/
theorem isSpacing_iff : IsSpacing t ↔ ∀ c ∈ t, isSpaceOrTab c = true := by
  simp [IsSpacing, isSpaceOrTab]

/-- What they skip is spacing. -/
theorem isSpacing_takeWhile (t : Text) : IsSpacing (t.takeWhile isSpaceOrTab) :=
  isSpacing_iff.mpr fun _ hc => List.mem_takeWhile_imp hc

/-- They skip no more than the spacing before a text that does not begin with any. -/
theorem dropWhile_spacing_append (hspacing : IsSpacing s)
    (ht : ∀ c ∈ t.head?, isSpaceOrTab c = false) : (s ++ t).dropWhile isSpaceOrTab = t := by
  rw [List.dropWhile_append_of_pos (isSpacing_iff.mp hspacing)]
  cases t with
  | nil => rfl
  | cons c rest => exact List.dropWhile_cons_of_neg (by simp [ht c rfl])

/-- The phrase is read where it stands, perhaps behind spacing. -/
theorem dropPhrase_eq_some_iff : dropPhrase t = some rest ↔ BeginsPhrase t rest := by
  rw [dropPhrase, dropSpelling_eq_some_iff]
  simp only [← isPhrase_iff]
  constructor
  · rintro ⟨phrase, hphrase, hdrop⟩
    refine ⟨t.takeWhile isSpaceOrTab, phrase, isSpacing_takeWhile t, hphrase, ?_⟩
    rw [← hdrop, List.takeWhile_append_dropWhile]
  · rintro ⟨spacing, phrase, hspacing, hphrase, rfl⟩
    exact ⟨phrase, hphrase,
      dropWhile_spacing_append hspacing fun c hc => head_of_isPhrase hphrase hc⟩

/-! ### The end of the line -/

/-- The end of a line is recognised by what stands there. -/
theorem atLineEnd_iff : atLineEnd t = true ↔ EndsLine t := by
  rw [atLineEnd.eq_def]
  split
  · exact iff_of_true rfl ⟨[], [], Or.inl rfl, Or.inl rfl, rfl⟩
  · exact iff_of_true rfl ⟨_, [], Or.inr rfl, Or.inl rfl, rfl⟩
  · exact iff_of_true rfl ⟨_, _, Or.inr rfl, Or.inr rfl, rfl⟩
  · rename_i c others hlast hnext
    rw [beq_iff_eq]
    constructor
    · rintro rfl
      exact ⟨[], _, Or.inl rfl, Or.inr rfl, rfl⟩
    · rintro ⟨mark, rest, rfl | rfl, hrest, ht⟩
      · rw [List.nil_append] at ht
        rw [← ht] at hrest
        simpa using hrest
      · -- A carriage return is at the end of the line in the two forms above only.
        obtain ⟨rfl, rfl⟩ := List.cons.inj ht
        rcases hrest with rfl | hrest
        · exact (hlast rfl rfl).elim
        · obtain ⟨more, rfl⟩ := List.head?_eq_some_iff.mp hrest
          exact (hnext more rfl rfl).elim

/-- The end of a line does not begin with spacing. -/
theorem head_of_endsLine {c : CodePoint} (h : EndsLine t) (hc : c ∈ t.head?) :
    isSpaceOrTab c = false := by
  obtain ⟨mark, rest, rfl | rfl, hrest, rfl⟩ := h
  · rcases hrest with rfl | hrest
    · cases hc
    · rw [Option.mem_unique hc hrest]
      rfl
  · rw [List.cons_append, List.head?_cons, Option.mem_some_iff] at hc
    rw [← hc]
    rfl

/-- The spacing is skipped before the colon and before the end of the line. -/
theorem isLineTail_iff : IsLineTail t ↔ EndsLine (t.dropWhile isSpaceOrTab) ∨
    ∃ behind, t.dropWhile isSpaceOrTab = .scalar ':' :: behind ∧
      EndsLine (behind.dropWhile isSpaceOrTab) := by
  constructor
  · rintro ⟨before, colon, behind, ending, hbefore, hcolon, hbehind, hending, rfl⟩
    have hskip : (behind ++ ending).dropWhile isSpaceOrTab = ending :=
      dropWhile_spacing_append hbehind fun c hc => head_of_endsLine hending hc
    rcases hcolon with rfl | rfl
    · left
      rw [List.dropWhile_append_of_pos (isSpacing_iff.mp hbefore), List.nil_append, hskip]
      exact hending
    · right
      refine ⟨behind ++ ending, dropWhile_spacing_append hbefore ?_, hskip.symm ▸ hending⟩
      rintro c ⟨⟩
      rfl
  · rintro (hending | ⟨behind, ht, hending⟩)
    · exact ⟨_, [], [], _, isSpacing_takeWhile t, Or.inl rfl, (fun _ hc => nomatch hc), hending,
        List.takeWhile_append_dropWhile.symm⟩
    · refine ⟨_, _, _, _, isSpacing_takeWhile t, Or.inr rfl, isSpacing_takeWhile behind, hending,
        ?_⟩
      rw [List.takeWhile_append_dropWhile, List.singleton_append, ← ht,
        List.takeWhile_append_dropWhile]

/-- The phrase fills its line when nothing but a colon stands behind it. -/
theorem fillsLine_iff : fillsLine t = true ↔ ∃ rest, BeginsPhrase t rest ∧ IsLineTail rest := by
  simp only [← dropPhrase_eq_some_iff]
  rw [fillsLine]
  split
  · rename_i hnone
    simp [hnone]
  · rename_i rest hrest
    simp only [hrest, Option.some.injEq, exists_eq_left', isLineTail_iff, ← atLineEnd_iff]
    split
    · rename_i behind hcolon
      rw [hcolon]
      simp [atLineEnd]
    · rename_i hcolon
      refine (or_iff_left ?_).symm
      rintro ⟨behind, hbehind, -⟩
      exact hcolon behind hbehind

/-! ### The search -/

/-- A line begins at the beginning of the text and behind every newline. -/
theorem beginsLine_iff : beginsLine true t i = true ↔ i = 0 ∨ t[i - 1]? = some newline := by
  cases i with
  | zero => simp [beginsLine]
  | succ i => simp [beginsLine]

/-- An opening is one of the three forms. -/
theorem opensLinks_iff : opensLinks (beginsLine true t i) (t.drop i) = true ↔ OpensAt t i := by
  rw [opensLinks, Bool.or_eq_true, Bool.or_eq_true, Bool.and_eq_true, opensBold_iff,
    opensHeading_iff, fillsLine_iff, beginsLine_iff]
  simp only [dropPhrase_eq_some_iff]
  constructor
  · rintro ((⟨behind, rest, ht, hphrase⟩ | ⟨level, behind, rest, hlevel, ht, hphrase⟩) |
      ⟨hline, rest, hphrase, htail⟩)
    · exact .bold ht hphrase
    · exact .heading hlevel ht hphrase
    · exact .bare hline hphrase htail
  · rintro (⟨ht, hphrase⟩ | ⟨hlevel, ht, hphrase⟩ | ⟨hline, hphrase, htail⟩)
    · exact Or.inl (Or.inl ⟨_, _, ht, hphrase⟩)
    · exact Or.inl (Or.inr ⟨_, _, _, hlevel, ht, hphrase⟩)
    · exact Or.inr ⟨hline, _, hphrase, htail⟩

instance (t : Text) (i : Nat) : Decidable (OpensAt t i) := decidable_of_iff _ opensLinks_iff

/-- The block of related links opens at the first position at which one of the forms stands. It
opens nowhere when none of them stands at any position. -/
theorem findRelatedLinks_exact (t : Text) :
    (∀ i, findRelatedLinks t = some i ↔ OpensAt t i ∧ ∀ k < i, ¬OpensAt t k) ∧
      (findRelatedLinks t = none ↔ ∀ k, ¬OpensAt t k) := by
  refine ⟨fun i => ?_, ?_⟩
  · rw [findRelatedLinks, findOpening_eq_some_iff, opensLinks_iff]
    simp only [← opensLinks_iff, Bool.not_eq_true]
  · rw [findRelatedLinks, findOpening_eq_none_iff]
    simp only [← opensLinks_iff, Bool.not_eq_true]

-- The first of seven number signs belongs to no heading; the others open one.
example : ¬OpensAt "####### ſee alſo" 0 ∧ OpensAt "####### ſee alſo" 1 := by decide

-- The phrase opens nothing where prose goes on with it.
example : findRelatedLinks "If needed,\nsee also the manual." = none := by decide

end CommandDocs.Page
