import CommandDocs.Proofs.Page.RelatedLinks
import CommandDocs.Proofs.Text.Trim

/-!
# Openings by position

The search for related links finds the least position at which a block opens. An opening
in bold type or in a heading is there whatever text follows it; only the phrase alone on
its line can stop being an opening when its line goes on.
-/

namespace CommandDocs.Page

variable {s t rest : Text} {atLineStart : Bool} {i k : Nat}

/-- Does a line begin at position `k` of a text that itself begins one or not? -/
def beginsLine (atLineStart : Bool) (t : Text) : Nat → Bool
  | 0 => atLineStart
  | k + 1 => t[k]? == some newline

/-- Behind its first code point a text has the line beginnings of its rest. -/
theorem beginsLine_cons (c : CodePoint) (t : Text) (k : Nat) :
    beginsLine atLineStart (c :: t) (k + 1) = beginsLine (c == newline) t k := by
  cases k with
  | zero => simp [beginsLine]
  | succ k => simp [beginsLine]

/-- Nothing opens in the empty text. -/
theorem opensLinks_nil (atLineStart : Bool) : opensLinks atLineStart [] = false := by
  cases atLineStart <;> rfl

/-- A text in which nothing is found has no opening at any position. -/
theorem findOpening_eq_none_iff :
    findOpening atLineStart t = none ↔
      ∀ k, opensLinks (beginsLine atLineStart t k) (t.drop k) = false := by
  induction t generalizing atLineStart with
  | nil => simp [findOpening, opensLinks_nil]
  | cons c rest ih =>
    rw [findOpening]
    by_cases ho : opensLinks atLineStart (c :: rest) = true
    · rw [if_pos ho]
      refine iff_of_false (by simp) fun h => ?_
      have hzero := h 0
      rw [beginsLine, List.drop_zero, ho] at hzero
      cases hzero
    · rw [if_neg ho, Option.map_eq_none_iff, ih]
      constructor
      · intro h k
        cases k with
        | zero => exact Bool.eq_false_iff.mpr ho
        | succ k =>
          rw [beginsLine_cons, List.drop_succ_cons]
          exact h k
      · intro h k
        have hsucc := h (k + 1)
        rw [beginsLine_cons, List.drop_succ_cons] at hsucc
        exact hsucc

/-- What is found is the least position with an opening. -/
theorem findOpening_eq_some_iff :
    findOpening atLineStart t = some i ↔
      opensLinks (beginsLine atLineStart t i) (t.drop i) = true ∧
        ∀ k < i, opensLinks (beginsLine atLineStart t k) (t.drop k) = false := by
  induction t generalizing atLineStart i with
  | nil => simp [findOpening, opensLinks_nil]
  | cons c rest ih =>
    rw [findOpening]
    by_cases ho : opensLinks atLineStart (c :: rest) = true
    · rw [if_pos ho]
      constructor
      · intro h
        rw [← Option.some.inj h]
        exact ⟨ho, fun k hk => absurd hk (Nat.not_lt_zero k)⟩
      · rintro ⟨-, hleast⟩
        cases i with
        | zero => rfl
        | succ i =>
          have hzero := hleast 0 (Nat.zero_lt_succ i)
          rw [beginsLine, List.drop_zero, ho] at hzero
          cases hzero
    · rw [if_neg ho]
      cases i with
      | zero =>
        rw [beginsLine, List.drop_zero]
        simp [ho]
      | succ i =>
        rw [beginsLine_cons, List.drop_succ_cons, Option.map_eq_some_iff]
        constructor
        · rintro ⟨j, hj, hji⟩
          rw [Nat.succ.inj hji, ih] at hj
          refine ⟨hj.1, fun k hk => ?_⟩
          cases k with
          | zero => exact Bool.eq_false_iff.mpr ho
          | succ k =>
            rw [beginsLine_cons, List.drop_succ_cons]
            exact hj.2 k (Nat.lt_of_succ_lt_succ hk)
        · rintro ⟨hopens, hleast⟩
          refine ⟨i, ih.mpr ⟨hopens, fun k hk => ?_⟩, rfl⟩
          have hsucc := hleast (k + 1) (Nat.succ_lt_succ hk)
          rw [beginsLine_cons, List.drop_succ_cons] at hsucc
          exact hsucc

/-- A position that is found lies within the text. -/
theorem lt_length_of_findOpening (h : findOpening atLineStart t = some i) : i < t.length := by
  by_contra hlong
  have hopens := (findOpening_eq_some_iff.mp h).1
  rw [List.drop_eq_nil_of_le (Nat.not_lt.mp hlong), opensLinks_nil] at hopens
  cases hopens

/-! ### What an opening begins with -/

/-- Code points with which an opening can begin: a blank before the bare phrase, an asterisk,
a number sign, or a spelling of the first letter of the phrase. -/
def beginsOpening (c : CodePoint) : Bool :=
  isSpaceOrTab c || c == .scalar '*' || c == .scalar '#' ||
    c == .scalar 'S' || c == .scalar 's' || c == .scalar 'ſ'

/-- What is read by spelling the phrase begins with a spelling of its first letter. -/
theorem exists_letter_of_dropSpelling (h : dropSpelling linksPhrase s = some rest) :
    ∃ letter behind, s = .scalar letter :: behind ∧ letter ∈ ['S', 's', 'ſ'] := by
  obtain ⟨word, hword, rfl⟩ := dropSpelling_eq_some_iff.mp h
  rw [linksPhrase, List.forall₂_cons_right_iff] at hword
  obtain ⟨c, others, hc, -, rfl⟩ := hword
  obtain ⟨letter, hletter, rfl⟩ := List.mem_map.mp hc
  exact ⟨letter, others ++ rest, rfl, hletter⟩

/-- The phrase is read from no text that begins with a number sign. -/
theorem head_of_dropPhrase {c : CodePoint} (h : dropPhrase t = some rest) (hc : c ∈ t.head?) :
    c ≠ .scalar '#' := by
  rintro rfl
  obtain ⟨behind, rfl⟩ := List.head?_eq_some_iff.mp hc
  rw [dropPhrase, List.dropWhile_cons_of_neg (by decide)] at h
  obtain ⟨letter, more, hsign, hletter⟩ := exists_letter_of_dropSpelling h
  rw [← CodePoint.scalar.inj (List.cons.inj hsign).1] at hletter
  exact absurd hletter (by decide)

/-- An opening in bold type is two asterisks, and the phrase is read behind them. -/
theorem opensBold_iff : opensBold t = true ↔
    ∃ behind rest, t = .scalar '*' :: .scalar '*' :: behind ∧ dropPhrase behind = some rest := by
  rw [opensBold.eq_def]
  split
  · simp [Option.isSome_iff_exists]
  · rename_i hnot
    refine iff_of_false Bool.false_ne_true ?_
    rintro ⟨behind, -, ht, -⟩
    exact hnot behind ht

/-- Up to six number signs are counted before a text that begins with no further one. -/
theorem takeWhile_signs {level : Nat} (hlevel : level ≤ 6)
    (hs : ∀ c ∈ s.head?, c ≠ .scalar '#') :
    ((List.replicate level (CodePoint.scalar '#') ++ s).take 7).takeWhile
      (· == CodePoint.scalar '#') = List.replicate level (.scalar '#') := by
  rw [List.take_append, List.take_of_length_le (by rw [List.length_replicate]; omega),
    List.takeWhile_append_of_pos (by simp), List.length_replicate,
    show 7 - level = (6 - level) + 1 by omega]
  cases s with
  | nil => simp
  | cons c s =>
    rw [List.take_succ_cons, List.takeWhile_cons_of_neg (by simpa using hs c rfl), List.append_nil]

/-- An opening in a heading is one to six number signs, and the phrase is read behind them. -/
theorem opensHeading_iff : opensHeading t = true ↔
    ∃ level behind rest, (1 ≤ level ∧ level ≤ 6) ∧
      t = List.replicate level (.scalar '#') ++ behind ∧ dropPhrase behind = some rest := by
  simp only [opensHeading, Bool.and_eq_true, decide_eq_true_eq, Option.isSome_iff_exists]
  constructor
  · rintro ⟨hlevel, rest, hphrase⟩
    refine ⟨_, _, rest, hlevel, ?_, hphrase⟩
    have hprefix : (t.take 7).takeWhile (· == CodePoint.scalar '#') <+: t :=
      (List.takeWhile_prefix _).trans (List.take_prefix 7 t)
    have hsigns : (t.take 7).takeWhile (· == CodePoint.scalar '#') =
        List.replicate ((t.take 7).takeWhile (· == CodePoint.scalar '#')).length (.scalar '#') :=
      List.eq_replicate_iff.mpr ⟨rfl, fun c hc => by simpa using List.mem_takeWhile_imp hc⟩
    rw [← hsigns]
    exact (List.prefix_iff_eq_append.mp hprefix).symm
  · rintro ⟨level, behind, rest, hlevel, rfl, hphrase⟩
    rw [takeWhile_signs hlevel.2 fun c hc => head_of_dropPhrase hphrase hc,
      List.length_replicate, List.drop_left' (List.length_replicate ..)]
    exact ⟨hlevel, rest, hphrase⟩

/-- An opening begins, behind spaces and tabs, with asterisks, with a number sign, or with the
phrase. Two asterisks stand in front, and the phrase follows them. -/
theorem exists_mark_of_opensLinks (h : opensLinks atLineStart t = true) :
    ∃ blanks c behind, t = blanks ++ c :: behind ∧ (∀ d ∈ blanks, isSpaceOrTab d = true) ∧
      c.isBlank = false ∧ beginsOpening c = true ∧
      (c = .scalar '*' → ∃ phrase, t = .scalar '*' :: .scalar '*' :: phrase ∧
        (dropPhrase phrase).isSome = true) := by
  rw [opensLinks, Bool.or_eq_true, Bool.or_eq_true, Bool.and_eq_true] at h
  rcases h with (hbold | hheading) | ⟨-, hfills⟩
  · rw [opensBold.eq_def] at hbold
    split at hbold
    · rename_i phrase
      exact ⟨[], .scalar '*', .scalar '*' :: phrase, rfl, by simp, by decide, by decide,
        fun _ => ⟨phrase, rfl, hbold⟩⟩
    · cases hbold
  · cases t with
    | nil => cases hheading
    | cons c behind =>
      have hc : c = .scalar '#' := by
        by_contra hne
        simp [opensHeading, hne] at hheading
      rw [hc]
      exact ⟨[], .scalar '#', behind, rfl, by simp, by decide, by decide, by simp⟩
  · obtain ⟨rest, hphrase⟩ : ∃ rest, dropPhrase t = some rest := by
      rw [fillsLine] at hfills
      split at hfills
      · cases hfills
      · rename_i rest heq
        exact ⟨rest, heq⟩
    obtain ⟨letter, behind, hdrop, hletter⟩ := exists_letter_of_dropSpelling hphrase
    obtain ⟨hblank, hbegins, hstar⟩ : CodePoint.isBlank (.scalar letter) = false ∧
        beginsOpening (.scalar letter) = true ∧ letter ≠ '*' := by
      simp only [List.mem_cons, List.not_mem_nil, or_false] at hletter
      rcases hletter with rfl | rfl | rfl <;> decide
    have ht := List.takeWhile_append_dropWhile (p := isSpaceOrTab) (l := t)
    rw [hdrop] at ht
    exact ⟨t.takeWhile isSpaceOrTab, .scalar letter, behind, ht.symm,
      fun d hd => List.mem_takeWhile_imp hd, hblank, hbegins,
      fun h => absurd (CodePoint.scalar.inj h) hstar⟩

/-- The first code point of an opening can begin one. -/
theorem beginsOpening_of_opensLinks {c : CodePoint}
    (h : opensLinks atLineStart (c :: t) = true) : beginsOpening c = true := by
  obtain ⟨blanks, d, behind, ht, hblanks, -, hbegins, -⟩ := exists_mark_of_opensLinks h
  cases blanks with
  | nil =>
    rw [(List.cons.inj ht).1]
    exact hbegins
  | cons blank blanks =>
    rw [(List.cons.inj ht).1, beginsOpening, hblanks blank (List.mem_cons_self ..)]
    rfl

/-- So can the first code point behind its blanks. -/
theorem exists_trimStart_of_opensLinks (h : opensLinks atLineStart t = true) :
    ∃ c behind, t.trimStart = c :: behind ∧ beginsOpening c = true ∧
      (c = .scalar '*' → ∃ phrase, behind = .scalar '*' :: phrase ∧
        (dropPhrase phrase).isSome = true) := by
  obtain ⟨blanks, c, behind, ht, hblanks, hc, hbegins, hstar⟩ := exists_mark_of_opensLinks h
  have hspaces : ∀ d, isSpaceOrTab d = true → d.isBlank = true := by
    intro d hd
    rw [isSpaceOrTab, Bool.or_eq_true, beq_iff_eq, beq_iff_eq] at hd
    rcases hd with rfl | rfl <;> decide
  have hblank : Text.isBlank blanks = true :=
    Text.isBlank_iff.mpr fun d hd => hspaces d (hblanks d hd)
  have htrim : t.trimStart = c :: behind := by
    rw [ht, Text.trimStart_append hblank, Text.trimStart_cons hc]
  refine ⟨c, behind, htrim, hbegins, fun heq => ?_⟩
  obtain ⟨phrase, hbold, hphrase⟩ := hstar heq
  rw [hbold, Text.trimStart_cons (by decide)] at htrim
  exact ⟨phrase, (List.cons.inj htrim).2.symm, hphrase⟩

/-! ### Texts that go on -/

/-- A spelling that was read is read from every longer text. -/
theorem dropSpelling_append {spelling : List (List Char)}
    (h : dropSpelling spelling s = some rest) (t : Text) :
    dropSpelling spelling (s ++ t) = some (rest ++ t) := by
  obtain ⟨word, hword, rfl⟩ := dropSpelling_eq_some_iff.mp h
  exact dropSpelling_eq_some_iff.mpr ⟨word, hword, List.append_assoc word rest t⟩

/-- The phrase that was read is read from every longer text. -/
theorem dropPhrase_append (h : dropPhrase s = some rest) (t : Text) :
    dropPhrase (s ++ t) = some (rest ++ t) := by
  rw [dropPhrase] at h ⊢
  have hne : s.dropWhile isSpaceOrTab ≠ [] := by
    intro hnil
    rw [hnil] at h
    cases h
  rw [List.dropWhile_append, if_neg (by simpa using hne)]
  exact dropSpelling_append h t

/-- Nothing that follows undoes an opening in bold type. -/
theorem opensBold_append (h : opensBold s = true) (t : Text) : opensBold (s ++ t) = true := by
  obtain ⟨behind, rest, rfl, hphrase⟩ := opensBold_iff.mp h
  exact opensBold_iff.mpr ⟨behind ++ t, rest ++ t, rfl, dropPhrase_append hphrase t⟩

/-- Nothing that follows undoes an opening in a heading. -/
theorem opensHeading_append (h : opensHeading s = true) (t : Text) :
    opensHeading (s ++ t) = true := by
  obtain ⟨level, behind, rest, hlevel, rfl, hphrase⟩ := opensHeading_iff.mp h
  exact opensHeading_iff.mpr ⟨level, behind ++ t, rest ++ t, hlevel,
    List.append_assoc _ behind t, dropPhrase_append hphrase t⟩

end CommandDocs.Page
