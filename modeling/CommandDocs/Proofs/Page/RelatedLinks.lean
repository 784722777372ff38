import CommandDocs.Page.RelatedLinks
import CommandDocs.Proofs.Text.Lines
import Mathlib.Data.List.Forall2
import Mathlib.Data.List.TakeWhile

/-!
# Related links line by line

A block of related links opens within one line, so that the search through a whole
page is a search through its lines. An opening is never completed by what stands
behind the newline of its line.
-/

namespace CommandDocs.Page

/-- The newline, which no part of an opening contains. -/
abbrev newline : CodePoint := .scalar '\n'

/-- Dropping stops at a code point that is not dropped, if not before. -/
theorem dropWhile_append_cons {p : CodePoint → Bool} {c : CodePoint} (hc : p c = false)
    (s t : Text) : (s ++ c :: t).dropWhile p = s.dropWhile p ++ c :: t := by
  rw [List.dropWhile_append]
  by_cases h : (s.dropWhile p).isEmpty = true
  · rw [if_pos h, List.dropWhile_cons_of_neg (by simp [hc]), List.isEmpty_iff.mp h]
    rfl
  · rw [if_neg h]

/-- A code point at which the search for the phrase gives up: neither a blank, nor a mark
of an opening, nor a letter of the phrase. -/
def IsForeign (c : CodePoint) : Prop :=
  isSpaceOrTab c = false ∧ c ≠ .scalar '*' ∧ c ≠ .scalar '#' ∧
    ∀ choices ∈ linksPhrase, c ∉ choices.map CodePoint.scalar

instance (c : CodePoint) : Decidable (IsForeign c) :=
  inferInstanceAs (Decidable (isSpaceOrTab c = false ∧ c ≠ .scalar '*' ∧ c ≠ .scalar '#' ∧
    ∀ choices ∈ linksPhrase, c ∉ choices.map CodePoint.scalar))

/-- The newline is foreign to the phrase. -/
theorem isForeign_newline : IsForeign newline := by decide

variable {c : CodePoint}

/-- One code point is read for each character that is spelled, in one of its spellings. -/
theorem dropSpelling_eq_some_iff {spelling : List (List Char)} {s rest : Text} :
    dropSpelling spelling s = some rest ↔
      ∃ word, List.Forall₂ (fun c choices => c ∈ choices.map CodePoint.scalar) word spelling ∧
        s = word ++ rest := by
  induction spelling generalizing s with
  | nil => simp [dropSpelling]
  | cons choices more ih =>
    simp only [List.forall₂_cons_right_iff]
    cases s with
    | nil => simp [dropSpelling]
    | cons c s =>
      cases c with
      | surrogate k => simp [dropSpelling]
      | scalar c =>
        rw [dropSpelling]
        constructor
        · intro h
          split at h
          · rename_i hc
            obtain ⟨word, hword, rfl⟩ := ih.mp h
            exact ⟨.scalar c :: word, ⟨_, word, List.mem_map_of_mem hc, hword, rfl⟩, rfl⟩
          · cases h
        · rintro ⟨_, ⟨d, word, hd, hword, rfl⟩, hs⟩
          obtain ⟨rfl, rfl⟩ := List.cons.inj hs
          obtain ⟨letter, hc, heq⟩ := List.mem_map.mp hd
          rw [CodePoint.scalar.inj heq] at hc
          rw [if_pos hc]
          exact ih.mpr ⟨word, hword, rfl⟩

/-- A spelling is read before a code point that is none of its letters, or not at all. -/
theorem dropSpelling_append_cons {spelling : List (List Char)}
    (hs : ∀ choices ∈ spelling, c ∉ choices.map CodePoint.scalar) (s t : Text) :
    dropSpelling spelling (s ++ c :: t) = (dropSpelling spelling s).map (· ++ c :: t) := by
  induction spelling generalizing s with
  | nil => simp [dropSpelling]
  | cons choices more ih =>
    have hmore := ih fun choices hc => hs choices (List.mem_cons_of_mem _ hc)
    cases s with
    | nil =>
      have hc : c ∉ choices.map CodePoint.scalar := hs choices (List.mem_cons_self ..)
      cases c with
      | surrogate k => simp [dropSpelling]
      | scalar letter =>
        have hletter : letter ∉ choices := fun h => hc (List.mem_map_of_mem h)
        simp [dropSpelling, hletter]
    | cons d rest =>
      cases d with
      | surrogate k => simp [dropSpelling]
      | scalar d =>
        rw [List.cons_append, dropSpelling, dropSpelling]
        by_cases hd : d ∈ choices
        · rw [if_pos hd, if_pos hd, hmore]
        · rw [if_neg hd, if_neg hd]
          rfl

/-- The phrase is read before a foreign code point or not at all. -/
theorem dropPhrase_append_cons (hc : IsForeign c) (s t : Text) :
    dropPhrase (s ++ c :: t) = (dropPhrase s).map (· ++ c :: t) := by
  rw [dropPhrase, dropWhile_append_cons hc.1, dropSpelling_append_cons hc.2.2.2]
  rfl

/-- An opening in bold type ends before a foreign code point. -/
theorem opensBold_append_cons (hc : IsForeign c) (s t : Text) :
    opensBold (s ++ c :: t) = opensBold s := by
  match s with
  | [] =>
    rw [List.nil_append, opensBold.eq_2 _ fun rest h => hc.2.1 (List.cons.inj h).1]
    rfl
  | [d] =>
    have halone : opensBold [d] = false := opensBold.eq_2 _ (by simp)
    rw [List.singleton_append, halone]
    refine opensBold.eq_2 _ fun rest h => ?_
    exact hc.2.1 (List.cons.inj (List.cons.inj h).2).1
  | d :: e :: rest =>
    by_cases h : d = .scalar '*' ∧ e = .scalar '*'
    · obtain ⟨rfl, rfl⟩ := h
      simp [opensBold, dropPhrase_append_cons hc]
    · rw [opensBold.eq_2, opensBold.eq_2]
      · intro r heq
        simp only [List.cons.injEq] at heq
        exact h ⟨heq.1, heq.2.1⟩
      · intro r heq
        simp only [List.cons_append, List.cons.injEq] at heq
        exact h ⟨heq.1, heq.2.1⟩

/-- An opening in a heading ends before a foreign code point. -/
theorem opensHeading_append_cons (hc : IsForeign c) (s t : Text) :
    opensHeading (s ++ c :: t) = opensHeading s := by
  have hsign : (c == CodePoint.scalar '#') = false := beq_eq_false_iff_ne.mpr hc.2.2.1
  have hsigns : ((s ++ c :: t).take 7).takeWhile (· == CodePoint.scalar '#') =
      (s.take 7).takeWhile (· == CodePoint.scalar '#') := by
    rw [List.take_append]
    cases hk : 7 - s.length with
    | zero => simp
    | succ k =>
      rw [List.take_succ_cons, List.takeWhile_append]
      split
      · rename_i hlen
        rw [List.takeWhile_cons_of_neg (by simp [hsign]), List.append_nil]
        exact ((List.takeWhile_prefix _).eq_of_length hlen).symm
      · rfl
  have hle : ((s.take 7).takeWhile (· == CodePoint.scalar '#')).length ≤ s.length := by
    have h1 := (List.takeWhile_prefix (· == CodePoint.scalar '#') (l := s.take 7)).length_le
    have h2 := List.length_take_le' 7 s
    omega
  simp only [opensHeading, hsigns, List.drop_append_of_le_length hle, dropPhrase_append_cons hc,
    Option.isSome_map]

/-- The end of the line is where the newline stands. -/
theorem atLineEnd_append_newline (s t : Text) :
    atLineEnd (s ++ newline :: t) = atLineEnd s := by
  match s with
  | [] => rfl
  | [c] =>
    by_cases hc : c = .scalar '\r'
    · rw [hc]
      rfl
    · simp [atLineEnd, hc]
  | c :: d :: rest =>
    by_cases h : c = .scalar '\r' ∧ d = .scalar '\n'
    · obtain ⟨rfl, rfl⟩ := h
      rfl
    · have hno : ∀ tail, c = .scalar '\r' → d :: tail = [] → False := by simp
      have hnot : ∀ tail others, c = .scalar '\r' → d :: tail = .scalar '\n' :: others → False := by
        intro tail others hc heq
        exact h ⟨hc, (List.cons.inj heq).1⟩
      rw [List.cons_append, List.cons_append, atLineEnd.eq_4 _ _ (hno _) (hnot _),
        atLineEnd.eq_4 _ _ (hno _) (hnot _)]

/-- What a spelling leaves is the end of the text. -/
theorem suffix_of_dropSpelling {spelling : List (List Char)} {s rest : Text}
    (h : dropSpelling spelling s = some rest) : rest <:+ s := by
  obtain ⟨word, -, rfl⟩ := dropSpelling_eq_some_iff.mp h
  exact List.suffix_append word rest

/-- What the phrase leaves is the end of the text. -/
theorem suffix_of_dropPhrase {s rest : Text} (h : dropPhrase s = some rest) : rest <:+ s :=
  (suffix_of_dropSpelling h).trans (List.dropWhile_suffix _)

/-- A phrase fills its line up to a foreign code point if the line is at its end there. -/
theorem fillsLine_append_cons (hc : IsForeign c) (hcolon : c ≠ .scalar ':') {s t : Text}
    (hend : ∀ rest, rest <:+ s → atLineEnd (rest ++ c :: t) = atLineEnd rest) :
    fillsLine (s ++ c :: t) = fillsLine s := by
  rw [fillsLine, dropPhrase_append_cons hc]
  rw [fillsLine]
  cases hphrase : dropPhrase s with
  | none => rfl
  | some rest =>
    simp only [Option.map_some]
    rw [dropWhile_append_cons hc.1]
    have hsuffix : rest.dropWhile isSpaceOrTab <:+ s :=
      (List.dropWhile_suffix _).trans (suffix_of_dropPhrase hphrase)
    cases hr : rest.dropWhile isSpaceOrTab with
    | nil =>
      rw [List.nil_append]
      split
      · rename_i heq
        exact absurd (List.cons.inj heq).1 hcolon
      · exact hend [] (List.nil_suffix)
    | cons d behind =>
      rw [hr] at hsuffix
      by_cases hd : d = .scalar ':'
      · have hbehind : behind.dropWhile isSpaceOrTab <:+ s :=
          (List.dropWhile_suffix _).trans ((List.suffix_cons _ _).trans hsuffix)
        simp only [hd, List.cons_append]
        rw [dropWhile_append_cons hc.1, hend _ hbehind]
      · have h := hend (d :: behind) hsuffix
        rw [List.cons_append] at h ⊢
        split
        · rename_i heq
          exact absurd (List.cons.inj heq).1 hd
        · split
          · rename_i heq
            exact absurd (List.cons.inj heq).1 hd
          · exact h

/-- A phrase that fills its line does so whatever the next lines are. -/
theorem fillsLine_append_newline (s t : Text) :
    fillsLine (s ++ newline :: t) = fillsLine s :=
  fillsLine_append_cons isForeign_newline (by decide) fun rest _ => atLineEnd_append_newline rest t

/-- An opening lies in its line. -/
theorem opensLinks_append_newline (atLineStart : Bool) (s t : Text) :
    opensLinks atLineStart (s ++ newline :: t) = opensLinks atLineStart s := by
  rw [opensLinks, opensBold_append_cons isForeign_newline,
    opensHeading_append_cons isForeign_newline, fillsLine_append_newline, opensLinks]

/-- Nothing opens at a foreign code point. -/
theorem opensLinks_of_foreign (hc : IsForeign c) (atLineStart : Bool) (t : Text) :
    opensLinks atLineStart (c :: t) = false := by
  have hbold := opensBold_append_cons hc [] t
  have hheading := opensHeading_append_cons hc [] t
  have hphrase := dropPhrase_append_cons hc [] t
  rw [List.nil_append] at hbold hheading hphrase
  rw [opensLinks, hbold, hheading, fillsLine, hphrase]
  cases atLineStart <;> rfl

/-- The search goes through the first line and then through the others. -/
theorem findOpening_append_newline {line : Text} (hline : newline ∉ line) (atLineStart : Bool)
    (t : Text) :
    findOpening atLineStart (line ++ newline :: t) =
      (findOpening atLineStart line).or
        ((findOpening true t).map (· + (line.length + 1))) := by
  induction line generalizing atLineStart with
  | nil =>
    simp [findOpening, opensLinks_of_foreign isForeign_newline atLineStart t]
  | cons c rest ih =>
    have hc : (c == newline) = false := by
      rw [beq_eq_false_iff_ne]
      exact fun h => hline (h ▸ List.mem_cons_self ..)
    have hrest : newline ∉ rest := fun h => hline (List.mem_cons_of_mem _ h)
    have hopens := opensLinks_append_newline atLineStart (c :: rest) t
    rw [List.cons_append] at hopens ⊢
    rw [findOpening, findOpening, hopens, hc]
    by_cases ho : opensLinks atLineStart (c :: rest) = true
    · rw [if_pos ho, if_pos ho]
      rfl
    · rw [if_neg ho, if_neg ho, ih hrest]
      cases findOpening false rest with
      | some i => rfl
      | none =>
        cases findOpening true t <;> simp [Nat.add_assoc]

/-- Lines in which no block opens are passed over as a whole. -/
theorem findOpening_unlines_append {ls : List Text} (hls : ∀ line ∈ ls, newline ∉ line)
    (hno : ∀ line ∈ ls, findRelatedLinks line = none) (t : Text) :
    findOpening true (Text.unlines ls ++ t) =
      (findOpening true t).map (· + (Text.unlines ls).length) := by
  induction ls with
  | nil => simp [Text.unlines]
  | cons line rest ih =>
    have hrest := ih (fun l hl => hls l (List.mem_cons_of_mem _ hl))
      (fun l hl => hno l (List.mem_cons_of_mem _ hl))
    have hfirst : findOpening true line = none := hno line (List.mem_cons_self ..)
    rw [Text.unlines_cons, List.append_assoc, List.cons_append,
      findOpening_append_newline (hls line (List.mem_cons_self ..)), hfirst, hrest]
    cases findOpening true t with
    | none => rfl
    | some i =>
      simp only [Option.map_some, Option.none_or, List.length_append, List.length_cons,
        Option.some.injEq]
      omega

end CommandDocs.Page
