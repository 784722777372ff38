import CommandDocs.Proofs.Page.Openings
import CommandDocs.Proofs.Text.Trim

/-!
# Cutting a page twice

The body of a page is the page before its related links, trimmed. No opening in bold type
or in a heading is left in it. Cutting and trimming can however leave the bare phrase on a
line of its own, at the very beginning or at the very end, where it was followed or preceded
by something before. These are the only pages that lose more when they are cut again.
-/

namespace CommandDocs.Page

open Text

variable {t : Text} {i k : Nat}

/-- What stands before the first newline. -/
def firstLine (t : Text) : Text := t.takeWhile (· != newline)

/-- What stands behind the last newline. -/
def lastLine (t : Text) : Text := t.rtakeWhile (· != newline)

/-- The phrase stands alone on the first or on the last line. -/
def hasBareEnd (t : Text) : Bool := fillsLine (firstLine t) || fillsLine (lastLine t)

/-! ### First and last lines -/

/-- The phrase stands alone at the beginning of a text when it fills the first line. -/
theorem fillsLine_firstLine (t : Text) : fillsLine (firstLine t) = fillsLine t := by
  by_cases hmem : newline ∈ t
  · obtain ⟨line, more, ht, hline⟩ := List.eq_append_cons_of_mem hmem
    have hfirst : firstLine t = line := by
      rw [firstLine, ht, List.takeWhile_append_of_pos, List.takeWhile_cons_of_neg (by simp),
        List.append_nil]
      intro c hc
      exact bne_iff_ne.mpr fun h => hline (h ▸ hc)
    rw [hfirst, ht, fillsLine_append_newline]
  · have hfirst : firstLine t = t := by
      rw [firstLine, List.takeWhile_eq_self_iff]
      intro c hc
      exact bne_iff_ne.mpr fun h => hmem (h ▸ hc)
    rw [hfirst]

/-- A text without newlines is its own last line. -/
theorem lastLine_of_not_mem (h : newline ∉ t) : lastLine t = t := by
  rw [lastLine, List.rtakeWhile_eq_self_iff]
  intro c hc
  exact bne_iff_ne.mpr fun heq => h (heq ▸ hc)

/-- The last line begins behind the last newline. -/
theorem lastLine_append {line : Text} (h : newline ∉ line) (before : Text) :
    lastLine (before ++ newline :: line) = line := by
  rw [lastLine, List.rtakeWhile, List.reverse_append, List.reverse_cons, List.append_assoc,
    List.takeWhile_append_of_pos, List.singleton_append, List.takeWhile_cons_of_neg (by simp),
    List.append_nil, List.reverse_reverse]
  intro c hc
  exact bne_iff_ne.mpr fun heq => h (heq ▸ List.mem_reverse.mp hc)

/-- A text with a newline is what stands before the last one, and the last line. -/
theorem exists_lastLine (h : newline ∈ t) : ∃ before, t = before ++ newline :: lastLine t := by
  obtain ⟨line, before, hsplit, hline⟩ := List.eq_append_cons_of_mem (List.mem_reverse.mpr h)
  have ht : t = before.reverse ++ newline :: line.reverse := by
    rw [← List.reverse_reverse t, hsplit]
    simp
  have hlast : lastLine t = line.reverse := by
    rw [ht]
    exact lastLine_append (fun hmem => hline (List.mem_reverse.mp hmem)) _
  exact ⟨before.reverse, by rw [hlast, ← ht]⟩

/-! ### What is left in the body -/

/-- No opening means none of the three kinds. -/
theorem opensLinks_eq_false_iff {atLineStart : Bool} :
    opensLinks atLineStart t = false ↔
      opensBold t = false ∧ opensHeading t = false ∧
        (atLineStart = true → fillsLine t = false) := by
  cases atLineStart <;> simp [opensLinks, and_assoc]

/-- In a text without openings the phrase stands alone on no line. -/
theorem hasBareEnd_of_none (h : findRelatedLinks t = none) : hasBareEnd t = false := by
  have hclosed := findOpening_eq_none_iff.mp h
  have hfirst : fillsLine t = false := (opensLinks_eq_false_iff.mp (hclosed 0)).2.2 rfl
  have hlast : fillsLine (lastLine t) = false := by
    by_cases hmem : newline ∈ t
    · obtain ⟨before, ht⟩ := exists_lastLine hmem
      have hbegins : beginsLine true t (before.length + 1) = true := by
        rw [ht]
        simp [beginsLine]
      have hdrop : t.drop (before.length + 1) = lastLine t := by
        conv_lhs => rw [ht]
        rw [← List.drop_drop, List.drop_left, List.drop_succ_cons, List.drop_zero]
      have hat := (opensLinks_eq_false_iff.mp (hclosed (before.length + 1))).2.2 hbegins
      rwa [hdrop] at hat
    · rw [lastLine_of_not_mem hmem]
      exact hfirst
  rw [hasBareEnd, fillsLine_firstLine, hfirst, hlast]
  rfl

/-- The body lies in the page, before the opening that was found. -/
theorem exists_body (h : findRelatedLinks t = some i) :
    ∃ front rest, t = front ++ (withoutRelatedLinks t ++ rest) ∧
      front.length + (withoutRelatedLinks t).length ≤ i := by
  obtain ⟨front, back, -, -, hcut⟩ := exists_blanks_trim (t.take i)
  have hbody : withoutRelatedLinks t = Text.trim (t.take i) := by simp only [withoutRelatedLinks, h]
  rw [← hbody] at hcut
  refine ⟨front, back ++ t.drop i, ?_, ?_⟩
  · have hsplit := List.take_append_drop i t
    rw [hcut, List.append_assoc, List.append_assoc] at hsplit
    exact hsplit.symm
  · have hlength := congrArg List.length hcut
    have hle := List.length_take_le i t
    simp only [List.length_append] at hlength
    omega

/-- Up to the opening that was found nothing opens, so at a position of the body no opening
is completed by what follows the body. -/
theorem opensLinks_of_within {front body rest : Text}
    (h : findRelatedLinks (front ++ (body ++ rest)) = some i)
    (hi : front.length + body.length ≤ i) (hk : k < body.length) :
    opensLinks (beginsLine true (front ++ (body ++ rest)) (front.length + k))
      (body.drop k ++ rest) = false := by
  have hdrop : (front ++ (body ++ rest)).drop (front.length + k) = body.drop k ++ rest := by
    rw [← List.drop_drop, List.drop_left, List.drop_append_of_le_length hk.le]
  rw [← hdrop]
  exact (findOpening_eq_some_iff.mp h).2 (front.length + k) (by omega)

/-- Behind a newline the phrase is bare only when the text ends: then this is the last line. -/
theorem lastLine_of_bare {body rest : Text} (hget : body[k]? = some newline)
    (hlong : fillsLine (body.drop (k + 1) ++ rest) = false)
    (hbare : fillsLine (body.drop (k + 1)) = true) : lastLine body = body.drop (k + 1) := by
  have hlast : newline ∉ body.drop (k + 1) := by
    intro hmem
    obtain ⟨line, more, hline, -⟩ := List.eq_append_cons_of_mem hmem
    rw [hline, List.append_assoc, List.cons_append, fillsLine_append_newline] at hlong
    rw [hline, fillsLine_append_newline, hlong] at hbare
    cases hbare
  have hbody : body = body.take k ++ newline :: body.drop (k + 1) := by
    obtain ⟨hk, hnewline⟩ := List.getElem?_eq_some_iff.mp hget
    have hcons := List.drop_eq_getElem_cons hk
    rw [hnewline] at hcons
    rw [← hcons, List.take_append_drop]
  calc lastLine body = lastLine (body.take k ++ newline :: body.drop (k + 1)) :=
        congrArg lastLine hbody
    _ = body.drop (k + 1) := lastLine_append hlast _

/-- Whatever opens within the body is the bare phrase, at the beginning of the body or on
its last line. -/
theorem bare_of_opensLinks_body (h : findRelatedLinks t = some i)
    (hopens : opensLinks (beginsLine true (withoutRelatedLinks t) k)
      ((withoutRelatedLinks t).drop k) = true) :
    opensBold ((withoutRelatedLinks t).drop k) = false ∧
      opensHeading ((withoutRelatedLinks t).drop k) = false ∧
        hasBareEnd (withoutRelatedLinks t) = true := by
  obtain ⟨front, rest, ht, hlength⟩ := exists_body h
  generalize withoutRelatedLinks t = body at hopens ht hlength ⊢
  subst ht
  have hk : k < body.length := by
    by_contra hlong
    rw [List.drop_eq_nil_of_le (Nat.not_lt.mp hlong), opensLinks_nil] at hopens
    cases hopens
  obtain ⟨hbold, hheading, hfills⟩ :=
    opensLinks_eq_false_iff.mp (opensLinks_of_within h hlength hk)
  have hbold' : opensBold (body.drop k) = false :=
    Bool.eq_false_iff.mpr fun hb => by rw [opensBold_append hb rest] at hbold; cases hbold
  have hheading' : opensHeading (body.drop k) = false :=
    Bool.eq_false_iff.mpr fun hh => by rw [opensHeading_append hh rest] at hheading; cases hheading
  refine ⟨hbold', hheading', ?_⟩
  rw [opensLinks, hbold', hheading', Bool.or_self, Bool.false_or, Bool.and_eq_true] at hopens
  obtain ⟨hbegins, hbare⟩ := hopens
  cases k with
  | zero =>
    rw [List.drop_zero] at hbare
    rw [hasBareEnd, fillsLine_firstLine, hbare]
    rfl
  | succ k =>
    have hget : body[k]? = some newline := eq_of_beq hbegins
    -- The line begins on the page too; only what follows the body keeps it from being bare.
    have hpage : beginsLine true (front ++ (body ++ rest)) (front.length + (k + 1)) = true := by
      rw [← Nat.add_assoc, beginsLine, List.getElem?_append_right (by omega),
        Nat.add_sub_cancel_left, List.getElem?_append_left (by omega), hget]
      exact beq_self_eq_true _
    rw [hasBareEnd, lastLine_of_bare hget (hfills hpage) hbare, hbare, Bool.or_true]

/-- No opening in bold type or in a heading is left in the body. -/
theorem unmarked_body (t : Text) (k : Nat) :
    opensBold ((withoutRelatedLinks t).drop k) = false ∧
      opensHeading ((withoutRelatedLinks t).drop k) = false := by
  cases h : findRelatedLinks t with
  | none =>
    have hbody : withoutRelatedLinks t = t := by simp only [withoutRelatedLinks, h]
    obtain ⟨hbold, hheading, -⟩ := opensLinks_eq_false_iff.mp (findOpening_eq_none_iff.mp h k)
    rw [hbody]
    exact ⟨hbold, hheading⟩
  | some i =>
    by_cases hopens : opensLinks (beginsLine true (withoutRelatedLinks t) k)
        ((withoutRelatedLinks t).drop k) = true
    · obtain ⟨hbold, hheading, -⟩ := bare_of_opensLinks_body h hopens
      exact ⟨hbold, hheading⟩
    · obtain ⟨hbold, hheading, -⟩ := opensLinks_eq_false_iff.mp (Bool.eq_false_iff.mpr hopens)
      exact ⟨hbold, hheading⟩

/-- The body holds no opening, unless it has the bare phrase at one of its ends. -/
theorem findRelatedLinks_body_eq_none_iff (t : Text) :
    findRelatedLinks (withoutRelatedLinks t) = none ↔
      hasBareEnd (withoutRelatedLinks t) = false := by
  refine ⟨hasBareEnd_of_none, fun hend => ?_⟩
  cases h : findRelatedLinks t with
  | none =>
    have hbody : withoutRelatedLinks t = t := by simp only [withoutRelatedLinks, h]
    rw [hbody, h]
  | some i =>
    refine findOpening_eq_none_iff.mpr fun k => Bool.eq_false_iff.mpr fun hopens => ?_
    obtain ⟨-, -, hbare⟩ := bare_of_opensLinks_body h hopens
    rw [hend] at hbare
    cases hbare

/-- Trimming makes no text longer. -/
theorem length_trim_le (t : Text) : (Text.trim t).length ≤ t.length := by
  obtain ⟨front, back, -, -, ht⟩ := exists_blanks_trim t
  have hlength := congrArg List.length ht
  simp only [List.length_append] at hlength
  omega

/-- Cutting changes a text when it finds an opening, and only then. -/
theorem withoutRelatedLinks_eq_self_iff (t : Text) :
    withoutRelatedLinks t = t ↔ findRelatedLinks t = none := by
  constructor
  · intro hsame
    cases h : findRelatedLinks t with
    | none => rfl
    | some i =>
      have hbody : withoutRelatedLinks t = Text.trim (t.take i) := by
        simp only [withoutRelatedLinks, h]
      have hshort := length_trim_le (t.take i)
      have htake := List.length_take_le i t
      have hlt := lt_length_of_findOpening h
      rw [← hbody, hsame] at hshort
      omega
  · intro h
    simp only [withoutRelatedLinks, h]

/-- What a second cut finds. Openings in bold type and in headings are gone after the first
one. The body holds an opening, and loses something when it is cut again, exactly when the
bare phrase stands on its first or on its last line. -/
theorem cut_again (t : Text) :
    (findRelatedLinks (withoutRelatedLinks t) = none ↔
        hasBareEnd (withoutRelatedLinks t) = false) ∧
      (withoutRelatedLinks (withoutRelatedLinks t) = withoutRelatedLinks t ↔
        hasBareEnd (withoutRelatedLinks t) = false) ∧
      ∀ k, opensBold ((withoutRelatedLinks t).drop k) = false ∧
        opensHeading ((withoutRelatedLinks t).drop k) = false := by
  have hnone := findRelatedLinks_body_eq_none_iff t
  refine ⟨hnone, ?_, unmarked_body t⟩
  rw [withoutRelatedLinks_eq_self_iff, hnone]

/-- A page that asks the reader twice to see also, the first time with a no-break space
behind the colon. -/
def pageWithBareEnd : Text := "Absolute value.\n\nSee also:\u00a0\n\n**See Also**\n"

/-- Trimming takes the no-break space away, so the body ends in a line that opens a block of
related links, and the second cut finds it. -/
theorem bare_phrase_left_in_body :
    findRelatedLinks pageWithBareEnd = some 29 ∧
      withoutRelatedLinks pageWithBareEnd = ("Absolute value.\n\nSee also:" : Text) ∧
      findRelatedLinks (withoutRelatedLinks pageWithBareEnd) = some 17 ∧
      withoutRelatedLinks (withoutRelatedLinks pageWithBareEnd) = ("Absolute value." : Text) := by
  decide

end CommandDocs.Page
